import SqlTemplate.Number.Power

/-! Binary floating-point words: what they denote, and the word nearest to a fraction. -/

namespace SqlTemplate.Number

structure BinaryFormat where
  fractionBits : Nat
  exponentBits : Nat

/-- What a word denotes; a finite one is `significand * 2 ^ exponent` with its sign. -/
inductive Datum
  | nan
  | infinite (negative : Bool)
  | finite (negative : Bool) (significand : Nat) (exponent : Int)
  deriving DecidableEq, Repr

def divNearestEven (num den : Nat) : Nat :=
  let quotient := num / den
  let twice := 2 * (num % den)
  if twice < den then quotient
  else if den < twice then quotient + 1
  else quotient + quotient % 2

/-- The exponent `e` with `2 ^ e ≤ num / den < 2 ^ (e + 1)`, for a positive fraction. -/
def log2Fraction (num den : Nat) : Int :=
  let guess : Int := (num.log2 : Int) - den.log2
  let reached :=
    if 0 ≤ guess then den * twoPow guess.toNat ≤ num else den ≤ num * twoPow (-guess).toNat
  if reached then guess else guess - 1

namespace BinaryFormat

def double : BinaryFormat := ⟨52, 11⟩

def single : BinaryFormat := ⟨23, 8⟩

def leastExponent (format : BinaryFormat) : Int :=
  2 - (twoPow (format.exponentBits - 1) : Int) - format.fractionBits

def infinityWord (format : BinaryFormat) : Nat :=
  (twoPow format.exponentBits - 1) * twoPow format.fractionBits

def signWeight (format : BinaryFormat) : Nat :=
  twoPow (format.exponentBits + format.fractionBits)

def withSign (format : BinaryFormat) (negative : Bool) (magnitude : Nat) : Nat :=
  if negative then format.signWeight + magnitude else magnitude

def decode (format : BinaryFormat) (word : Nat) : Datum :=
  let negative := word / format.signWeight % 2 == 1
  let magnitude := word % format.signWeight
  let field := magnitude / twoPow format.fractionBits
  let fraction := magnitude % twoPow format.fractionBits
  if format.infinityWord < magnitude then .nan
  else if magnitude = format.infinityWord then .infinite negative
  else if field = 0 then .finite negative fraction format.leastExponent
  else .finite negative (twoPow format.fractionBits + fraction) (format.leastExponent + field - 1)

/-- The word nearest to `num / den`, to the even one of two; too large a fraction is infinite. -/
def round (format : BinaryFormat) (negative : Bool) (num den : Nat) : Nat :=
  if num = 0 then format.withSign negative 0
  else
    let place := max (log2Fraction num den - format.fractionBits) format.leastExponent
    let significand :=
      if 0 ≤ place then divNearestEven num (den * twoPow place.toNat)
      else divNearestEven (num * twoPow (-place).toNat) den
    let magnitude := (place - format.leastExponent).toNat * twoPow format.fractionBits + significand
    format.withSign negative (min magnitude format.infinityWord)

end BinaryFormat

def dyadic (significand : Nat) (exponent : Int) : Nat × Nat :=
  if 0 ≤ exponent then (significand * twoPow exponent.toNat, 1)
  else (significand, twoPow (-exponent).toNat)

structure Double where
  bits : UInt64
  deriving DecidableEq, Repr

namespace Double

def datum (x : Double) : Datum :=
  BinaryFormat.double.decode x.bits.toNat

def ofFraction (negative : Bool) (num den : Nat) : Double :=
  ⟨UInt64.ofNat (BinaryFormat.double.round negative num den)⟩

def ofInt (n : Int) : Double :=
  ofFraction (n < 0) n.natAbs 1

def isFinite (x : Double) : Bool :=
  match x.datum with
  | .finite .. => true
  | _ => false

def toInt? (x : Double) : Option Int :=
  match x.datum with
  | .finite negative significand exponent =>
    let (num, den) := dyadic significand exponent
    if num % den = 0 then
      let magnitude : Int := (num / den : Nat)
      some (if negative then -magnitude else magnitude)
    else none
  | _ => none

/-- Equality of numbers: no number is equal to one that is not a number, and the zeros are equal. -/
def numEq (x y : Double) : Bool :=
  match x.datum, y.datum with
  | .nan, _ => false
  | _, .nan => false
  | .finite _ 0 _, .finite _ 0 _ => true
  | _, _ => x.bits == y.bits

/-- A word that is no number in another format: quiet, with the leading bits of its payload. -/
def quietNan (source target : BinaryFormat) (word : Nat) : Nat :=
  let negative := word / source.signWeight % 2 == 1
  let fraction := word % twoPow source.fractionBits
  let payload :=
    if source.fractionBits ≤ target.fractionBits then
      fraction * twoPow (target.fractionBits - source.fractionBits)
    else fraction / twoPow (source.fractionBits - target.fractionBits)
  let quiet := twoPow (target.fractionBits - 1)
  target.withSign negative
    (target.infinityWord + if payload < quiet then quiet + payload else payload)

def convert (source target : BinaryFormat) (word : Nat) : Nat :=
  match source.decode word with
  | .nan => quietNan source target word
  | .infinite negative => target.withSign negative target.infinityWord
  | .finite negative significand exponent =>
    let (num, den) := dyadic significand exponent
    target.round negative num den

def toSingle (x : Double) : UInt32 :=
  UInt32.ofNat (convert .double .single x.bits.toNat)

def ofSingle (word : UInt32) : Double :=
  ⟨UInt64.ofNat (convert .single .double word.toNat)⟩

end Double

def singleOfInt (n : Int) : UInt32 :=
  UInt32.ofNat (BinaryFormat.single.round (n < 0) n.natAbs 1)

end SqlTemplate.Number
