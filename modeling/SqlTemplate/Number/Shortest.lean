import SqlTemplate.Number.Binary
import SqlTemplate.Number.Digits

/-! The shortest decimal that reads back as a binary number, and ways to lay it out. -/

namespace SqlTemplate.Number

/-- Which way a decimal half between two candidates goes. -/
inductive Tie
  | up
  | even
  deriving DecidableEq, Repr

structure Decimal where
  significand : Nat
  exponent : Int
  deriving DecidableEq, Repr

/-- The fractions between which every real rounds to a given one, all over one denominator. -/
structure Interval where
  lower : Nat
  value : Nat
  upper : Nat
  den : Nat
  closed : Bool

namespace Interval

/-- The reals that round to `significand * 2 ^ exponent`. Below a power of two the numbers lie twice
as dense, except at the smallest exponent. -/
def ofDatum (format : BinaryFormat) (significand : Nat) (exponent : Int) : Interval :=
  let dense := significand = twoPow format.fractionBits ∧ format.leastExponent < exponent
  let (num, den) := dyadic 1 exponent
  { lower := (4 * significand - if dense then 1 else 2) * num
    value := 4 * significand * num
    upper := (4 * significand + 2) * num
    den := 4 * den
    closed := significand % 2 = 0 }

def contains (i : Interval) (num den : Nat) : Bool :=
  let point := num * i.den
  if i.closed then i.lower * den ≤ point && point ≤ i.upper * den
  else i.lower * den < point && point < i.upper * den

def nearestOn (i : Interval) (tie : Tie) (exponent : Int) : Option Decimal :=
  let (up, down) :=
    if 0 ≤ exponent then (tenPow exponent.toNat, 1) else (1, tenPow (-exponent).toNat)
  let below := i.value * down / (i.den * up)
  let above := below + 1
  let rest := 2 * (i.value * down % (i.den * up))
  match i.contains (below * up) down, i.contains (above * up) down with
  | false, false => none
  | true, false => some ⟨below, exponent⟩
  | false, true => some ⟨above, exponent⟩
  | true, true =>
    let upper :=
      rest > i.den * up || (rest == i.den * up && (tie == .up || below % 2 == 1))
    some ⟨if upper then above else below, exponent⟩

def search (i : Interval) (tie : Tie) : Nat → Int → Option Decimal
  | 0, _ => none
  | steps + 1, exponent =>
    match i.nearestOn tie exponent with
    | some decimal => some decimal
    | none => search i tie steps (exponent - 1)

end Interval

def stripZeros : Nat → Decimal → Decimal
  | 0, d => d
  | steps + 1, d =>
    if d.significand ≠ 0 ∧ d.significand % 10 = 0 then
      stripZeros steps ⟨d.significand / 10, d.exponent + 1⟩
    else d

/-- The decimal with the fewest digits that reads back as `significand * 2 ^ exponent`, and of those
the nearest. The first grid is coarser than the number, and twenty digits always suffice. -/
def shortest (format : BinaryFormat) (tie : Tie) (significand : Nat) (exponent : Int) : Decimal :=
  if significand = 0 then ⟨0, 0⟩
  else
    let i := Interval.ofDatum format significand exponent
    let magnitude := log2Fraction i.value i.den * 30103 / 100000 + 1
    match i.search tie 20 magnitude with
    | some decimal => stripZeros 20 decimal
    | none => ⟨0, 0⟩

/-- How a number is written: which positions of the decimal point are written without an exponent,
what follows the digits of a whole number, and what stands before an exponent that is not
negative. -/
structure Layout where
  tie : Tie
  positional : Int → Bool
  whole : String
  plus : String

/-- Writes a decimal. The point stands `digits.length + exponent` places after the first digit's
left edge. -/
def Layout.decimal (layout : Layout) (d : Decimal) : List Char :=
  let ds := digits d.significand
  let point : Int := ds.length + d.exponent
  if d.significand = 0 then '0' :: layout.whole.toList
  else if layout.positional point then
    if 0 ≤ d.exponent then ds ++ List.replicate d.exponent.toNat '0' ++ layout.whole.toList
    else if 0 < point then ds.take point.toNat ++ '.' :: ds.drop point.toNat
    else '0' :: '.' :: (List.replicate (-point).toNat '0' ++ ds)
  else
    let mantissa := match ds with
      | first :: second :: more => first :: '.' :: second :: more
      | short => short
    let sign := if 0 < point then layout.plus.toList else []
    mantissa ++ 'e' :: (sign ++ intText (point - 1))

def Layout.write (layout : Layout) (format : BinaryFormat) (word : Nat) : List Char :=
  match format.decode word with
  | .nan => "NaN".toList
  | .infinite negative => if negative then "-inf".toList else "inf".toList
  | .finite negative significand exponent =>
    let magnitude := layout.decimal (shortest format layout.tie significand exponent)
    if negative then '-' :: magnitude else magnitude

namespace Layout

def plain : Layout := ⟨.up, fun _ => true, "", ""⟩

/-- From `1e-4` below `1e16` written out and with a point, else with an exponent. -/
def marked : Layout := ⟨.up, fun point => -4 < point && point < 17, ".0", ""⟩

/-- The numbers of JSON documents: from `1e-5` below `1e16` written out and with a point. -/
def document : Layout := ⟨.even, fun point => -5 < point && point < 17, ".0", "+"⟩

end Layout

def Double.plainText (x : Double) : List Char :=
  Layout.plain.write .double x.bits.toNat

end SqlTemplate.Number
