import SqlTemplate.Number.Digits
import SqlTemplate.Number.Power

/-! Decimal numbers of 96 bits with at most 28 places, and their base ten thousand digits. -/

namespace SqlTemplate.Number

/-- The number `coefficient / 10 ^ places` with its sign. -/
structure Numeric where
  negative : Bool
  coefficient : Nat
  places : Nat
  deriving DecidableEq, Repr

namespace Numeric

def bound : Nat := twoPow 96

def mostPlaces : Nat := 28

inductive Flaw
  | tooManyDigits
  | tooLargeRounded
  | unknownCharacter
  | noDigits
  deriving DecidableEq, Repr

def Flaw.message : Flaw → String
  | tooManyDigits => "Invalid decimal: overflow from too many digits"
  | tooLargeRounded => "Invalid decimal: overflow from mantissa after rounding"
  | unknownCharacter => "Invalid decimal: unknown character"
  | noDigits => "Invalid decimal: no digits found"

/-- Rounds by the first digit that is left out, a five upwards. A coefficient that no longer fits
gives up a place. -/
def roundBy (digit coefficient places : Nat) : Except Flaw (Nat × Nat) :=
  if digit < 5 then .ok (coefficient, places)
  else if coefficient + 1 < bound then .ok (coefficient + 1, places)
  else if places = 0 then .error .tooLargeRounded
  else .ok ((coefficient + 5) / 10, places - 1)

/-- Reads digits and a point into a coefficient and its places, and rounds where either is full. -/
def readDigits (point : Bool) (coefficient places : Nat) :
    List Char → Except Flaw (Nat × Nat)
  | [] => .ok (coefficient, places)
  | c :: rest =>
    if c = '.' ∧ !point then readDigits true coefficient places rest
    else if !c.isDigit then .error .unknownCharacter
    else if point ∧ mostPlaces ≤ places then roundBy (digitValue c) coefficient places
    else
      let next := 10 * coefficient + digitValue c
      if bound ≤ next then
        if point then roundBy (digitValue c) coefficient places else .error .tooManyDigits
      else readDigits point next (if point then places + 1 else places) rest

def read (text : List Char) : Except Flaw Numeric :=
  let (negative, text) := match text with
    | '-' :: rest => (true, rest)
    | rest => (false, rest)
  if text.isEmpty then .error .noDigits
  else do
    let (coefficient, places) ← readDigits false 0 0 text
    .ok ⟨negative && coefficient != 0, coefficient, places⟩

def ofInt (n : Int) : Numeric :=
  ⟨n < 0, n.natAbs, 0⟩

/-- The digits of a natural in base ten thousand, most significant first; none for zero. -/
def groups (n : Nat) : List Nat :=
  if n = 0 then [] else groups (n / 10000) ++ [n % 10000]
termination_by n

/-- A number in base ten thousand: `digits` from the weight `10000 ^ weight` down. -/
structure Grouped where
  negative : Bool
  weight : Int
  places : Nat
  digits : List Nat
  deriving DecidableEq, Repr

def grouped (x : Numeric) : Grouped :=
  if x.coefficient = 0 then ⟨false, 0, 0, []⟩
  else
    let aligned := x.coefficient * tenPow ((4 - x.places % 4) % 4)
    let digits := groups aligned
    let weight : Int := digits.length - (x.places + 3) / 4 - 1
    ⟨x.negative, weight, x.places, digits⟩

/-- The number nearest to `num / den`, a half upwards, with as many of some places as fit. -/
def fit? (negative : Bool) (num den : Nat) : Nat → Option Numeric
  | 0 =>
    let coefficient := (2 * num + den) / (2 * den)
    if coefficient < bound then some ⟨negative, coefficient, 0⟩ else none
  | places + 1 =>
    let coefficient := (2 * num * tenPow (places + 1) + den) / (2 * den)
    if coefficient < bound then some ⟨negative, coefficient, places + 1⟩
    else fit? negative num den places

def ofGrouped? (g : Grouped) : Option Numeric :=
  let whole := g.digits.foldl (fun n d => 10000 * n + d) 0
  let shift := 4 * (g.weight - (g.digits.length - 1 : Int))
  let (num, den) :=
    if 0 ≤ shift then (whole * tenPow shift.toNat, 1) else (whole, tenPow (-shift).toNat)
  fit? (g.negative && whole != 0) num den (min g.places mostPlaces)

def text (x : Numeric) : List Char :=
  let ds := digits x.coefficient
  let padded := List.replicate (x.places + 1 - ds.length) '0' ++ ds
  let whole := padded.take (padded.length - x.places)
  let part := padded.drop (padded.length - x.places)
  (if x.negative then ['-'] else []) ++ whole ++ if part.isEmpty then [] else '.' :: part

end Numeric

end SqlTemplate.Number
