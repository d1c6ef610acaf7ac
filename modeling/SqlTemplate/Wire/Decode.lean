import SqlTemplate.Calendar.Text
import SqlTemplate.Json.Reader
import SqlTemplate.Number.Numeric
import SqlTemplate.Wire.WireType

/-! The bytes of result cells as texts. -/

namespace SqlTemplate.Wire

def natOfBytes (bytes : List UInt8) : Nat :=
  bytes.foldl (fun n byte => 256 * n + byte.toNat) 0

def integer? (count : Nat) (bytes : List UInt8) : Option Int :=
  if bytes.length = count then
    let n := natOfBytes bytes
    some (if n < Number.twoPow (8 * count - 1) then n else n - Number.twoPow (8 * count))
  else none

def word? (count : Nat) (bytes : List UInt8) : Option Nat :=
  if bytes.length = count then some (natOfBytes bytes) else none

def text? (bytes : List UInt8) : Option (List Char) :=
  (String.fromUTF8? ⟨bytes.toArray⟩).map String.toList

def pairs? : List UInt8 → Option (List Nat)
  | [] => some []
  | high :: low :: rest => (pairs? rest).map (natOfBytes [high, low] :: ·)
  | [_] => none

/-- A decimal number: how many digits in base ten thousand it has, the weight of the first, the sign
and the places, then the digits. -/
def numeric? (bytes : List UInt8) : Option Number.Numeric := do
  match ← pairs? (bytes.take 8), integer? 2 ((bytes.drop 2).take 2) with
  | [count, _, sign, places], some weight =>
    let digits ← pairs? ((bytes.drop 8).take (2 * count))
    if digits.length = count then
      Number.Numeric.ofGrouped? ⟨sign = 0x4000, weight, places, digits⟩
    else none
  | _, _ => none

def dayText? (days : Int) : Option (List Char) :=
  let (year, month, day) := Calendar.partsOfDay days
  if Calendar.firstYear ≤ year ∧ year ≤ Calendar.lastYear then
    some (Calendar.dateText year month day)
  else none

def date? (bytes : List UInt8) : Option (List Char) := do
  dayText? ((← integer? 4 bytes) + Calendar.millenniumDay)

def moment? (bytes : List UInt8) : Option (List Char) := do
  let micros := (← integer? 8 bytes) + Calendar.millenniumDay * 86400 * 1000000
  let second := (micros / 1000000 % 86400).toNat
  let day ← dayText? (micros / 1000000 / 86400)
  some (day ++ ' ' :: Calendar.padded 2 (second / 3600) ++
    ':' :: Calendar.padded 2 (second / 60 % 60) ++ ':' :: Calendar.padded 2 (second % 60) ++
    Calendar.fractionText ((micros % 1000000).toNat * 1000))

def document? (versioned : Bool) (bytes : List UInt8) : Option (List Char) := do
  let bytes ← match versioned, bytes with
    | true, 1 :: rest => some rest
    | true, _ => none
    | false, bytes => some bytes
  match Json.read (← String.fromUTF8? ⟨bytes.toArray⟩) with
  | .ok document => some document.text
  | .error _ => none

def isShown : WireType → Bool
  | .unknown | .named _ => false
  | _ => true

def decode? (type : WireType) (bytes : List UInt8) : Option (List Char) :=
  match type with
  | .bool => (word? 1 bytes).map fun b => (if b = 0 then "false" else "true").toList
  | .int2 => (integer? 2 bytes).map Number.intText
  | .int4 => (integer? 4 bytes).map Number.intText
  | .int8 => (integer? 8 bytes).map Number.intText
  | .float4 => (word? 4 bytes).map (Number.Layout.plain.write .single)
  | .float8 => (word? 8 bytes).map (Number.Layout.plain.write .double)
  | .numeric => (numeric? bytes).map Number.Numeric.text
  | .text | .varchar | .bpchar | .name => text? bytes
  | .date => date? bytes
  | .timestamp => moment? bytes
  | .timestamptz => (moment? bytes).map (· ++ " UTC".toList)
  | .json => document? false bytes
  | .jsonb => document? true bytes
  | .unknown | .named _ => none

/-- The text of a cell; cells of a type that is not shown give its name. -/
def cellText (type : WireType) (cell : Option (List UInt8)) : List Char :=
  if isShown type then
    match cell with
    | none => "NULL".toList
    | some bytes => (decode? type bytes).getD ['?']
  else '<' :: (type.toName.toList ++ ['>'])

end SqlTemplate.Wire
