/-! Hexadecimal digits. -/

namespace SqlTemplate.Text

def hexValue? (c : Char) : Option Nat :=
  if c.isDigit then some (c.toNat - '0'.toNat)
  else if 'a' ≤ c ∧ c ≤ 'f' then some (c.toNat - 'a'.toNat + 10)
  else if 'A' ≤ c ∧ c ≤ 'F' then some (c.toNat - 'A'.toNat + 10)
  else none

def isHexDigit (c : Char) : Bool :=
  (hexValue? c).isSome

def ofHexDigits? (text : List Char) : Option Nat := do
  some ((← text.mapM hexValue?).foldl (fun n d => 16 * n + d) 0)

def hexDigits (n : Nat) : List Char :=
  Nat.toDigits 16 n

end SqlTemplate.Text
