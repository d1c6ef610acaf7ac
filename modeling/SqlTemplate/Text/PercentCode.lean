import SqlTemplate.Text.HexDigit

/-! Bytes written as a percent sign and two hexadecimal digits. -/

namespace SqlTemplate.Text

def hexByte? (high low : UInt8) : Option UInt8 :=
  (ofHexDigits? [Char.ofNat high.toNat, Char.ofNat low.toNat]).map UInt8.ofNat

/-- Reads each percent sign with two digits as one byte; other percent signs are kept. -/
def percentDecode : List UInt8 → List UInt8
  | [] => []
  | [byte] => [byte]
  | [first, second] => [first, second]
  | first :: second :: third :: rest =>
    match if first = 0x25 then hexByte? second third else none with
    | some byte => byte :: percentDecode rest
    | none => first :: percentDecode (second :: third :: rest)

def percentDecodeText? (text : String) : Option String :=
  String.fromUTF8? ⟨(percentDecode text.toUTF8.toList).toArray⟩

end SqlTemplate.Text
