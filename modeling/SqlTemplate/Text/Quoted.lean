import SqlTemplate.Text.HexDigit
import SqlTemplate.Text.Printable

/-! Texts shown between double quotes, as messages and diagnostic forms show them. -/

namespace SqlTemplate.Text

/-- A character as it is shown inside quotes; one without a visible form is shown by its number. -/
def quotedChar (c : Char) : List Char :=
  match c with
  | '\x00' => ['\\', '0']
  | '\t' => ['\\', 't']
  | '\r' => ['\\', 'r']
  | '\n' => ['\\', 'n']
  | '"' => ['\\', '"']
  | '\\' => ['\\', '\\']
  | c =>
    if isPrintable c then [c] else '\\' :: 'u' :: '\x7b' :: (hexDigits c.toNat ++ ['\x7d'])

def quoted (s : String) : String :=
  String.ofList ('"' :: (s.toList.flatMap quotedChar ++ ['"']))

def listed (items : List String) : String :=
  "[" ++ String.intercalate ", " items ++ "]"

end SqlTemplate.Text
