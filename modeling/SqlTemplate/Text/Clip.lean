import SqlTemplate.Text.Blank

/-! Texts measured and cut in bytes of UTF-8. -/

namespace SqlTemplate.Text

def byteLength : List Char → Nat
  | [] => 0
  | c :: rest => c.utf8Size + byteLength rest

def clip (limit : Nat) : List Char → List Char
  | [] => []
  | c :: rest => if c.utf8Size ≤ limit then c :: clip (limit - c.utf8Size) rest else []

def shorten (limit : Nat) (text : List Char) : List Char :=
  if byteLength text ≤ limit then text else clip limit text ++ ['.', '.', '.']

end SqlTemplate.Text
