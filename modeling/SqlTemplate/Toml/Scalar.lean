import SqlTemplate.Calendar.Text
import SqlTemplate.Text.HexDigit
import SqlTemplate.Text.Split

/-! The words of a document that are numbers, dates and times. -/

namespace SqlTemplate.Toml

def isDigits (isDigit : Char → Bool) (text : List Char) : Bool :=
  (Text.split '_' text).all fun part => !part.isEmpty && part.all isDigit

/-- Whether a text is a decimal natural; only zero itself begins with a zero. -/
def isNatural (text : List Char) : Bool :=
  isDigits Char.isDigit text && (text.length == 1 || text.head? != some '0')

def afterSign : List Char → List Char
  | '+' :: rest => rest
  | '-' :: rest => rest
  | text => text

/-- Whether a text is an integer. Only a decimal one has a sign. -/
def isInteger : List Char → Bool
  | '0' :: 'x' :: digits => isDigits Text.isHexDigit digits
  | '0' :: 'o' :: digits => isDigits (fun c => '0' ≤ c && c ≤ '7') digits
  | '0' :: 'b' :: digits => isDigits (fun c => c == '0' || c == '1') digits
  | text => isNatural (afterSign text)

def isMantissa (text : List Char) : Bool :=
  match Text.split '.' text with
  | [whole] => isNatural whole
  | [whole, fraction] => isNatural whole && isDigits Char.isDigit fraction
  | _ => false

def isFloat (text : List Char) : Bool :=
  let text := afterSign text
  let mantissa := text.takeWhile fun c => c != 'e' && c != 'E'
  text == "inf".toList || text == "nan".toList ||
    (isMantissa mantissa &&
      (mantissa.length == text.length ||
        isDigits Char.isDigit (afterSign (text.drop (mantissa.length + 1)))))

def afterDate? (text : List Char) : Option (List Char) := do
  let (year, text) ← Calendar.readNumber 4 4 text
  let text ← Calendar.readChar '-' text
  let (month, text) ← Calendar.readNumber 2 2 text
  let text ← Calendar.readChar '-' text
  let (day, text) ← Calendar.readNumber 2 2 text
  let _ ← Calendar.Date.ofParts? year month day
  some text

/-- Reads the seconds of a time and their fraction; both may be absent. -/
def readSeconds : List Char → Option (Nat × List Char)
  | ':' :: text => do
    let (second, text) ← Calendar.readNumber 2 2 text
    let (_, text) ← Calendar.readFraction text
    some (second, text)
  | text => some (0, text)

def afterTime? (text : List Char) : Option (List Char) := do
  let (hour, text) ← Calendar.readNumber 2 2 text
  let text ← Calendar.readChar ':' text
  let (minute, text) ← Calendar.readNumber 2 2 text
  let (second, text) ← readSeconds text
  let _ ← Calendar.timeOfDay? hour minute second 0
  some text

def isOffset (text : List Char) : Bool :=
  match Calendar.readOffset text with
  | some (offset, []) => -Calendar.greatestOffset ≤ offset && offset ≤ Calendar.greatestOffset
  | _ => false

/-- Whether a text is a date, a time, or both; only both together have an offset. -/
def isMoment (text : List Char) : Bool :=
  match afterDate? text with
  | some [] => true
  | some (separator :: time) =>
    ['T', 't', ' '].contains separator &&
      match afterTime? time with
      | some rest => rest.isEmpty || isOffset rest
      | none => false
  | none => afterTime? text == some []

def isBareChar (c : Char) : Bool :=
  c.isAlphanum || ['_', '+', '-', '.', ':'].contains c

/-- Reads a word. A date and the time after it may stand apart by a space. -/
def readWord (text : List Char) : List Char × List Char :=
  let word := text.takeWhile isBareChar
  match text.dropWhile isBareChar with
  | ' ' :: c :: rest =>
    if c.isDigit ∧ afterDate? word = some [] then
      (word ++ ' ' :: (c :: rest).takeWhile isBareChar, (c :: rest).dropWhile isBareChar)
    else (word, ' ' :: c :: rest)
  | rest => (word, rest)

end SqlTemplate.Toml
