import SqlTemplate.Json.Basic
import SqlTemplate.Keyed
import SqlTemplate.Text.Clip
import SqlTemplate.Text.HexDigit

/-! Reading JSON text, and what is wrong with text that is none. -/

namespace SqlTemplate.Json

open Text (byteLength)

inductive Flaw
  | endInList | endInObject | endInString | endInValue
  | colonExpected | listCommaExpected | objectCommaExpected | wordExpected | valueExpected
  | badEscape | badNumber | numberTooLarge | controlCharacter | keyNotString
  | loneSurrogate | trailingComma | trailingText | unfinishedEscape | tooDeep
  deriving DecidableEq, Repr

def Flaw.message : Flaw → String
  | endInList => "EOF while parsing a list"
  | endInObject => "EOF while parsing an object"
  | endInString => "EOF while parsing a string"
  | endInValue => "EOF while parsing a value"
  | colonExpected => "expected `:`"
  | listCommaExpected => "expected `,` or `]`"
  | objectCommaExpected => "expected `,` or `\x7d`"
  | wordExpected => "expected ident"
  | valueExpected => "expected value"
  | badEscape => "invalid escape"
  | badNumber => "invalid number"
  | numberTooLarge => "number out of range"
  | controlCharacter => "control character (\\u0000-\\u001F) found while parsing a string"
  | keyNotString => "key must be a string"
  | loneSurrogate => "lone leading surrogate in hex escape"
  | trailingComma => "trailing comma"
  | trailingText => "trailing characters"
  | unfinishedEscape => "unexpected end of hex escape"
  | tooDeep => "recursion limit exceeded"

structure Failure where
  flaw : Flaw
  unread : Nat
  deriving DecidableEq, Repr

def failAt {α : Type} (flaw : Flaw) (rest : List Char) : Except Failure α :=
  .error ⟨flaw, byteLength rest⟩

/-- A failure one byte into the rest of the text, or at its end. -/
def failIn {α : Type} (flaw : Flaw) (rest : List Char) : Except Failure α :=
  .error ⟨flaw, byteLength rest - 1⟩

def skipBlank (text : List Char) : List Char :=
  text.dropWhile fun c => c == ' ' || c == '\n' || c == '\t' || c == '\r'

def readWord : List Char → List Char → Except Failure (List Char)
  | [], rest => .ok rest
  | _ :: _, [] => failAt .endInValue []
  | expected :: more, c :: rest =>
    if c = expected then readWord more rest else failIn .wordExpected (c :: rest)

def significandBound : Nat := Number.twoPow 64

def exponentBound : Nat := Number.twoPow 31 - 1

def powerOfTen (exponent : Nat) : Number.Double :=
  .ofFraction false (Number.tenPow exponent) 1

def magnitude (x : Number.Double) : Nat × Nat :=
  match x.datum with
  | .finite _ significand exponent => Number.dyadic significand exponent
  | _ => (0, 1)

def product (x y : Number.Double) : Number.Double :=
  let (a, b) := magnitude x
  let (c, d) := magnitude y
  .ofFraction false (a * c) (b * d)

def quotient (x y : Number.Double) : Number.Double :=
  let (a, b) := magnitude x
  let (c, d) := magnitude y
  .ofFraction false (a * d) (b * c)

/-- Scales a double by a power of ten, step by step for a small one; none if it grows too large.
Each step rounds. -/
def scale : Nat → Number.Double → Int → Option Number.Double
  | 0, x, _ => some x
  | steps + 1, x, exponent =>
    if exponent.natAbs ≤ 308 then
      if 0 ≤ exponent then
        let scaled := product x (powerOfTen exponent.toNat)
        if scaled.isFinite then some scaled else none
      else some (quotient x (powerOfTen exponent.natAbs))
    else if (magnitude x).1 = 0 then some x
    else if 0 ≤ exponent then none
    else scale steps (quotient x (powerOfTen 308)) (exponent + 308)

/-- The double of a significand and an exponent. Four steps bring every significand to zero. -/
def doubleOf (negative : Bool) (significand : Nat) (exponent : Int) : Option Number.Double :=
  (scale 4 (.ofFraction false significand 1) exponent).map fun x =>
    if negative then ⟨x.bits ||| 0x8000000000000000⟩ else x

def finish (negative : Bool) (significand : Nat) (exponent : Int) (rest : List Char) :
    Except Failure (Number × List Char) :=
  match doubleOf negative significand exponent with
  | some x => .ok (.double x, rest)
  | none => failAt .numberTooLarge rest

/-- Reads the digits of an exponent; none if they count past the bound, with what is then unread. -/
def exponentDigits (exponent : Nat) : List Char → Except (List Char) (Nat × List Char)
  | [] => .ok (exponent, [])
  | c :: rest =>
    if c.isDigit then
      let next := 10 * exponent + Number.digitValue c
      if exponentBound < next then .error rest else exponentDigits next rest
    else .ok (exponent, c :: rest)

def readExponent (negative : Bool) (significand : Nat) (start : Int) (text : List Char) :
    Except Failure (Number × List Char) :=
  let (down, text) := match text with
    | '+' :: rest => (false, rest)
    | '-' :: rest => (true, rest)
    | rest => (false, rest)
  match text with
  | [] => failAt .endInValue []
  | c :: rest =>
    if c.isDigit then
      match exponentDigits (Number.digitValue c) rest with
      | .ok (exponent, rest) =>
        finish negative significand (if down then start - exponent else start + exponent) rest
      | .error rest =>
        if significand ≠ 0 ∧ !down then failAt .numberTooLarge rest
        else
          let zero := if negative then 0x8000000000000000 else 0
          .ok (.double ⟨zero⟩, rest.dropWhile Char.isDigit)
    else failIn .badNumber (c :: rest)

def readScale (negative : Bool) (significand : Nat) (exponent : Int) (text : List Char) :
    Except Failure (Number × List Char) :=
  match text with
  | 'e' :: rest | 'E' :: rest => readExponent negative significand exponent rest
  | rest => finish negative significand exponent rest

def fractionDigits (significand : Nat) (exponent : Int) : List Char → Nat × Int × List Char
  | [] => (significand, exponent, [])
  | c :: rest =>
    if c.isDigit then
      let next := 10 * significand + Number.digitValue c
      if significandBound ≤ next then (significand, exponent, rest.dropWhile Char.isDigit)
      else fractionDigits next (exponent - 1) rest
    else (significand, exponent, c :: rest)

def readFraction (negative : Bool) (significand : Nat) (exponent : Int) (text : List Char) :
    Except Failure (Number × List Char) :=
  match text with
  | [] => failAt .endInValue []
  | c :: rest =>
    if c.isDigit then
      let (significand, exponent, rest) := fractionDigits significand exponent (c :: rest)
      readScale negative significand exponent rest
    else failIn .badNumber (c :: rest)

/-- Reads the whole digits of a number into the significand; the digits it does not hold are
counted. -/
def wholeDigits (significand : Nat) : List Char → Nat × Nat × List Char
  | [] => (significand, 0, [])
  | c :: rest =>
    if c.isDigit then
      let next := 10 * significand + Number.digitValue c
      if significandBound ≤ next then
        let dropped := (c :: rest).takeWhile Char.isDigit
        (significand, dropped.length, (c :: rest).drop dropped.length)
      else wholeDigits next rest
    else (significand, 0, c :: rest)

def readTail (negative : Bool) (significand dropped : Nat) (text : List Char) :
    Except Failure (Number × List Char) :=
  match text with
  | '.' :: rest => readFraction negative significand dropped rest
  | 'e' :: rest | 'E' :: rest => readExponent negative significand dropped rest
  | rest =>
    if dropped ≠ 0 then finish negative significand dropped rest
    else if !negative then .ok (.whole significand, rest)
    else if significand = 0 ∨ Number.twoPow 63 < significand then finish true significand 0 rest
    else .ok (.whole (-significand), rest)

def readNumber (negative : Bool) (text : List Char) : Except Failure (Number × List Char) :=
  match text with
  | [] => failAt .endInValue []
  | '0' :: rest =>
    if (rest.head?.map Char.isDigit).getD false then failIn .badNumber rest
    else readTail negative 0 0 rest
  | c :: rest =>
    if c.isDigit then
      let (significand, dropped, rest) := wholeDigits (Number.digitValue c) rest
      readTail negative significand dropped rest
    else failIn .badNumber (c :: rest)

def readHex (text : List Char) : Except Failure (Nat × List Char) :=
  let digits := text.take 4
  match if digits.length = 4 then Text.ofHexDigits? digits else none with
  | some unit => .ok (unit, text.drop 4)
  | none =>
    if byteLength text < 4 then failAt .endInString []
    else .error ⟨.badEscape, byteLength text - 4⟩

/-- Reads the escape of a code unit; a leading surrogate needs a trailing one after it. -/
def readUnit (text : List Char) : Except Failure (Char × List Char) := do
  let (unit, rest) ← readHex text
  if 0xDC00 ≤ unit ∧ unit ≤ 0xDFFF then failAt .loneSurrogate rest
  else if unit < 0xD800 ∨ 0xDBFF < unit then .ok (Char.ofNat unit, rest)
  else
    match rest with
    | [] => failAt .endInString []
    | '\\' :: [] => failAt .endInString []
    | '\\' :: 'u' :: rest =>
      let (second, rest) ← readHex rest
      if second < 0xDC00 ∨ 0xDFFF < second then failAt .loneSurrogate rest
      else .ok (Char.ofNat ((unit - 0xD800) * 1024 + (second - 0xDC00) + 0x10000), rest)
    | '\\' :: rest => failIn .unfinishedEscape rest
    | rest => failIn .unfinishedEscape rest

def readEscape : List Char → Except Failure (Char × List Char)
  | [] => failAt .endInString []
  | '"' :: rest => .ok ('"', rest)
  | '\\' :: rest => .ok ('\\', rest)
  | '/' :: rest => .ok ('/', rest)
  | 'b' :: rest => .ok ('\x08', rest)
  | 'f' :: rest => .ok ('\x0c', rest)
  | 'n' :: rest => .ok ('\n', rest)
  | 'r' :: rest => .ok ('\r', rest)
  | 't' :: rest => .ok ('\t', rest)
  | 'u' :: rest => readUnit rest
  | c :: rest => failIn .badEscape (c :: rest)

/-- Reads the characters of a string up to its closing quote; each step reads a character at
least. -/
def readChars : Nat → List Char → Except Failure (List Char × List Char)
  | 0, rest => failAt .endInString rest
  | _, [] => failAt .endInString []
  | _, '"' :: rest => .ok ([], rest)
  | steps + 1, '\\' :: rest => do
    let (c, rest) ← readEscape rest
    let (more, rest) ← readChars steps rest
    .ok (c :: more, rest)
  | steps + 1, c :: rest => do
    if c.toNat < 32 then failIn .controlCharacter (c :: rest)
    else
      let (more, rest) ← readChars steps rest
      .ok (c :: more, rest)

def readString (text : List Char) : Except Failure (String × List Char) := do
  let (chars, rest) ← readChars (text.length + 1) text
  .ok (String.ofList chars, rest)

/-- The greatest number of lists and objects inside one another is one less. -/
def depthLimit : Nat := 128

mutual

/-- Reads a value. `depth` is how many more levels may open; every step is paid from `fuel`. -/
def readValue (depth : Nat) : Nat → List Char → Except Failure (Json × List Char)
  | 0, rest => failIn .tooDeep rest
  | fuel + 1, text =>
    match skipBlank text with
    | [] => failAt .endInValue []
    | 'n' :: rest => do
      let rest ← readWord "ull".toList rest
      .ok (.null, rest)
    | 't' :: rest => do
      let rest ← readWord "rue".toList rest
      .ok (.bool true, rest)
    | 'f' :: rest => do
      let rest ← readWord "alse".toList rest
      .ok (.bool false, rest)
    | '-' :: rest => do
      let (n, rest) ← readNumber true rest
      .ok (.number n, rest)
    | '"' :: rest => do
      let (s, rest) ← readString rest
      .ok (.string s, rest)
    | '[' :: rest =>
      if depth ≤ 1 then failIn .tooDeep ('[' :: rest)
      else do
        let (items, rest) ← readItems (depth - 1) fuel true rest
        .ok (.array items, rest)
    | '\x7b' :: rest =>
      if depth ≤ 1 then failIn .tooDeep ('\x7b' :: rest)
      else do
        let (members, rest) ← readMembers (depth - 1) fuel true [] rest
        .ok (.object members, rest)
    | c :: rest =>
      if c.isDigit then do
        let (n, rest) ← readNumber false (c :: rest)
        .ok (.number n, rest)
      else failIn .valueExpected (c :: rest)

def readItems (depth : Nat) : Nat → Bool → List Char → Except Failure (List Json × List Char)
  | 0, _, rest => failIn .tooDeep rest
  | fuel + 1, first, text => do
    match skipBlank text with
    | [] => failAt .endInList []
    | ']' :: rest => .ok ([], rest)
    | c :: rest =>
      let start ←
        if first then .ok (c :: rest)
        else if c = ',' then
          match skipBlank rest with
          | [] => failAt .endInValue []
          | ']' :: rest => failIn .trailingComma (']' :: rest)
          | rest => .ok rest
        else failIn .listCommaExpected (c :: rest)
      let (item, rest) ← readValue depth fuel start
      let (items, rest) ← readItems depth fuel false rest
      .ok (item :: items, rest)

def readMembers (depth : Nat) :
    Nat → Bool → List (String × Json) → List Char →
      Except Failure (List (String × Json) × List Char)
  | 0, _, _, rest => failIn .tooDeep rest
  | fuel + 1, first, members, text => do
    match skipBlank text with
    | [] => failAt .endInObject []
    | '\x7d' :: rest => .ok (members, rest)
    | c :: rest =>
      let start ←
        if first then .ok (c :: rest)
        else if c = ',' then
          match skipBlank rest with
          | [] => failAt .endInValue []
          | '\x7d' :: rest => failIn .trailingComma ('\x7d' :: rest)
          | rest => .ok rest
        else failIn .objectCommaExpected (c :: rest)
      match start with
      | '"' :: rest =>
        let (name, rest) ← readString rest
        match skipBlank rest with
        | [] => failAt .endInObject []
        | ':' :: rest =>
          let (value, rest) ← readValue depth fuel rest
          readMembers depth fuel false (Keyed.insert name value members) rest
        | rest => failIn .colonExpected rest
      | rest => failIn .keyNotString rest

end

structure SyntaxError where
  flaw : Flaw
  line : Nat
  column : Nat
  deriving DecidableEq, Repr

def SyntaxError.message (e : SyntaxError) : String :=
  s!"{e.flaw.message} at line {e.line} column {e.column}"

/-- The characters that end within the first `count` bytes, and the bytes of those left over. -/
def splitBytes (count : Nat) : List Char → List Char × Nat
  | [] => ([], count)
  | c :: rest =>
    if c.utf8Size ≤ count then
      let (before, left) := splitBytes (count - c.utf8Size) rest
      (c :: before, left)
    else ([], count)

def Failure.locate (text : List Char) (failure : Failure) : SyntaxError :=
  let (before, left) := splitBytes (byteLength text - failure.unread) text
  let inLine := (before.reverse.takeWhile (· != '\n')).reverse
  ⟨failure.flaw, before.count '\n' + 1, byteLength inLine + left⟩

def read (text : String) : Except SyntaxError Json :=
  let chars := text.toList
  let reading : Except Failure Json := do
    let (value, rest) ← readValue depthLimit (2 * chars.length + 2) chars
    match skipBlank rest with
    | [] => .ok value
    | rest => failIn .trailingText rest
  match reading with
  | .ok value => .ok value
  | .error failure => .error (failure.locate chars)

end SqlTemplate.Json
