import SqlTemplate.Text.After
import SqlTemplate.Text.BareWord
import SqlTemplate.Text.HexDigit
import SqlTemplate.Toml.Basic
import SqlTemplate.Toml.Scalar

/-! Reading TOML text. -/

namespace SqlTemplate.Toml

def isSpace (c : Char) : Bool :=
  c == ' ' || c == '\t'

/-- The characters that stand in no line: control characters other than the tab. -/
def isControl (c : Char) : Bool :=
  (c.toNat < 32 && c != '\t') || c.toNat == 127

def skipSpace (text : List Char) : List Char :=
  text.dropWhile isSpace

def afterLineEnd? : List Char → Option (List Char)
  | '\n' :: rest => some rest
  | '\r' :: '\n' :: rest => some rest
  | _ => none

def skipComment (text : List Char) : List Char :=
  match skipSpace text with
  | '#' :: rest => rest.dropWhile fun c => !isControl c
  | rest => rest

def endLine? (text : List Char) : Option (List Char) :=
  match skipComment text with
  | [] => some []
  | rest => afterLineEnd? rest

/-- Skips spaces, comments and line ends; `steps` bounds the lines. -/
def skipLines : Nat → List Char → List Char
  | 0, text => text
  | steps + 1, text =>
    match afterLineEnd? (skipComment text) with
    | some rest => skipLines steps rest
    | none => skipComment text

def numbered? (count : Nat) (text : List Char) : Option (Char × List Char) := do
  let digits := text.take count
  let code ← Text.ofHexDigits? digits
  if digits.length = count ∧ code.isValidChar then some (Char.ofNat code, text.drop count)
  else none

def escaped? : List Char → Option (Char × List Char)
  | 'b' :: rest => some ('\x08', rest)
  | 't' :: rest => some ('\t', rest)
  | 'n' :: rest => some ('\n', rest)
  | 'f' :: rest => some ('\x0c', rest)
  | 'r' :: rest => some ('\r', rest)
  | 'e' :: rest => some ('\x1b', rest)
  | '"' :: rest => some ('"', rest)
  | '\\' :: rest => some ('\\', rest)
  | 'x' :: rest => numbered? 2 rest
  | 'u' :: rest => numbered? 4 rest
  | 'U' :: rest => numbered? 8 rest
  | _ => none

def basic? : Nat → List Char → Option (List Char × List Char)
  | 0, _ => none
  | _, [] => none
  | _, '"' :: rest => some ([], rest)
  | steps + 1, '\\' :: rest => do
    let (c, rest) ← escaped? rest
    let (more, rest) ← basic? steps rest
    some (c :: more, rest)
  | steps + 1, c :: rest =>
    if isControl c then none
    else do
      let (more, rest) ← basic? steps rest
      some (c :: more, rest)

def literal? : List Char → Option (List Char × List Char)
  | [] => none
  | '\'' :: rest => some ([], rest)
  | c :: rest =>
    if isControl c then none
    else do
      let (more, rest) ← literal? rest
      some (c :: more, rest)

/-- Ends a text of several lines at three quotes or more: up to two of them belong to the text. -/
def closing? (quote : Char) (text : List Char) : Option (List Char × List Char) :=
  let count := min 5 (text.takeWhile (· == quote)).length
  if count < 3 then none else some (List.replicate (count - 3) quote, text.drop count)

/-- Skips the line end after a backslash, and all spaces and line ends after it. -/
def joinLines? (text : List Char) : Option (List Char) :=
  (afterLineEnd? (skipSpace text)).map fun rest =>
    rest.dropWhile fun c => isSpace c || c == '\n' || c == '\r'

def basicLines? : Nat → List Char → Option (List Char × List Char)
  | 0, _ => none
  | steps + 1, text =>
    match closing? '"' text, text with
    | some ending, _ => some ending
    | none, [] => none
    | none, '\\' :: c :: rest =>
      if isSpace c ∨ c = '\n' ∨ c = '\r' then do basicLines? steps (← joinLines? (c :: rest))
      else do
        let (c, rest) ← escaped? (c :: rest)
        let (more, rest) ← basicLines? steps rest
        some (c :: more, rest)
    | none, '\r' :: '\n' :: rest => do
      let (more, rest) ← basicLines? steps rest
      some ('\r' :: '\n' :: more, rest)
    | none, c :: rest =>
      if c ≠ '\n' ∧ isControl c then none
      else do
        let (more, rest) ← basicLines? steps rest
        some (c :: more, rest)

def literalLines? : List Char → Option (List Char × List Char)
  | [] => none
  | c :: rest =>
    match closing? '\'' (c :: rest) with
    | some ending => some ending
    | none =>
      let followed := rest.head? == some '\n'
      if c ≠ '\n' ∧ isControl c ∧ ¬(c = '\r' ∧ followed) then none
      else do
        let (more, rest) ← literalLines? rest
        some (c :: more, rest)

/-- A line end at the start of a text of several lines does not count. -/
def skipLineEnd (text : List Char) : List Char :=
  (afterLineEnd? text).getD text

def quoted? (text : List Char) : Option (List Char × List Char) :=
  match text with
  | '"' :: '"' :: '"' :: rest => basicLines? (text.length + 1) (skipLineEnd rest)
  | '"' :: rest => basic? (text.length + 1) rest
  | '\'' :: '\'' :: '\'' :: rest => literalLines? (skipLineEnd rest)
  | '\'' :: rest => literal? rest
  | _ => none

def isKeyChar (c : Char) : Bool :=
  Text.isAsciiWord c || c == '-'

def key? (text : List Char) : Option (String × List Char) :=
  match text with
  | '"' :: rest => (basic? (text.length + 1) rest).map fun (key, rest) => (String.ofList key, rest)
  | '\'' :: rest => (literal? rest).map fun (key, rest) => (String.ofList key, rest)
  | text =>
    let key := text.takeWhile isKeyChar
    if key.isEmpty then none else some (String.ofList key, text.dropWhile isKeyChar)

def keys? : Nat → List Char → Option (List String × List Char)
  | 0, _ => none
  | steps + 1, text => do
    let (key, rest) ← key? (skipSpace text)
    match skipSpace rest with
    | '.' :: rest =>
      let (keys, rest) ← keys? steps rest
      some (key :: keys, rest)
    | rest => some ([key], rest)

/-- The most lists and tables that may lie in each other, and the most keys with dots between
them. -/
def depthLimit : Nat := 80

def ofWord? (word : List Char) : Option Toml :=
  if word = "true".toList then some (.boolean true)
  else if word = "false".toList then some (.boolean false)
  else if isInteger word || isFloat word || isMoment word then some (.bare (String.ofList word))
  else none

mutual

/-- Reads a value; every step is paid from `fuel`, and `depth` more lists and tables may lie in each
other. -/
def value? : Nat → Nat → List Char → Option (Toml × List Char)
  | 0, _, _ => none
  | fuel + 1, depth, text =>
    match depth, text with
    | depth + 1, '[' :: rest => do
      let (items, rest) ← items? fuel depth rest
      some (.list false items, rest)
    | depth + 1, '\x7b' :: rest => do
      let (entries, rest) ← entries? fuel depth [] rest
      some (.table .braces entries, rest)
    | _, '"' :: _ | _, '\'' :: _ => do
      let (s, rest) ← quoted? text
      some (.string (String.ofList s), rest)
    | _, text => do
      let (word, rest) := readWord text
      some (← ofWord? word, rest)

def items? : Nat → Nat → List Char → Option (List Toml × List Char)
  | 0, _, _ => none
  | fuel + 1, depth, text =>
    match skipLines text.length text with
    | ']' :: rest => some ([], rest)
    | start => do
      let (item, rest) ← value? fuel depth start
      match skipLines rest.length rest with
      | ',' :: rest =>
        let (items, rest) ← items? fuel depth rest
        some (item :: items, rest)
      | ']' :: rest => some ([item], rest)
      | _ => none

def entries? : Nat → Nat → List (String × Toml) → List Char →
    Option (List (String × Toml) × List Char)
  | 0, _, _, _ => none
  | fuel + 1, depth, entries, text =>
    match skipLines text.length text with
    | '\x7d' :: rest => some (entries, rest)
    | start => do
      let (keys, rest) ← keys? depthLimit start
      let rest ← Text.after? ['='] rest
      let (value, rest) ← value? fuel depth (skipSpace rest)
      let entries ← putAt keys value entries
      match skipLines rest.length rest with
      | ',' :: rest => entries? fuel depth entries rest
      | '\x7d' :: rest => some (entries, rest)
      | _ => none

end

inductive Line
  | header (ofList : Bool) (keys : List String)
  | pair (keys : List String) (value : Toml)

def header? (ofList : Bool) (closing text : List Char) : Option (Line × List Char) := do
  let (keys, rest) ← keys? depthLimit text
  some (.header ofList keys, ← Text.after? closing rest)

def line? (text : List Char) : Option (Line × List Char) :=
  match text with
  | '[' :: '[' :: rest => header? true [']', ']'] rest
  | '[' :: rest => header? false [']'] rest
  | text => do
    let (keys, rest) ← keys? depthLimit text
    let rest ← Text.after? ['='] rest
    let (value, rest) ← value? (2 * rest.length + 2) depthLimit (skipSpace rest)
    some (.pair keys value, rest)

def lines? : Nat → List Char → Option (List Line)
  | 0, _ => none
  | steps + 1, text =>
    match endLine? text with
    | some [] => some []
    | some rest => lines? steps rest
    | none => do
      let (line, rest) ← line? (skipSpace text)
      let lines ← lines? steps (← endLine? rest)
      some (line :: lines)

/-- The document of some lines, of which the first belong to the table at `path`. -/
def ofLines? (path : List String) (entries : List (String × Toml)) :
    List Line → Option (List (String × Toml))
  | [] => some entries
  | .header ofList keys :: rest => do
    let entries ← openAt (if ofList then openItem else openTable) keys entries
    ofLines? keys entries rest
  | .pair keys value :: rest => do
    let entries ← changeAt false (putAt keys value) path entries
    ofLines? path entries rest

/-- The entries of a document; a byte order mark before it does not count. -/
def read? (text : String) : Option (List (String × Toml)) := do
  let chars := (Text.after? ['\ufeff'] text.toList).getD text.toList
  ofLines? [] [] (← lines? (chars.length + 1) chars)

end SqlTemplate.Toml
