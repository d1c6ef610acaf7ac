import SqlTemplate.Keyed
import SqlTemplate.Text.Alphanumeric
import SqlTemplate.Text.BareWord
import SqlTemplate.Text.Blank
import SqlTemplate.Text.Split

/-! Files that set environment variables, one `NAME=value` a line. -/

namespace SqlTemplate.CommandLine.EnvFile

inductive Standing
  | complete
  | blank
  | escaped
  | double (escaped : Bool)
  | single (escaped : Bool)
  deriving DecidableEq, Repr

def Standing.step : Standing → Char → Standing
  | escaped, _ => complete
  | double true, _ => double false
  | double false, c => if c = '\\' then double true else if c = '"' then complete else double false
  | single true, _ => single false
  | single false, c =>
    if c = '\\' then single true else if c = '\'' then complete else single false
  | standing, c =>
    if c = '\\' then escaped
    else if c = '"' then double false
    else if c = '\'' then single false
    else if standing = complete ∧ Text.isBlank c ∧ c ≠ '\n' ∧ c ≠ '\r' then blank
    else complete

/-- Reads a line from a standing: the text before a comment, or the standing at the end. A comment
starts after white space. -/
def readLine (standing : Standing) : List Char → Except (List Char) Standing
  | [] => .ok standing
  | c :: rest =>
    if standing = .blank ∧ c = '#' then .error []
    else (readLine (standing.step c) rest).mapError (c :: ·)

/-- Joins the lines of quoted values that span several; none stands for one that never ends. -/
def joinLines (standing : Standing) (before : List Char) :
    List (List Char) → List (Option (List Char))
  | [] => if standing = .complete then [] else [none]
  | line :: rest =>
    if (Text.trimLeft (before ++ line)).head? = some '#' then some [] :: joinLines .complete [] rest
    else
      match readLine standing line with
      | .error shown => some (before ++ shown) :: joinLines .complete [] rest
      | .ok .complete => some (before ++ line) :: joinLines .complete [] rest
      | .ok standing => joinLines standing (before ++ line) rest

def textLines (text : List Char) : List (List Char) :=
  let pieces := Text.split '\n' text
  let last := pieces.getLast?.getD []
  (pieces.dropLast.map fun line => line ++ ['\n']) ++ if last.isEmpty then [] else [last]

/-- What a value is read as at a place; `name` is the variable that is spliced in. -/
inductive Mode
  | plain
  | literal
  | escaped
  | variable (name : List Char)
  | braced (name : List Char)
  | ended
  deriving DecidableEq, Repr

def escaped? (c : Char) : Option Char :=
  if c = 'n' then some '\n'
  else if ['\\', '\'', '"', '$', ' '].contains c then some c
  else none

def modeAfter (quoted : Bool) (c : Char) : Option (Bool × Mode) :=
  if c = '$' then some (quoted, .variable [])
  else if c = '\\' then some (quoted, .escaped)
  else if c = '"' then some (!quoted, .plain)
  else if quoted then none
  else if c = '\'' then some (false, .literal)
  else if c = ' ' ∨ c = '\t' then some (false, .ended)
  else none

/-- Reads a value; `quoted` says whether it stands between double quotes. After a variable without
braces the next character is taken as it is. -/
def readValue (lookUp : List Char → List Char) (quoted : Bool) :
    Mode → List Char → Option (List Char)
  | .plain, [] | .escaped, [] | .ended, [] => if quoted then none else some []
  | .variable name, [] => if quoted then none else some (lookUp name)
  | .literal, [] | .braced _, [] => none
  | .ended, c :: rest =>
    if c = '#' then some []
    else if c = ' ' ∨ c = '\t' then readValue lookUp quoted .ended rest
    else none
  | .escaped, c :: rest => do
    let shown ← escaped? c
    some (shown :: (← readValue lookUp quoted .plain rest))
  | .literal, c :: rest =>
    if c = '\'' then readValue lookUp quoted .plain rest
    else (readValue lookUp quoted .literal rest).map (c :: ·)
  | .variable name, c :: rest =>
    if Text.isAlphanumeric c then readValue lookUp quoted (.variable (name ++ [c])) rest
    else if c = '\x7b' ∧ name.isEmpty then readValue lookUp quoted (.braced []) rest
    else if c = '$' then
      (readValue lookUp quoted (.variable []) rest).map (lookUp name ++ ·)
    else (readValue lookUp quoted .plain rest).map fun text => lookUp name ++ c :: text
  | .braced name, c :: rest =>
    if c = '\x7d' then (readValue lookUp quoted .plain rest).map (lookUp name ++ ·)
    else readValue lookUp quoted (.braced (name ++ [c])) rest
  | .plain, c :: rest =>
    match modeAfter quoted c with
    | some (quoted, mode) => readValue lookUp quoted mode rest
    | none => (readValue lookUp quoted .plain rest).map (c :: ·)

def readName? (text : List Char) : Option (List Char × List Char) :=
  match text with
  | [] => none
  | c :: rest =>
    let isLater := fun c => Text.isAsciiWord c || c == '.'
    if Text.isBareStart c then some (c :: rest.takeWhile isLater, rest.dropWhile isLater) else none

def afterSign? (text : List Char) : Option (List Char) :=
  match Text.trimLeft text with
  | '=' :: rest => some rest
  | _ => none

def readStart? (text : List Char) : Option (List Char × List Char) := do
  let (name, rest) ← readName? text
  match afterSign? rest with
  | some value => some (name, value)
  | none =>
    if name = "export".toList then do
      let (name, rest) ← readName? (Text.trimLeft rest)
      some (name, ← afterSign? rest)
    else none

def isVoid (text : List Char) : Bool :=
  text.isEmpty || text.head? == some '#'

def assignment? (lookUp : List Char → List Char) (text : List Char) :
    Option (List Char × List Char) := do
  let (name, rest) ← readStart? text
  let value := Text.trimLeft rest
  if isVoid value then some (name, []) else some (name, ← readValue lookUp false .plain value)

/-- Sets the variables of some lines up to one that is malformed; variables that are set stay. -/
def setAll (environment : List (String × String)) :
    List (Option (List Char)) → List (String × String)
  | [] => environment
  | none :: _ => environment
  | some line :: rest =>
    let line := Text.trim line
    let lookUp := fun name =>
      ((Keyed.find? (String.ofList name) environment).getD "").toList
    if isVoid line then setAll environment rest
    else
      match assignment? lookUp line with
      | none => environment
      | some (name, value) =>
        let name := String.ofList name
        match Keyed.find? name environment with
        | some _ => setAll environment rest
        | none => setAll (Keyed.insert name (String.ofList value) environment) rest

def load (environment : List (String × String)) (text : String) : List (String × String) :=
  let chars := match text.toList with
    | '\ufeff' :: rest => rest
    | chars => chars
  setAll environment (joinLines .complete [] (textLines chars))

end SqlTemplate.CommandLine.EnvFile
