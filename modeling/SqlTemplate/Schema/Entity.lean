import SqlTemplate.Ident
import SqlTemplate.Schema.ColumnType
import SqlTemplate.Schema.Nesting
import SqlTemplate.Text.WordChar

/-! Tables and views, read off the statements that create them. -/

namespace SqlTemplate

/-- A column of a table or view; a view's columns have no SQL type of their own. -/
structure Column where
  name : String
  sqlType : String
  type : ColumnType
  deriving DecidableEq, Repr

inductive EntityKind
  | table
  | view
  deriving DecidableEq, Repr

structure Entity where
  name : String
  kind : EntityKind
  columns : List Column
  deriving DecidableEq, Repr

def EntityKind.word : EntityKind → String
  | table => "table"
  | view => "view"

def EntityKind.name : EntityKind → String
  | table => "Table"
  | view => "View"

def Column.quoted (column : Column) : String :=
  "Field \x7b name: " ++ Text.quoted column.name ++ ", sql_type: " ++ Text.quoted column.sqlType ++
    ", ty: " ++ column.type.name ++ " \x7d"

def Entity.quoted (entity : Entity) : String :=
  "Entity \x7b name: " ++ Text.quoted entity.name ++ ", kind: " ++ entity.kind.name ++
    ", fields: " ++ Text.listed (entity.columns.map Column.quoted) ++ " \x7d"

def Entity.column? (entity : Entity) (name : String) : Option Column :=
  entity.columns.find? fun column => column.name == name

def Entity.hasColumn (entity : Entity) (name : String) : Bool :=
  (entity.column? name).isSome

namespace Schema

/-- Whether a character is a lower-case letter in some case; the long s counts as an s. -/
def isLetter (letter c : Char) : Bool :=
  c.toLower == letter || (letter == 's' && c == 'ſ')

def afterWord? : List Char → List Char → Option (List Char)
  | [], text => some text
  | _ :: _, [] => none
  | letter :: word, c :: text => if isLetter letter c then afterWord? word text else none

def afterBlanks? : List Char → Option (List Char)
  | [] => none
  | c :: rest => if Text.isBlank c then some (Text.trimLeft rest) else none

def afterWordAndBlanks? (word : String) (text : List Char) : Option (List Char) :=
  (afterWord? word.toList text).bind afterBlanks?

def isNameChar (c : Char) : Bool :=
  Text.isWord c || c == '.' || c == '"' || c == '$'

structure Head where
  kind : EntityKind
  name : List Char
  rest : List Char

def modifiers : List String := ["temp", "temporary", "unlogged", "materialized"]

def skipReplace (text : List Char) : List Char :=
  ((afterWordAndBlanks? "or" text).bind (afterWordAndBlanks? "replace")).getD text

def skipModifier (text : List Char) : List Char :=
  (modifiers.findSome? fun word => afterWordAndBlanks? word text).getD text

def skipExists (text : List Char) : List Char :=
  ((((afterBlanks? text).bind (afterWordAndBlanks? "if")).bind
    (afterWordAndBlanks? "not")).bind (afterWord? "exists".toList)).getD text

def readKind? (text : List Char) : Option (EntityKind × List Char) := do
  let (kind, rest) ←
    match afterWord? "table".toList text with
    | some rest => some (EntityKind.table, rest)
    | none => (afterWord? "view".toList text).map fun rest => (EntityKind.view, rest)
  if (rest.head?.map Text.isWord).getD false then none else some (kind, rest)

def readName (text : List Char) : List Char × List Char :=
  match afterBlanks? text with
  | none => ([], text)
  | some rest =>
    let name := rest.takeWhile isNameChar
    if name.isEmpty then ([], text) else (name, rest.dropWhile isNameChar)

def readHead? (text : List Char) : Option Head := do
  let text ← afterWordAndBlanks? "create" text
  let (kind, text) ← readKind? (skipModifier (skipReplace text))
  let (name, rest) := readName (skipExists text)
  some ⟨kind, name, rest⟩

/-- The first head of a statement in a text; `inWord` says whether a word character stands before
the text. -/
def findHead? (inWord : Bool) : List Char → Option Head
  | [] => none
  | c :: rest =>
    match if inWord then none else readHead? (c :: rest) with
    | some head => some head
    | none => findHead? (Text.isWord c) rest

def isSchema (text : String) : Bool :=
  (findHead? false text.toList).isSome

def constraintWords : List String :=
  ["primary", "unique", "constraint", "foreign", "check", "exclude", "like"]

def optionWords : List String :=
  ["not", "null", "default", "primary", "references", "unique", "check", "constraint",
    "generated", "collate"]

def isOneOf (words : List String) (text : List Char) : Bool :=
  words.any fun word => word.toList == text.map Char.toLower

def readQuoted? : List Char → Option (List Char × List Char)
  | [] => none
  | '"' :: '"' :: rest => (readQuoted? rest).map fun (name, rest) => ('"' :: '"' :: name, rest)
  | c :: rest =>
    if c = '"' then some (['"'], rest)
    else (readQuoted? rest).map fun (name, rest) => (c :: name, rest)

/-- The name a definition begins with, quotes included, and the text after it. -/
def splitName? : List Char → Option (List Char × List Char)
  | '"' :: rest => (readQuoted? rest).map fun (name, rest) => ('"' :: name, rest)
  | text =>
    let isPart := fun c => !Text.isBlank c
    some (text.takeWhile isPart, text.dropWhile isPart)

/-- The type at the start of some words: the first word, and those up to an option. -/
def typeWords : List (List Char) → List (List Char)
  | [] => []
  | first :: rest => first :: rest.takeWhile fun word => !isOneOf optionWords word

def columnNamed? (name rest : List Char) : Option Column :=
  if isOneOf constraintWords name then none
  else
    match typeWords (Text.words rest) with
    | [] => none
    | words =>
      let sqlType := (words.intersperse [' ']).flatten
      some ⟨String.ofList (Ident.unquote name), String.ofList sqlType, .ofSqlType sqlType⟩

def columnOf? (definition : List Char) : Option Column := do
  let (name, rest) ← splitName? definition
  columnNamed? name rest

def distinct (seen : List String) : List Column → List Column
  | [] => []
  | column :: rest =>
    if seen.contains column.name then distinct seen rest
    else column :: distinct (column.name :: seen) rest

def tableColumns (text : List Char) : List Column :=
  match body? text with
  | some body => distinct [] ((items body).filterMap columnOf?)
  | none => []

/-- Whether a text is a word, or a text in quotes that holds quotes only in pairs. -/
def isReferencePart (text : List Char) : Bool :=
  match Ident.betweenQuotes? text with
  | some inner => !inner.isEmpty && !Ident.hasLoneQuote inner
  | none => !text.isEmpty && text.all fun c => Text.isWord c || c == '$'

def referenceName? (item : List Char) : Option (List Char) := do
  let parts ← Ident.splitParts? false item
  if parts.all isReferencePart then parts.getLast? else none

/-- The alias at the end of an item whose `as` follows white space at the start of the text. -/
def aliasHere? (text : List Char) : Option (List Char) := do
  let text ← (afterBlanks? text).bind (afterWordAndBlanks? "as")
  let name := Text.trimRight text
  if isReferencePart name then some name else none

def alias? : List Char → Option (List Char)
  | [] => none
  | c :: rest => (aliasHere? (c :: rest)).orElse fun _ => alias? rest

def itemName? (item : List Char) : Option String :=
  ((alias? item).orElse fun _ => referenceName? item).map fun name =>
    String.ofList (Ident.unquote name)

def skipDistinct (text : List Char) : List Char :=
  match splitAtKeyword? "distinct".toList false .outside text with
  | some (before, after) => if (Text.trim before).isEmpty then after else text
  | none => text

def cutFrom (text : List Char) : List Char :=
  match splitAtKeyword? "from".toList false .outside text with
  | some (before, _) => before
  | none => text

def selectList? (text : List Char) : Option (List Char) :=
  (splitAtKeyword? "select".toList false .outside text).map fun parts =>
    cutFrom (skipDistinct parts.2)

def viewColumns (text : List Char) : List Column :=
  match selectList? text with
  | some list =>
    distinct [] ((items list).filterMap fun item =>
      (itemName? item).map fun name => ⟨name, "", .unknown⟩)
  | none => []

inductive Flaw
  | noStatement
  | noName
  deriving DecidableEq, Repr

def Flaw.message : Flaw → String
  | noStatement => "No CREATE TABLE or CREATE VIEW statement found"
  | noName => "Entity name could not be determined"

/-- The entity of the first statement in a text; `fallback` names it if the statement does not. -/
def entityOf (text fallback : String) : Except Flaw Entity :=
  match findHead? false text.toList with
  | none => .error .noStatement
  | some head =>
    let name := if head.name.isEmpty then fallback else String.ofList head.name
    if name.isEmpty then .error .noName
    else
      let columns := match head.kind with
        | .table => tableColumns head.rest
        | .view => viewColumns head.rest
      .ok ⟨name, head.kind, columns⟩

end Schema

end SqlTemplate
