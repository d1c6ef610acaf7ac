import SqlTemplate.Calendar.Text
import SqlTemplate.Json.Reader
import SqlTemplate.Text.Quoted

/-! Values of statement parameters. -/

namespace SqlTemplate

inductive Value
  | null
  | bool (b : Bool)
  | int (n : Int64)
  | float (x : Number.Double)
  | text (s : String)
  | date (d : Calendar.Date)
  | timestamp (t : Calendar.Timestamp)
  | json (document : Json)

namespace Value

def kind : Value → String
  | null => "null"
  | bool _ => "boolean"
  | int _ => "integer"
  | float _ => "float"
  | text _ => "string"
  | date _ => "date"
  | timestamp _ => "timestamp"
  | json _ => "json"

def isNull : Value → Bool
  | null => true
  | _ => false

def asText? : Value → Option String
  | text s => some s
  | _ => none

def boolText (b : Bool) : String :=
  if b then "true" else "false"

/-- The text of a value as it is spliced into a statement: nothing is quoted or escaped. -/
def display : Value → String
  | null => "NULL"
  | bool b => boolText b
  | int n => String.ofList (Number.intText n.toInt)
  | float x => String.ofList x.plainText
  | text s => s
  | date d => String.ofList d.text
  | timestamp t => String.ofList t.text
  | json document => String.ofList document.text

/-- The value of a JSON document: a number is an integer if it fits a signed word, and lists and
objects stay documents. -/
def ofJson : Json → Value
  | .null => null
  | .bool b => bool b
  | .number (.whole n) =>
    if n < Number.twoPow 63 then int (Int64.ofInt n) else float (Number.Double.ofInt n)
  | .number (.double x) => float x
  | .string s => text s
  | document => json document

/-- Equality of values of one kind; floats compare as numbers. -/
def equals : Value → Value → Bool
  | null, null => true
  | bool a, bool b => a == b
  | int m, int n => m == n
  | float x, float y => x.numEq y
  | text a, text b => a == b
  | date a, date b => a = b
  | timestamp a, timestamp b => a = b
  | json a, json b => a.equals b
  | _, _ => false

def floatQuoted (x : Number.Double) : String :=
  String.ofList (Number.Layout.marked.write .double x.bits.toNat)

mutual

def documentQuoted : Json → String
  | .null => "Null"
  | .bool b => "Bool(" ++ boolText b ++ ")"
  | .number n => "Number(" ++ String.ofList n.text ++ ")"
  | .string s => "String(" ++ Text.quoted s ++ ")"
  | .array items => "Array [" ++ String.intercalate ", " (itemsQuoted items) ++ "]"
  | .object members => "Object \x7b" ++ String.intercalate ", " (membersQuoted members) ++ "\x7d"

def itemsQuoted : List Json → List String
  | [] => []
  | item :: rest => documentQuoted item :: itemsQuoted rest

def membersQuoted : List (String × Json) → List String
  | [] => []
  | (name, value) :: rest =>
    (Text.quoted name ++ ": " ++ documentQuoted value) :: membersQuoted rest

end

def quoted : Value → String
  | null => "Null"
  | bool b => "Bool(" ++ boolText b ++ ")"
  | int n => "Int(" ++ String.ofList (Number.intText n.toInt) ++ ")"
  | float x => "Float(" ++ floatQuoted x ++ ")"
  | text s => "Text(" ++ Text.quoted s ++ ")"
  | date d => "Date(" ++ String.ofList d.text ++ ")"
  | timestamp t => "Timestamp(" ++ String.ofList t.zuluText ++ ")"
  | json document => "Json(" ++ documentQuoted document ++ ")"

end Value

end SqlTemplate
