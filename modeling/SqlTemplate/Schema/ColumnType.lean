import SqlTemplate.Template.Statement
import SqlTemplate.Text.Blank
import SqlTemplate.Text.Lowercase

/-! Types of columns, read off the SQL types they are declared with. -/

namespace SqlTemplate

inductive ColumnType
  | integer
  | float
  | text
  | boolean
  | date
  | json
  | unknown
  deriving DecidableEq, Repr

namespace ColumnType

def word : ColumnType → String
  | integer => "integer"
  | float => "float"
  | text => "text"
  | boolean => "boolean"
  | date => "date"
  | json => "json"
  | unknown => "unknown"

def name : ColumnType → String
  | integer => "Integer"
  | float => "Float"
  | text => "Text"
  | boolean => "Boolean"
  | date => "Date"
  | json => "Json"
  | unknown => "Unknown"

/-- The parameter type that checks values for a column, if its kind is known. -/
def paramType? : ColumnType → Option ParamType
  | integer => some .integer
  | float => some .float
  | text => some .string
  | boolean => some .boolean
  | date => some .date
  | json => some .json
  | unknown => none

/-- Drops the text from the first opening parenthesis to the next closing one; none if there is no
such pair. -/
def dropGroup? (text : List Char) : Option (List Char) :=
  match text.dropWhile (· != '(') with
  | [] => none
  | opening =>
    match opening.dropWhile (· != ')') with
    | [] => none
    | _ :: after => some (text.takeWhile (· != '(') ++ after)

theorem length_lt_of_dropGroup? {text rest : List Char} (found : dropGroup? text = some rest) :
    rest.length < text.length := by
  unfold dropGroup? at found
  split at found
  · simp at found
  · rename_i opening _
    split at found
    · simp at found
    · rename_i _ after same
      simp only [Option.some.injEq] at found
      have parts := congrArg List.length
        (List.takeWhile_append_dropWhile (p := (· != '(')) (l := text))
      have shorter := (List.dropWhile_sublist (· != ')') (l := text.dropWhile (· != '('))).length_le
      rw [same] at shorter
      simp only [List.length_append, List.length_cons] at parts shorter
      rw [← found, List.length_append]
      omega

def dropGroups (text : List Char) : List Char :=
  match _found : dropGroup? text with
  | some rest => dropGroups rest
  | none => text
termination_by text.length
decreasing_by exact length_lt_of_dropGroup? _found

def foldSynonym (text : List Char) : List Char :=
  if text = "character varying".toList then "varchar".toList
  else if text = "timestamp with time zone".toList then "timestamptz".toList
  else text

/-- A SQL type in lower case, without parenthesised modifiers, with single spaces. -/
def normalize (sqlType : List Char) : List Char :=
  foldSynonym (Text.unwords (dropGroups (Text.lowercase (Text.trim sqlType))))

def names : List (ColumnType × List String) := [
  (integer, ["int", "integer", "int2", "int4", "int8", "smallint", "bigint", "serial",
    "smallserial", "bigserial"]),
  (float, ["float", "float4", "float8", "real", "double", "double precision", "decimal",
    "numeric"]),
  (text, ["char", "character", "varchar", "text", "citext", "name"]),
  (boolean, ["bool", "boolean"]),
  (date, ["date", "timestamp", "timestamptz", "timestamp without time zone"]),
  (json, ["json", "jsonb"])]

def ofName (name : List Char) : ColumnType :=
  match names.find? fun entry => entry.2.any fun known => known.toList == name with
  | some entry => entry.1
  | none => unknown

def ofSqlType (sqlType : List Char) : ColumnType :=
  ofName (normalize sqlType)

end ColumnType

end SqlTemplate
