import SqlTemplate.Model.Assignment
import SqlTemplate.Template.Statement

/-! Statements that write rows, each built together with the values of its markers. -/

namespace SqlTemplate

structure Command where
  text : List Char
  slots : List Assignment

namespace Command

def statement {τ : Type} (command : Command) : Statement τ :=
  ⟨String.ofList command.text, command.slots.map fun slot => .ofName slot.name slot.type⟩

def values (command : Command) : List Value :=
  command.slots.map Assignment.value

def commaSeparated (texts : List (List Char)) : List Char :=
  (texts.intersperse [',', ' ']).flatten

def markers (next : Nat) : List Assignment → List (List Char)
  | [] => []
  | _ :: rest => Statement.marker next :: markers (next + 1) rest

def settings (next : Nat) : List Assignment → List (List Char)
  | [] => []
  | slot :: rest =>
    (slot.column.text ++ " = ".toList ++ Statement.marker next) :: settings (next + 1) rest

def insertedText : List Assignment → List Char
  | [] => "DEFAULT VALUES".toList
  | slots =>
    '(' :: (commaSeparated (slots.map fun slot => slot.column.text) ++ ") VALUES (".toList ++
      commaSeparated (markers 1 slots) ++ [')'])

/-- Inserts a row; without columns it has only default values. -/
def insert (table : Ident) (slots : List Assignment) : Command :=
  ⟨"INSERT INTO ".toList ++ table.text ++ ' ' :: (insertedText slots ++ " RETURNING *".toList),
    slots⟩

/-- Updates the row with a key; the key is the first marker. -/
def update (table : Ident) (key : Assignment) (slots : List Assignment) : Command :=
  ⟨"UPDATE ".toList ++ table.text ++ " SET ".toList ++ commaSeparated (settings 2 slots) ++
      " WHERE ".toList ++ key.column.text ++ " = $1 RETURNING *".toList,
    key :: slots⟩

def delete (table : Ident) (key : Assignment) : Command :=
  ⟨"DELETE FROM ".toList ++ table.text ++ " WHERE ".toList ++ key.column.text ++ " = $1".toList,
    [key]⟩

end Command

end SqlTemplate
