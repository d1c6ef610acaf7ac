import SqlTemplate.Keyed

/-! TOML documents, and what may be added to their tables. -/

namespace SqlTemplate

/-- How a table came about: by a header, on the way to another table, or between braces. -/
inductive Toml.Origin
  | header
  | passage (dotted : Bool)
  | braces
  deriving DecidableEq, Repr

/-- A value of a document. Numbers, dates and times are kept as they are written; a list is of
tables if headers made it. -/
inductive Toml
  | string (s : String)
  | boolean (b : Bool)
  | bare (text : String)
  | list (ofTables : Bool) (items : List Toml)
  | table (origin : Toml.Origin) (entries : List (String × Toml))

namespace Toml

def Origin.admits (dotted : Bool) : Origin → Bool
  | header => !dotted
  | passage _ => true
  | braces => false

/-- Changes the table at a path of keys, and makes the tables on the way that do not exist. A path
passes through a list of tables by its last table. -/
def changeAt (dotted : Bool) (change : List (String × Toml) → Option (List (String × Toml))) :
    List String → List (String × Toml) → Option (List (String × Toml))
  | [], entries => change entries
  | key :: path, entries =>
    match Keyed.find? key entries with
    | none => do
      let inner ← changeAt dotted change path []
      some (Keyed.insert key (.table (.passage dotted) inner) entries)
    | some (.table origin inner) =>
      if origin.admits dotted then do
        let inner ← changeAt dotted change path inner
        some (Keyed.insert key (.table origin inner) entries)
      else none
    | some (.list true items) =>
      match items.getLast? with
      | some (.table origin inner) => do
        let inner ← changeAt dotted change path inner
        some (Keyed.insert key (.list true (items.dropLast ++ [.table origin inner])) entries)
      | _ => none
    | some _ => none

def put (key : String) (value : Toml) (entries : List (String × Toml)) :
    Option (List (String × Toml)) :=
  match Keyed.find? key entries with
  | none => some (Keyed.insert key value entries)
  | some _ => none

def putAt (keys : List String) (value : Toml) (entries : List (String × Toml)) :
    Option (List (String × Toml)) :=
  match keys.getLast? with
  | some key => changeAt true (put key value) keys.dropLast entries
  | none => none

/-- Opens the table of a header: a new one, or one that headers have only passed through. -/
def openTable (key : String) (entries : List (String × Toml)) : Option (List (String × Toml)) :=
  match Keyed.find? key entries with
  | none => some (Keyed.insert key (.table .header []) entries)
  | some (.table (.passage false) inner) => some (Keyed.insert key (.table .header inner) entries)
  | some _ => none

def openItem (key : String) (entries : List (String × Toml)) : Option (List (String × Toml)) :=
  match Keyed.find? key entries with
  | none => some (Keyed.insert key (.list true [.table .header []]) entries)
  | some (.list true items) =>
    some (Keyed.insert key (.list true (items ++ [.table .header []])) entries)
  | some _ => none

def openAt (opening : String → List (String × Toml) → Option (List (String × Toml)))
    (keys : List String) (entries : List (String × Toml)) : Option (List (String × Toml)) :=
  match keys.getLast? with
  | some key => changeAt false (opening key) keys.dropLast entries
  | none => none

end Toml

end SqlTemplate
