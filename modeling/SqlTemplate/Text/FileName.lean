import SqlTemplate.Text.Split

/-! The names of files, read off their paths. -/

namespace SqlTemplate.Text

/-- The last part of a path. Empty parts and single dots do not count, and two dots are no name. -/
def fileName? (path : List Char) : Option (List Char) :=
  let parts := (split '/' path).filter fun part => !part.isEmpty && part != ['.']
  parts.getLast?.filter fun part => part != ['.', '.']

/-- A name without its last dot and what follows it, unless nothing stands before the dot. -/
def stem (name : List Char) : List Char :=
  match (name.reverse.dropWhile (· != '.')).drop 1 with
  | [] => name
  | before => before.reverse

def fileStem? (path : String) : Option String :=
  (fileName? path.toList).map fun name => String.ofList (stem name)

end SqlTemplate.Text
