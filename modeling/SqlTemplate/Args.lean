import SqlTemplate.Keyed
import SqlTemplate.Value

/-! Bags of named arguments. -/

namespace SqlTemplate

structure Args where
  entries : List (String × Value)
  ascending : Keyed.Ascending entries

namespace Args

def empty : Args := ⟨[], List.Pairwise.nil⟩

def insert (args : Args) (name : String) (value : Value) : Args :=
  ⟨Keyed.insert name value args.entries, Keyed.ascending_insert args.ascending⟩

def get? (args : Args) (name : String) : Option Value :=
  Keyed.find? name args.entries

def contains (args : Args) (name : String) : Bool :=
  (args.get? name).isSome

def size (args : Args) : Nat := args.entries.length

def isEmpty (args : Args) : Bool := args.entries.isEmpty

/-- The bag of some pairs; of two with one name the later counts. -/
def ofList (pairs : List (String × Value)) : Args :=
  pairs.foldl (fun args pair => args.insert pair.1 pair.2) empty

def equals (a b : Args) : Bool :=
  a.size == b.size &&
    (a.entries.zip b.entries).all fun (x, y) => x.1 == y.1 && x.2.equals y.2

@[simp] theorem get?_insert (args : Args) (name other : String) (value : Value) :
    (args.insert name value).get? other =
      if other = name then some value else args.get? other :=
  Keyed.find?_insert name other value args.entries

end Args

end SqlTemplate
