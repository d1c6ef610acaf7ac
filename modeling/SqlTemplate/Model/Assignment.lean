import SqlTemplate.Args
import SqlTemplate.Error

/-! Columns that are written, read off bags of arguments. -/

namespace SqlTemplate

structure Assignment where
  column : Ident
  name : String
  type : ParamType
  value : Value

def Ident.require (text : String) : Except Error Ident :=
  match Ident.read text.toList with
  | .ok ident => .ok ident
  | .error flaw => .error (.ident text flaw)

/-- The type that checks values for a column; values of unknown columns are not checked. -/
def Entity.paramType (entity : Entity) (name : String) : ParamType :=
  ((entity.column? name).bind fun column => column.type.paramType?).getD .string

namespace Assignment

/-- Checks a value for a column; whether a column may be null is for the server to say. -/
def check (name : String) (type : ParamType) (value : Value) : Except Error Unit :=
  if value.isNull then .ok ()
  else
    match checkParam name type value with
    | .ok () => .ok ()
    | .error e => .error (.bind e)

def read (entity : Entity) (entry : String × Value) : Except Error Assignment := do
  let column ← Ident.require entry.1
  let type := entity.paramType entry.1
  check entry.1 type entry.2
  .ok ⟨column, entry.1, type, entry.2⟩

/-- Reads the entries of a bag, up to the first that is wrong. -/
def readAll (entity : Entity) : List (String × Value) → Except Error (List Assignment)
  | [] => .ok []
  | entry :: rest => do
    let assignment ← read entity entry
    let assignments ← readAll entity rest
    .ok (assignment :: assignments)

/-- The names that the entity does not declare, up to the first entry that is wrong. -/
def undeclared (entity : Entity) : List (String × Value) → List String
  | [] => []
  | entry :: rest =>
    match read entity entry with
    | .error _ => []
    | .ok _ =>
      if entity.hasColumn entry.1 then undeclared entity rest
      else entry.1 :: undeclared entity rest

end Assignment

end SqlTemplate
