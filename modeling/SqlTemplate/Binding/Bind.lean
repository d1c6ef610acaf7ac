import SqlTemplate.Args
import SqlTemplate.Binding.Check

/-! Binding a bag of arguments to the parameters of a statement. -/

namespace SqlTemplate

abbrev Compute (σ : Type) := Args → StateM σ Value

namespace Statement

variable {σ : Type}

def lookUp (args : Args) (name : String) : Except BindError Value :=
  match args.get? name with
  | some value => .ok value
  | none => .error (.missing name)

def checkOne (args : Args) (param : Param (Compute σ)) : Except BindError Unit :=
  match param.source with
  | .computed _ => .ok ()
  | .named => do
    let value ← lookUp args param.name
    checkParam param.name param.type value

def checkAll (args : Args) : List (Param (Compute σ)) → Except BindError Unit
  | [] => .ok ()
  | param :: rest => do
    checkOne args param
    checkAll args rest

def supply (args : Args) (param : Param (Compute σ)) : StateM σ (Except BindError Value) :=
  match param.source with
  | .named => pure (lookUp args param.name)
  | .computed compute => do pure (.ok (← compute args))

def supplyAll (args : Args) :
    List (Param (Compute σ)) → StateM σ (Except BindError (List Value))
  | [] => pure (.ok [])
  | param :: rest => do
    match ← supply args param with
    | .error e => pure (.error e)
    | .ok value =>
      match ← supplyAll args rest with
      | .error e => pure (.error e)
      | .ok values => pure (.ok (value :: values))

/-- The values of a statement's markers. All named parameters are checked before the first
computation runs; without a bag the computations see the empty one. -/
def bind (statement : Statement (Compute σ)) (args : Option Args) :
    StateM σ (Except BindError (List Value)) :=
  let bag := args.getD .empty
  match checkAll bag statement.params with
  | .error e => pure (.error e)
  | .ok () => supplyAll bag statement.params

end Statement

end SqlTemplate
