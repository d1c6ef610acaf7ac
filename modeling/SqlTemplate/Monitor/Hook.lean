import SqlTemplate.Binding.Bind
import SqlTemplate.Monitor.Kind
import SqlTemplate.Text.Clip

/-! Hooks around the execution of statements, and chains of them. -/

namespace SqlTemplate

/-- What a hook sees of a statement: its text and the layout of its parameters, no values. -/
structure Context where
  sql : String
  kind : StatementKind
  named : List String
  computed : Nat
  tag : Option String
  deriving DecidableEq, Repr

namespace Context

def ofText (sql : String) (tag : Option String) : Context :=
  ⟨sql, .ofText sql.toList, [], 0, tag⟩

def ofStatement {τ : Type} (statement : Statement τ) (tag : Option String) : Context :=
  let named := statement.namedParams
  ⟨statement.text, .ofText statement.text.toList, named,
    statement.params.length - named.length, tag⟩

def markerCount (context : Context) : Nat :=
  context.named.length + context.computed

def reads (context : Context) (name : String) : Bool :=
  context.named.contains name

end Context

inductive Outcome
  | rows (count : Nat)
  | failure (message : String)
  deriving DecidableEq, Repr

namespace Outcome

def messageLimit : Nat := 512

def ofError (message : String) : Outcome :=
  .failure (String.ofList (Text.shorten messageLimit message.toList))

def isFailure : Outcome → Bool
  | rows _ => false
  | failure _ => true

def display : Outcome → String
  | rows 1 => "1 row"
  | rows count => String.ofList (Number.digits count) ++ " rows"
  | failure message => "failed: " ++ message

end Outcome

inductive Action
  | proceed
  | abort (reason : String)
  deriving DecidableEq, Repr

/-- An observer of executions, as steps on a state `σ`. Times are in nanoseconds. -/
structure Hook (σ : Type) where
  before : Context → StateM σ Action
  after : Context → Nat → Outcome → StateM σ Unit

namespace Hook

variable {σ : Type}

def idle : Hook σ := ⟨fun _ => pure .proceed, fun _ _ _ => pure ()⟩

instance : Inhabited (Hook σ) := ⟨idle⟩

/-- Asks some hooks in order, up to the first that aborts. -/
def beforeAll (context : Context) : List (Hook σ) → StateM σ Action
  | [] => pure .proceed
  | hook :: rest => do
    match ← hook.before context with
    | .abort reason => pure (.abort reason)
    | .proceed => beforeAll context rest

def afterAll (context : Context) (elapsed : Nat) (outcome : Outcome) :
    List (Hook σ) → StateM σ Unit
  | [] => pure ()
  | hook :: rest => do
    hook.after context elapsed outcome
    afterAll context elapsed outcome rest

def ofChain (hooks : List (Hook σ)) : Hook σ :=
  ⟨fun context => beforeAll context hooks,
    fun context elapsed outcome => afterAll context elapsed outcome hooks⟩

end Hook

end SqlTemplate
