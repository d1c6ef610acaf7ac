import SqlTemplate.Error
import SqlTemplate.Monitor.Hook

/-! Statements on a connection, executed under hooks. -/

namespace SqlTemplate

/-- What a connection answers: rows or an error, and the time it took in nanoseconds. -/
structure Reply (ρ : Type) where
  result : Except Error (List ρ)
  elapsed : Nat

def Reply.outcome {ρ : Type} (reply : Reply ρ) : Outcome :=
  match reply.result with
  | .ok rows => .rows rows.length
  | .error e => .ofError e.message

structure Connection (σ ρ : Type) where
  send : String → List Value → StateM σ (Reply ρ)

structure Query (σ ρ : Type) where
  connection : Connection σ ρ
  statement : Statement (Compute σ)
  hooks : List (Hook σ)
  tag : Option String

namespace Query

variable {σ ρ : Type}

def tagged (query : Query σ ρ) (tag : String) : Query σ ρ :=
  { query with tag := some tag }

def withHook (query : Query σ ρ) (hook : Hook σ) : Query σ ρ :=
  { query with hooks := query.hooks ++ [hook] }

def context (query : Query σ ρ) : Context :=
  .ofStatement query.statement query.tag

def executeUnderHooks (query : Query σ ρ) (values : List Value) :
    StateM σ (Except Error (List ρ)) := do
  match ← Hook.beforeAll query.context query.hooks with
  | .abort reason => pure (.error (.aborted reason))
  | .proceed =>
    let reply ← query.connection.send query.statement.text values
    Hook.afterAll query.context reply.elapsed reply.outcome query.hooks
    pure reply.result

/-- Executes the statement with the values of its markers; without hooks it is sent at once. -/
def execute (query : Query σ ρ) (values : List Value) : StateM σ (Except Error (List ρ)) :=
  if query.hooks.isEmpty then do
    let reply ← query.connection.send query.statement.text values
    pure reply.result
  else query.executeUnderHooks values

def bind (query : Query σ ρ) (args : Option Args) : StateM σ (Except Error (List Value)) := do
  match ← query.statement.bind args with
  | .error e => pure (.error (.bind e))
  | .ok values => pure (.ok values)

def invoke (query : Query σ ρ) (args : Option Args) : StateM σ (Except Error (List ρ)) := do
  match ← query.bind args with
  | .error e => pure (.error e)
  | .ok values => query.execute values

def tagQuoted : Option String → String
  | some tag => "Some(" ++ Text.quoted tag ++ ")"
  | none => "None"

def quoted (query : Query σ ρ) : String :=
  "Executor \x7b sql: " ++ Text.quoted query.statement.text ++
    ", param_count: " ++ String.ofList (Number.digits query.statement.params.length) ++
    ", tag: " ++ tagQuoted query.tag ++
    ", hooks: " ++ String.ofList (Number.digits query.hooks.length) ++ " \x7d"

end Query

end SqlTemplate
