import SqlTemplate.Query

/-!
Executions on record. Whatever an execution calls is made to note the call beside its own state,
so that the order of the calls and who is left out can be read off the notes.
-/

namespace SqlTemplate

variable {σ ρ α β : Type}

/-- A call that an execution makes. Computations and hooks are told apart by their places, counted
from zero among the markers and in the chain. -/
inductive Call
  | compute (place : Nat) (bag : Args)
  | before (place : Nat) (context : Context)
  | send (text : String) (values : List Value)
  | after (place : Nat) (context : Context) (elapsed : Nat) (outcome : Outcome)

/-- A state with the calls so far, the first of them first. -/
abbrev Recorded (σ : Type) := σ × List Call

def noting (call : Call) (step : StateM σ α) : StateM (Recorded σ) α :=
  fun state => ((step state.1).1, ((step state.1).2, state.2 ++ [call]))

def Source.recorded (place : Nat) : Source (Compute σ) → Source (Compute (Recorded σ))
  | .named => .named
  | .computed compute => .computed fun bag => noting (.compute place bag) (compute bag)

def Param.recorded (place : Nat) (param : Param (Compute σ)) : Param (Compute (Recorded σ)) :=
  ⟨param.name, param.type, param.source.recorded place⟩

def Param.allRecorded (place : Nat) :
    List (Param (Compute σ)) → List (Param (Compute (Recorded σ)))
  | [] => []
  | param :: rest => param.recorded place :: allRecorded (place + 1) rest

def Statement.recorded (statement : Statement (Compute σ)) : Statement (Compute (Recorded σ)) :=
  ⟨statement.text, Param.allRecorded 0 statement.params⟩

def Hook.recorded (place : Nat) (hook : Hook σ) : Hook (Recorded σ) :=
  ⟨fun context => noting (.before place context) (hook.before context),
    fun context elapsed outcome =>
      noting (.after place context elapsed outcome) (hook.after context elapsed outcome)⟩

def Hook.allRecorded (place : Nat) : List (Hook σ) → List (Hook (Recorded σ))
  | [] => []
  | hook :: rest => hook.recorded place :: allRecorded (place + 1) rest

def Connection.recorded (connection : Connection σ ρ) : Connection (Recorded σ) ρ :=
  ⟨fun text values => noting (.send text values) (connection.send text values)⟩

def Query.recorded (query : Query σ ρ) : Query (Recorded σ) ρ :=
  ⟨query.connection.recorded, query.statement.recorded, Hook.allRecorded 0 query.hooks, query.tag⟩

@[simp] theorem bind_apply (step : StateM σ α) (next : α → StateM σ β) (s : σ) :
    (step >>= next) s = next (step s).1 (step s).2 := rfl

@[simp] theorem pure_apply (a : α) (s : σ) : (pure a : StateM σ α) s = (a, s) := rfl

@[simp] theorem mapM_cons_apply (step : α → StateM σ β) (input : α) (rest : List α) (s : σ) :
    (input :: rest).mapM step s =
      ((step input s).1 :: (rest.mapM step (step input s).2).1,
        (rest.mapM step (step input s).2).2) := by
  rw [List.mapM_cons]
  rfl

theorem noting_apply {step : StateM σ α} {s t : σ} {a : α} (call : Call) (calls : List Call)
    (taken : step s = (a, t)) : noting call step (s, calls) = (a, (t, calls ++ [call])) := by
  simp [noting, taken]

/-! What is on record has the layout of the original, so hooks see the same of it. -/

@[simp] theorem Param.isComputed_recorded (place : Nat) (param : Param (Compute σ)) :
    (param.recorded place).isComputed = param.isComputed := by
  cases source : param.source <;> simp [Param.recorded, Param.isComputed, Source.recorded, source]

@[simp] theorem Param.length_allRecorded (place : Nat) (params : List (Param (Compute σ))) :
    (Param.allRecorded place params).length = params.length := by
  induction params generalizing place with
  | nil => rfl
  | cons param rest ih => simp [Param.allRecorded, ih]

@[simp] theorem Statement.namedParams_recorded (statement : Statement (Compute σ)) :
    statement.recorded.namedParams = statement.namedParams := by
  have general : ∀ place (params : List (Param (Compute σ))),
      ((Param.allRecorded place params).filter fun param => !param.isComputed).map Param.name =
        (params.filter fun param => !param.isComputed).map Param.name := by
    intro place params
    induction params generalizing place with
    | nil => rfl
    | cons param rest ih =>
        simp only [Param.allRecorded, List.filter_cons, Param.isComputed_recorded]
        split
        · simp only [List.map_cons, ih]
          rfl
        · exact ih _
  exact general 0 statement.params

theorem Query.context_recorded (query : Query σ ρ) :
    query.recorded.context = query.context := by
  have lengths : query.statement.recorded.params.length = query.statement.params.length :=
    Param.length_allRecorded 0 query.statement.params
  simp only [Query.context, Query.recorded, Context.ofStatement, Statement.namedParams_recorded,
    lengths]
  rfl

end SqlTemplate
