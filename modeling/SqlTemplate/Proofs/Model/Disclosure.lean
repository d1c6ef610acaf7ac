import SqlTemplate.Proofs.Execution.Disclosure
import SqlTemplate.Proofs.Model.Operations

/-!
What creating, updating and deleting disclose of the values that are written. The statement, and all
that hooks see of it, is made of the names of the table, the key and the columns; two accepted
operations on the same names differ in what the connection makes of the values.
-/

namespace SqlTemplate

variable {σ ρ τ : Type}

def Entity.paramsOf (entity : Entity) (names : List String) : List (Param τ) :=
  names.map fun name => .ofName name (entity.paramType name)

theorem Assignment.params_of_readAll {entity : Entity} {entries : List (String × Value)}
    {slots : List Assignment} (accepted : readAll entity entries = .ok slots) :
    slots.map (fun slot => (.ofName slot.name slot.type : Param τ)) =
      entity.paramsOf (entries.map Prod.fst) := by
  induction entries generalizing slots with
  | nil =>
      cases accepted
      rfl
  | cons entry rest ih =>
      rw [readAll] at accepted
      obtain ⟨first, read, accepted⟩ := Result.bind_eq_ok_iff.mp accepted
      obtain ⟨others, later, accepted⟩ := Result.bind_eq_ok_iff.mp accepted
      cases accepted
      obtain ⟨column, _, read⟩ := Result.bind_eq_ok_iff.mp read
      obtain ⟨_, _, read⟩ := Result.bind_eq_ok_iff.mp read
      cases read
      rw [List.map_cons, ih later]
      rfl

theorem Assignment.undeclared_of_readAll {entity : Entity} {entries : List (String × Value)}
    {slots : List Assignment} (accepted : readAll entity entries = .ok slots) :
    undeclared entity entries =
      (entries.map Prod.fst).filter fun name => !entity.hasColumn name := by
  induction entries generalizing slots with
  | nil => rfl
  | cons entry rest ih =>
      rw [readAll] at accepted
      obtain ⟨first, read, accepted⟩ := Result.bind_eq_ok_iff.mp accepted
      obtain ⟨others, later, _⟩ := Result.bind_eq_ok_iff.mp accepted
      simp only [undeclared, read, List.map_cons, ih later]
      by_cases declared : entity.hasColumn entry.1 <;> simp [declared]

namespace Model

def insertStatement (model : Model σ ρ) (names : List String) : Statement τ :=
  ⟨Written.insertText (String.ofList model.table.text) (Written.numbered 1 names),
    model.entity.paramsOf names⟩

def keyParam (model : Model σ ρ) : Param τ :=
  .ofName (String.ofList model.key.name) model.database.settings.keyType

def updateStatement (model : Model σ ρ) (names : List String) : Statement τ :=
  ⟨Written.updateText (String.ofList model.table.text) (String.ofList model.key.text)
      (Written.numbered 2 names),
    model.keyParam :: model.entity.paramsOf names⟩

def deleteStatement (model : Model σ ρ) : Statement τ :=
  ⟨Written.deleteText (String.ofList model.table.text) (String.ofList model.key.text),
    [model.keyParam]⟩

structure Binds (command : Command) (statement : Statement τ) (names : List String)
    (values : List Value) : Prop where
  statement : command.statement = statement
  names : command.slots.map Assignment.name = names
  values : command.values = values

theorem binds_of_createCommand {model : Model σ ρ} {data : Args} {command : Command}
    (accepted : model.createCommand data = .ok command) :
    Binds command (model.insertStatement data.names : Statement τ) data.names data.values := by
  obtain ⟨slots, read, rfl⟩ := reads_of_createCommand accepted
  obtain ⟨names, values, reads⟩ := slots_of_readAll read
  refine ⟨?_, names, values⟩
  rw [Command.statement, Written.insert_text (faithful_of_reads reads), names]
  exact congrArg (Statement.mk _) (Assignment.params_of_readAll read)

theorem binds_of_updateCommand {model : Model σ ρ} {id : Value} {data : Args} {command : Command}
    (accepted : model.updateCommand id data = .ok command) :
    Binds command (model.updateStatement data.names : Statement τ)
      (String.ofList model.key.name :: data.names) (id :: data.values) := by
  obtain ⟨slots, key, read, found, rfl⟩ := reads_of_updateCommand accepted
  obtain ⟨names, values, reads⟩ := slots_of_readAll read
  rw [keyOf_eq_ok found]
  refine ⟨?_, congrArg (_ :: ·) names, congrArg (id :: ·) values⟩
  rw [Command.statement, Written.update_text (faithful_of_reads reads), names]
  exact congrArg (fun params => Statement.mk _ (model.keyParam :: params))
    (Assignment.params_of_readAll read)

theorem binds_of_deleteCommand {model : Model σ ρ} {id : Value} {command : Command}
    (accepted : model.deleteCommand id = .ok command) :
    Binds command (model.deleteStatement : Statement τ) [String.ofList model.key.name] [id] := by
  obtain ⟨key, found, accepted⟩ := Result.bind_eq_ok_iff.mp accepted
  cases accepted
  rw [keyOf_eq_ok found]
  refine ⟨?_, rfl, rfl⟩
  rw [Command.statement, Written.delete_text]
  rfl

theorem report_of_createCommand {model : Model σ ρ} {data : Args} {command : Command}
    (accepted : model.createCommand data = .ok command) :
    model.report data = (data.names.filter fun name => !model.entity.hasColumn name).forM
      fun name => model.database.emit (undeclaredEvent model.entity name) := by
  obtain ⟨slots, read, _⟩ := reads_of_createCommand accepted
  rw [report, Assignment.undeclared_of_readAll read]
  rfl

theorem report_of_updateCommand {model : Model σ ρ} {id : Value} {data : Args} {command : Command}
    (accepted : model.updateCommand id data = .ok command) :
    model.report data = (data.names.filter fun name => !model.entity.hasColumn name).forM
      fun name => model.database.emit (undeclaredEvent model.entity name) := by
  obtain ⟨slots, _, read, _⟩ := reads_of_updateCommand accepted
  rw [report, Assignment.undeclared_of_readAll read]
  rfl

@[simp] theorem text_statement (command : Command) :
    (command.statement : Statement τ).text = String.ofList command.text := rfl

def contextOf (model : Model σ ρ) (operation text : String) (names : List String) : Context :=
  ⟨text, .ofText text.toList, names, 0,
    some (model.database.settings.tagFor (operationName model.entity operation))⟩

@[simp] theorem context_queryOf (model : Model σ ρ) (operation : String) (command : Command) :
    (model.queryOf operation command).context =
      model.contextOf operation (String.ofList command.text)
        (command.slots.map Assignment.name) := by
  simp only [queryOf, Query.context, Context.ofStatement, namedParams_statement]
  simp [Command.statement, contextOf]

theorem queryOf_congr (model : Model σ ρ) (operation : String) {command other : Command}
    (same : (command.statement : Statement (Compute σ)) = other.statement) :
    model.queryOf operation command = model.queryOf operation other := by
  simp only [queryOf, same]

/-- Two runs of one statement with values of their own. Whoever is called is shown the same, and if
the connection answers alike the runs are the same in all respects. -/
structure Undisclosed (model : Model σ ρ) (context : Context) (values values' : List Value)
    (operation operation' : (σ : Type) → Model σ ρ → StateM σ (Except Error (List ρ))) :
    Prop where
  alike : ∀ s t, Alike model.hooks context (operation (Recorded σ) model.recorded (s, []))
    (operation' (Recorded σ) model.recorded (t, []))
  answered : model.database.connection.send context.sql values =
    model.database.connection.send context.sql values' → operation σ model = operation' σ model

theorem run_alike (model : Model σ ρ) (operation : String) {command other : Command}
    (same : (command.statement : Statement (Compute σ)) = other.statement) (s t : σ) :
    Alike model.hooks (model.queryOf operation command).context
      (model.recorded.run operation (.ok command) (s, []))
      (model.recorded.run operation (.ok other) (t, [])) := by
  have alike :=
    Query.execute_alike (model.queryOf operation command) command.values other.values s t
  rw [run, run, queryOf_recorded, queryOf_recorded, ← queryOf_congr model operation same]
  exact alike

theorem run_congr (model : Model σ ρ) (operation : String) {command other : Command}
    (same : (command.statement : Statement (Compute σ)) = other.statement)
    (answers : model.database.connection.send (String.ofList command.text) command.values =
      model.database.connection.send (String.ofList command.text) other.values) :
    model.run operation (.ok command) = model.run operation (.ok other) := by
  rw [run, run, ← queryOf_congr model operation same]
  exact Query.execute_congr answers

theorem undisclosed_of_runs (model : Model σ ρ) {name : String}
    {operation operation' : (σ : Type) → Model σ ρ → StateM σ (Except Error (List ρ))}
    {command command' : Command} {statement : Statement (Compute σ)} {names : List String}
    {values values' : List Value} (binds : Binds command statement names values)
    (binds' : Binds command' statement names values') (before : σ → σ)
    (runs : ∀ s, operation σ model s = model.run name (.ok command) (before s))
    (runs' : ∀ s, operation' σ model s = model.run name (.ok command') (before s))
    (noted : ∀ s, operation (Recorded σ) model.recorded (s, []) =
      model.recorded.run name (.ok command) (before s, []))
    (noted' : ∀ s, operation' (Recorded σ) model.recorded (s, []) =
      model.recorded.run name (.ok command') (before s, [])) :
    model.Undisclosed (model.contextOf name statement.text names) values values' operation
      operation' := by
  obtain ⟨rfl, rfl, rfl⟩ := binds
  obtain ⟨same, _, rfl⟩ := binds'
  constructor
  · intro s t
    rw [noted, noted', text_statement, ← context_queryOf]
    exact model.run_alike name same.symm _ _
  · intro answers
    funext s
    rw [runs, runs', model.run_congr name same.symm answers]

def createContext (model : Model σ ρ) (names : List String) : Context :=
  model.contextOf "create"
    (Written.insertText (String.ofList model.table.text) (Written.numbered 1 names)) names

def updateContext (model : Model σ ρ) (names : List String) : Context :=
  model.contextOf "update"
    (Written.updateText (String.ofList model.table.text) (String.ofList model.key.text)
      (Written.numbered 2 names))
    (String.ofList model.key.name :: names)

def deleteContext (model : Model σ ρ) : Context :=
  model.contextOf "delete"
    (Written.deleteText (String.ofList model.table.text) (String.ofList model.key.text))
    [String.ofList model.key.name]

theorem create_undisclosed (model : Model σ ρ) {data other : Args} (same : data.SameKeys other)
    {command command' : Command} (accepted : model.createCommand data = .ok command)
    (accepted' : model.createCommand other = .ok command') :
    model.Undisclosed (model.createContext data.names) data.values other.values
      (fun _ model => model.create data) (fun _ model => model.create other) := by
  have binds' : Binds command' (model.insertStatement other.names : Statement (Compute σ))
      other.names other.values := binds_of_createCommand accepted'
  have reports : model.report other = model.report data := by
    rw [report_of_createCommand accepted, report_of_createCommand accepted',
      Args.sameKeys_iff.mp same]
  rw [← Args.sameKeys_iff.mp same] at binds'
  apply model.undisclosed_of_runs (binds_of_createCommand accepted) binds'
    fun s => (model.report data s).2
  · intro s
    rw [create, accepted]
    rfl
  · intro s
    rw [create, accepted', reports]
    rfl
  · intro s
    rw [create_recorded, accepted]
  · intro s
    rw [create_recorded, accepted', reports]

theorem update_undisclosed (model : Model σ ρ) {id id' : Value} {data other : Args}
    (same : data.SameKeys other) {command command' : Command}
    (accepted : model.updateCommand id data = .ok command)
    (accepted' : model.updateCommand id' other = .ok command') :
    model.Undisclosed (model.updateContext data.names) (id :: data.values) (id' :: other.values)
      (fun _ model => model.update id data) (fun _ model => model.update id' other) := by
  have binds' : Binds command' (model.updateStatement other.names : Statement (Compute σ))
      (String.ofList model.key.name :: other.names) (id' :: other.values) :=
    binds_of_updateCommand accepted'
  have reports : model.report other = model.report data := by
    rw [report_of_updateCommand accepted, report_of_updateCommand accepted',
      Args.sameKeys_iff.mp same]
  rw [← Args.sameKeys_iff.mp same] at binds'
  apply model.undisclosed_of_runs (binds_of_updateCommand accepted) binds'
    fun s => (model.report data s).2
  · intro s
    rw [update, accepted]
    rfl
  · intro s
    rw [update, accepted', reports]
    rfl
  · intro s
    rw [update_recorded, accepted]
  · intro s
    rw [update_recorded, accepted', reports]

theorem delete_undisclosed (model : Model σ ρ) {id id' : Value} {command command' : Command}
    (accepted : model.deleteCommand id = .ok command)
    (accepted' : model.deleteCommand id' = .ok command') :
    model.Undisclosed model.deleteContext [id] [id'] (fun _ model => model.delete id)
      (fun _ model => model.delete id') := by
  have noted : ∀ id, model.recorded.deleteCommand id = model.deleteCommand id := fun _ => rfl
  apply model.undisclosed_of_runs (binds_of_deleteCommand accepted)
    (binds_of_deleteCommand accepted') fun s => s
  · intro s
    rw [delete, accepted]
  · intro s
    rw [delete, accepted']
  · intro s
    rw [delete, noted, accepted]
  · intro s
    rw [delete, noted, accepted']

/-- Bound values reach neither hooks nor SQL texts. Two invocations of a query that bind show
everybody its one context and text; and so do two accepted operations of a model on the same
columns, which are the same in all respects if the connection answers them alike. Hooks that decide
on the context alone end both runs at the same place for the same reason, or neither. -/
theorem values_undisclosed (σ ρ : Type) :
    (∀ (query : Query σ ρ) (args args' : Option Args) (s t : σ),
      (∃ values, (query.statement.bind args s).1 = .ok values) →
      (∃ values, (query.statement.bind args' t).1 = .ok values) →
      Alike query.hooks query.context (query.recorded.invoke args (s, []))
        (query.recorded.invoke args' (t, []))) ∧
    (∀ (model : Model σ ρ) (data other : Args), data.SameKeys other →
      ((∃ command, model.createCommand data = .ok command) →
        (∃ command, model.createCommand other = .ok command) →
        model.Undisclosed (model.createContext data.names) data.values other.values
          (fun _ model => model.create data) (fun _ model => model.create other)) ∧
      ∀ id id', (∃ command, model.updateCommand id data = .ok command) →
        (∃ command, model.updateCommand id' other = .ok command) →
        model.Undisclosed (model.updateContext data.names) (id :: data.values)
          (id' :: other.values) (fun _ model => model.update id data)
          (fun _ model => model.update id' other)) ∧
    ∀ (model : Model σ ρ) (id id' : Value), (∃ command, model.deleteCommand id = .ok command) →
      (∃ command, model.deleteCommand id' = .ok command) →
      model.Undisclosed model.deleteContext [id] [id'] (fun _ model => model.delete id)
        (fun _ model => model.delete id') := by
  refine ⟨?_, ?_, ?_⟩
  · rintro query args args' s t ⟨values, bound⟩ ⟨values', bound'⟩
    exact Query.invoke_alike (Prod.ext bound rfl) (Prod.ext bound' rfl)
  · intro model data other same
    constructor
    · rintro ⟨command, accepted⟩ ⟨command', accepted'⟩
      exact model.create_undisclosed same accepted accepted'
    · rintro id id' ⟨command, accepted⟩ ⟨command', accepted'⟩
      exact model.update_undisclosed same accepted accepted'
  · rintro model id id' ⟨command, accepted⟩ ⟨command', accepted'⟩
    exact model.delete_undisclosed accepted accepted'

def grace : Args := .ofList [("age", .int 85), ("name", .text "Grace")]

theorem values_undisclosed_users :
    ∃ model, ofEntity emptyDatabase usersTable = .ok model ∧ ada.SameKeys grace ∧
      model.Undisclosed
        ⟨"INSERT INTO users (age, name) VALUES ($1, $2) RETURNING *", .insert, ["age", "name"], 0,
          some "users.create"⟩
        [.text "36", .text "Ada"] [.int 85, .text "Grace"] (fun _ model => model.create ada)
        (fun _ model => model.create grace) := by
  have sameKeys : ada.SameKeys grace := Args.sameKeys_iff.mpr (by decide +kernel)
  have accepts : ((ofEntity emptyDatabase usersTable >>= fun model =>
      model.createCommand ada >>= fun _ => model.createCommand grace).toOption).isSome = true := by
    decide +kernel
  cases all : ofEntity emptyDatabase usersTable >>= fun model =>
      model.createCommand ada >>= fun _ => model.createCommand grace with
  | error e => rw [all] at accepts; cases accepts
  | ok command' =>
      obtain ⟨model, made, both⟩ := Result.bind_eq_ok_iff.mp all
      obtain ⟨command, accepted, accepted'⟩ := Result.bind_eq_ok_iff.mp both
      have undisclosed := ((values_undisclosed Unit Unit).2.1 model ada grace sameKeys).1
        ⟨command, accepted⟩ ⟨command', accepted'⟩
      obtain ⟨database, table, _⟩ := names_of_ofEntity made
      have context : model.createContext ada.names =
          ⟨"INSERT INTO users (age, name) VALUES ($1, $2) RETURNING *", .insert, ["age", "name"],
            0, some "users.create"⟩ := by
        rw [createContext, contextOf, table, database, entity_of_ofEntity made]
        decide +kernel
      rw [context] at undisclosed
      exact ⟨model, made, sameKeys, undisclosed⟩

end Model

end SqlTemplate
