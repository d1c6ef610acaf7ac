import SqlTemplate.Model
import SqlTemplate.Proofs.Execution.Protocol
import SqlTemplate.Proofs.Model.Written

/-!
Creating, updating and deleting on record. An accepted operation executes one statement, whose
text, names and values line up, and calls nobody else.
-/

namespace SqlTemplate

variable {σ ρ α : Type}

def unnoted (step : StateM σ α) : StateM (Recorded σ) α :=
  fun state => ((step state.1).1, ((step state.1).2, state.2))

def Database.recorded (database : Database σ ρ) : Database (Recorded σ) ρ :=
  ⟨database.connection.recorded, database.settings, fun event => unnoted (database.emit event)⟩

namespace Model

def recorded (model : Model σ ρ) : Model (Recorded σ) ρ :=
  ⟨model.database.recorded, model.entity, model.table, model.key,
    Hook.allRecorded 0 model.hooks, model.find.recorded, model.findOne.recorded⟩

def under (model : Model σ ρ) (hooks : List (Hook σ)) : Model σ ρ :=
  { model with hooks }

@[simp] theorem allRecorded_named (place : Nat) (slots : List Assignment) :
    Param.allRecorded place (slots.map fun slot =>
        (.ofName slot.name slot.type : Param (Compute σ))) =
      slots.map fun slot => .ofName slot.name slot.type := by
  induction slots generalizing place with
  | nil => rfl
  | cons slot rest ih =>
      rw [List.map_cons, Param.allRecorded, ih]
      rfl

@[simp] theorem queryOf_recorded (model : Model σ ρ) (operation : String) (command : Command) :
    model.recorded.queryOf operation command = (model.queryOf operation command).recorded := by
  simp only [queryOf, Query.recorded, Statement.recorded, Command.statement, allRecorded_named]
  rfl

@[simp] theorem namedParams_statement (command : Command) :
    (command.statement : Statement (Compute σ)).namedParams =
      command.slots.map Assignment.name := by
  simp only [Command.statement, Statement.namedParams]
  induction command.slots with
  | nil => rfl
  | cons slot rest ih => simpa [Param.ofName, Param.isComputed] using ih

theorem report_recorded (model : Model σ ρ) (data : Args) (s : σ) (calls : List Call) :
    model.recorded.report data (s, calls) = ((), ((model.report data s).2, calls)) := by
  have general : ∀ (names : List String) (s : σ),
      (names.forM fun name => model.recorded.database.emit
          (undeclaredEvent model.entity name)) (s, calls) =
        ((), (((names.forM fun name => model.database.emit
          (undeclaredEvent model.entity name)) s).2, calls)) := by
    intro names
    induction names with
    | nil => intro s; rfl
    | cons name rest ih =>
        intro s
        exact ih _
  exact general (Assignment.undeclared model.entity data.entries) s

theorem run_recorded (model : Model σ ρ) (operation : String) (command : Command) (s : σ) :
    ∃ result t calls,
      (model.queryOf operation command).Execution command.values s result t calls ∧
      model.recorded.run operation (.ok command) (s, []) = (result, (t, calls)) := by
  obtain ⟨result, t, calls, execution⟩ :=
    Query.exists_execution (model.queryOf operation command) command.values s
  refine ⟨result, t, calls, execution, ?_⟩
  rw [run, queryOf_recorded]
  exact execution.runs_recorded []

/-- A run that executes one statement under the hooks of a model and calls nobody else; the hooks
see the names and the connection gets the values, one of each for every marker. -/
structure Sends (model : Model σ ρ) (s : σ) (text : String) (names : List String)
    (values : List Value) (run : Except Error (List ρ) × Recorded σ) : Prop where
  aligned : values.length = names.length
  executes : ∃ query : Query σ ρ, query.connection = model.database.connection ∧
    query.hooks = model.hooks ∧ query.statement.text = text ∧ query.context.named = names ∧
    query.context.computed = 0 ∧ query.Execution values s run.1 run.2.1 run.2.2

theorem sends_run (model : Model σ ρ) (operation : String) (command : Command) (s : σ) :
    model.Sends s (String.ofList command.text) (command.slots.map Assignment.name) command.values
      (model.recorded.run operation (.ok command) (s, [])) := by
  obtain ⟨result, t, calls, execution, ran⟩ := model.run_recorded operation command s
  rw [ran]
  refine ⟨by simp [Command.values], model.queryOf operation command, rfl, rfl, rfl, ?_, ?_,
    execution⟩
  · exact namedParams_statement command
  · simp only [queryOf, Query.context, Context.ofStatement, namedParams_statement]
    simp [Command.statement]

theorem create_recorded (model : Model σ ρ) (data : Args) (s : σ) :
    model.recorded.create data (s, []) =
      model.recorded.run "create" (model.createCommand data) ((model.report data s).2, []) := by
  simp only [create, bind_apply, report_recorded]
  rfl

theorem update_recorded (model : Model σ ρ) (id : Value) (data : Args) (s : σ) :
    model.recorded.update id data (s, []) =
      model.recorded.run "update" (model.updateCommand id data)
        ((model.report data s).2, []) := by
  simp only [update, bind_apply, report_recorded]
  rfl

theorem read_of_require {text : String} {ident : Ident}
    (accepted : Ident.require text = .ok ident) : Ident.read text.toList = .ok ident := by
  unfold Ident.require at accepted
  split at accepted
  next read =>
    cases accepted
    exact read
  next => cases accepted

theorem text_of_require {text : String} {ident : Ident}
    (accepted : Ident.require text = .ok ident) : String.ofList ident.text = text := by
  rw [Ident.text_of_read (read_of_require accepted), String.ofList_toList]

theorem slots_of_readAll {entity : Entity} {entries : List (String × Value)}
    {slots : List Assignment} (accepted : Assignment.readAll entity entries = .ok slots) :
    slots.map Assignment.name = entries.map Prod.fst ∧
      slots.map Assignment.value = entries.map Prod.snd ∧
      ∀ slot ∈ slots, Ident.read slot.name.toList = .ok slot.column := by
  induction entries generalizing slots with
  | nil =>
      cases accepted
      simp
  | cons entry rest ih =>
      rw [Assignment.readAll] at accepted
      obtain ⟨first, read, accepted⟩ := Result.bind_eq_ok_iff.mp accepted
      obtain ⟨others, later, accepted⟩ := Result.bind_eq_ok_iff.mp accepted
      cases accepted
      obtain ⟨column, required, read⟩ := Result.bind_eq_ok_iff.mp read
      obtain ⟨_, _, read⟩ := Result.bind_eq_ok_iff.mp read
      cases read
      obtain ⟨names, values, reads⟩ := ih later
      refine ⟨by simp [names], by simp [values], ?_⟩
      exact List.forall_mem_cons.mpr ⟨read_of_require required, reads⟩

theorem faithful_of_reads {slots : List Assignment}
    (reads : ∀ slot ∈ slots, Ident.read slot.name.toList = .ok slot.column) :
    Written.Faithful slots :=
  fun slot member => Ident.text_of_read (reads slot member)

theorem keyOf_eq_ok {model : Model σ ρ} {id : Value} {slot : Assignment}
    (accepted : model.keyOf id = .ok slot) :
    slot = ⟨model.key, String.ofList model.key.name, model.database.settings.keyType, id⟩ := by
  simp only [keyOf] at accepted
  split at accepted
  next =>
    cases accepted
    rfl
  next => cases accepted

theorem names_of_ofEntity {database : Database σ ρ} {entity : Entity} {model : Model σ ρ}
    (made : ofEntity database entity = .ok model) :
    model.database = database ∧ String.ofList model.table.text = entity.name ∧
      String.ofList model.key.text = database.settings.key ∧
      String.ofList model.key.name = database.settings.key := by
  unfold ofEntity at made
  obtain ⟨table, tableRead, made⟩ := Result.bind_eq_ok_iff.mp made
  obtain ⟨key, keyRead, made⟩ := Result.bind_eq_ok_iff.mp made
  split at made
  next words =>
    obtain ⟨find, _, made⟩ := Result.bind_eq_ok_iff.mp made
    obtain ⟨findOne, _, made⟩ := Result.bind_eq_ok_iff.mp made
    cases made
    -- A key of word characters is one bare part, so its name is the whole text.
    have plain : ∀ c ∈ database.settings.key.toList, c ≠ '.' ∧ c ≠ '"' := by
      intro c member
      have word := List.all_eq_true.mp words c member
      constructor <;> (rintro rfl; revert word; decide)
    refine ⟨rfl, text_of_require tableRead, text_of_require keyRead, ?_⟩
    rw [Ident.name_of_read (read_of_require keyRead) plain, String.ofList_toList]
  next => cases made

theorem entity_of_ofEntity {database : Database σ ρ} {entity : Entity} {model : Model σ ρ}
    (made : ofEntity database entity = .ok model) : model.entity = entity := by
  unfold ofEntity at made
  obtain ⟨table, _, made⟩ := Result.bind_eq_ok_iff.mp made
  obtain ⟨key, _, made⟩ := Result.bind_eq_ok_iff.mp made
  split at made
  next =>
    obtain ⟨find, _, made⟩ := Result.bind_eq_ok_iff.mp made
    obtain ⟨findOne, _, made⟩ := Result.bind_eq_ok_iff.mp made
    cases made
    rfl
  next => cases made

theorem reads_of_createCommand {model : Model σ ρ} {data : Args} {command : Command}
    (accepted : model.createCommand data = .ok command) :
    ∃ slots, Assignment.readAll model.entity data.entries = .ok slots ∧
      command = .insert model.table slots := by
  obtain ⟨slots, read, accepted⟩ := Result.bind_eq_ok_iff.mp accepted
  cases accepted
  exact ⟨slots, read, rfl⟩

theorem reads_of_updateCommand {model : Model σ ρ} {id : Value} {data : Args} {command : Command}
    (accepted : model.updateCommand id data = .ok command) :
    ∃ slots key, Assignment.readAll model.entity data.entries = .ok slots ∧
      model.keyOf id = .ok key ∧ command = .update model.table key slots := by
  obtain ⟨slots, read, accepted⟩ := Result.bind_eq_ok_iff.mp accepted
  split at accepted
  next => cases accepted
  next =>
    obtain ⟨key, found, accepted⟩ := Result.bind_eq_ok_iff.mp accepted
    cases accepted
    exact ⟨slots, key, read, found, rfl⟩

theorem create_sends (model : Model σ ρ) {data : Args} {command : Command}
    (accepted : model.createCommand data = .ok command) (s : σ) :
    model.Sends (model.report data s).2
      (Written.insertText (String.ofList model.table.text) (Written.numbered 1 data.names))
      data.names data.values (model.recorded.create data (s, [])) := by
  obtain ⟨slots, read, rfl⟩ := reads_of_createCommand accepted
  obtain ⟨names, values, reads⟩ := slots_of_readAll read
  have sends := model.sends_run "create" (.insert model.table slots) (model.report data s).2
  rw [Written.insert_text (faithful_of_reads reads)] at sends
  rw [create_recorded, accepted, Args.names, Args.values, ← names, ← values]
  exact sends

theorem update_sends (model : Model σ ρ) {id : Value} {data : Args} {command : Command}
    (accepted : model.updateCommand id data = .ok command) (s : σ) :
    model.Sends (model.report data s).2
      (Written.updateText (String.ofList model.table.text) (String.ofList model.key.text)
        (Written.numbered 2 data.names))
      (String.ofList model.key.name :: data.names) (id :: data.values)
      (model.recorded.update id data (s, [])) := by
  obtain ⟨slots, key, read, found, rfl⟩ := reads_of_updateCommand accepted
  obtain ⟨names, values, reads⟩ := slots_of_readAll read
  have sends := model.sends_run "update" (.update model.table key slots) (model.report data s).2
  rw [Written.update_text (faithful_of_reads reads)] at sends
  rw [update_recorded, accepted, Args.names, Args.values, ← names, ← values]
  rw [keyOf_eq_ok found] at sends ⊢
  exact sends

theorem delete_sends (model : Model σ ρ) {id : Value} {command : Command}
    (accepted : model.deleteCommand id = .ok command) (s : σ) :
    model.Sends s
      (Written.deleteText (String.ofList model.table.text) (String.ofList model.key.text))
      [String.ofList model.key.name] [id] (model.recorded.delete id (s, [])) := by
  have same : model.recorded.delete id = model.recorded.run "delete" (model.deleteCommand id) := rfl
  rw [same, accepted]
  obtain ⟨key, found, accepted⟩ := Result.bind_eq_ok_iff.mp accepted
  cases accepted
  have sends := model.sends_run "delete" (.delete model.table key) s
  rw [Written.delete_text] at sends
  rw [keyOf_eq_ok found] at sends ⊢
  exact sends

theorem columns_of_readAll {entity : Entity} {data : Args} {slots : List Assignment}
    (read : Assignment.readAll entity data.entries = .ok slots) {column : String}
    (member : column ∈ data.names) :
    ∃ ident, Ident.read column.toList = .ok ident ∧ ident.text = column.toList := by
  obtain ⟨names, _, reads⟩ := slots_of_readAll read
  rw [Args.names, ← names] at member
  obtain ⟨slot, inSlots, rfl⟩ := List.mem_map.mp member
  exact ⟨slot.column, reads slot inSlots, faithful_of_reads reads slot inSlots⟩

/-- Under any hooks an accepted operation sends one text, made of the names of the table, the key
and the columns as they are given. Each marker is written once, and the name and the value that
are bound to it are those of the column, or the key, that stands at it. -/
theorem operations_line_up {database : Database σ ρ} {entity : Entity} {model : Model σ ρ}
    (made : ofEntity database entity = .ok model) (hooks : List (Hook σ)) (s : σ) :
    (∀ data, (∃ command, model.createCommand data = .ok command) →
      (model.under hooks).Sends (model.report data s).2
        (Written.insertText entity.name (Written.numbered 1 data.names)) data.names data.values
        ((model.under hooks).recorded.create data (s, [])) ∧
      Written.LinesUp data (Written.numbered 1 data.names) data.names data.values ∧
      (Written.numbered 1 data.names).map Prod.snd = List.range' 1 data.values.length) ∧
    (∀ id data, (∃ command, model.updateCommand id data = .ok command) →
      (model.under hooks).Sends (model.report data s).2
        (Written.updateText entity.name database.settings.key (Written.numbered 2 data.names))
        (database.settings.key :: data.names) (id :: data.values)
        ((model.under hooks).recorded.update id data (s, [])) ∧
      Written.LinesUp data (Written.numbered 2 data.names)
        (database.settings.key :: data.names) (id :: data.values) ∧
      1 :: (Written.numbered 2 data.names).map Prod.snd =
        List.range' 1 (id :: data.values).length) ∧
    (∀ id, (∃ command, model.deleteCommand id = .ok command) →
      (model.under hooks).Sends s (Written.deleteText entity.name database.settings.key)
        [database.settings.key] [id] ((model.under hooks).recorded.delete id (s, []))) ∧
    ∀ data, (∃ command, model.createCommand data = .ok command) ∨
        (∃ id command, model.updateCommand id data = .ok command) →
      ∀ column ∈ data.names,
        ∃ ident, Ident.read column.toList = .ok ident ∧ ident.text = column.toList := by
  obtain ⟨rfl, table, key, keyName⟩ := names_of_ofEntity made
  rw [← table]
  refine ⟨?_, ?_, ?_, ?_⟩
  · rintro data ⟨command, accepted⟩
    refine ⟨(model.under hooks).create_sends accepted s, Written.linesUp_columns data, ?_⟩
    rw [Written.numbers_numbered, data.length_values]
  · rintro id data ⟨command, accepted⟩
    have sends := (model.under hooks).update_sends accepted s
    rw [show (model.under hooks).key = model.key from rfl, key, keyName] at sends
    refine ⟨sends, Written.linesUp_after_key data _ id, ?_⟩
    rw [Written.numbers_numbered, List.length_cons, data.length_values, List.range'_succ]
  · rintro id ⟨command, accepted⟩
    have sends := (model.under hooks).delete_sends accepted s
    rw [show (model.under hooks).key = model.key from rfl, key, keyName] at sends
    exact sends
  · rintro data (⟨command, accepted⟩ | ⟨id, command, accepted⟩) column member
    · obtain ⟨slots, read, _⟩ := reads_of_createCommand accepted
      exact columns_of_readAll read member
    · obtain ⟨slots, _, read, _⟩ := reads_of_updateCommand accepted
      exact columns_of_readAll read member

def emptyDatabase : Database Unit Unit :=
  { connection := ⟨fun _ _ => pure ⟨.ok [], 0⟩⟩
    settings := .default
    emit := fun _ => pure () }

def usersTable : Entity := ⟨"users", .table, []⟩

def ada : Args := .ofList [("name", .text "Ada"), ("age", .text "36")]

theorem operations_line_up_users :
    ∃ model, ofEntity emptyDatabase usersTable = .ok model ∧
      (∃ command, model.createCommand ada = .ok command) ∧
      (model.under [Hook.idle]).Sends () "INSERT INTO users (age, name) VALUES ($1, $2) RETURNING *"
        ["age", "name"] [.text "36", .text "Ada"]
        ((model.under [Hook.idle]).recorded.create ada ((), [])) := by
  have accepts : ((ofEntity emptyDatabase usersTable >>= fun model =>
      model.createCommand ada).toOption).isSome = true := by decide +kernel
  cases both : ofEntity emptyDatabase usersTable >>= fun model => model.createCommand ada with
  | error e => rw [both] at accepts; cases accepts
  | ok command =>
      obtain ⟨model, made, accepted⟩ := Result.bind_eq_ok_iff.mp both
      have sends := ((operations_line_up made [Hook.idle] ()).1 ada ⟨command, accepted⟩).1
      have text : Written.insertText usersTable.name (Written.numbered 1 ada.names) =
          "INSERT INTO users (age, name) VALUES ($1, $2) RETURNING *" := by decide +kernel
      rw [text] at sends
      exact ⟨model, made, ⟨command, accepted⟩, sends⟩

end Model

end SqlTemplate
