import SqlTemplate.Loading
import SqlTemplate.Proofs.Model.ReadyQueries
import SqlTemplate.Proofs.Model.Rejection

/-!
Ids of rows. The query that finds one row reads the name and the type of the key off its own text,
and the commands that update and delete have them from the settings. The two ways take the same ids,
refuse all others with the same error, and bind an id where the key is compared.
-/

namespace SqlTemplate

variable {σ ρ : Type}

def Schema.NamesEntity (text : String) : Prop :=
  ∃ entity, Schema.entityOf text "" = .ok entity

theorem Schema.entityOf_of_named {text : String} (named : NamesEntity text) (fallback : String) :
    entityOf text fallback = entityOf text "" := by
  obtain ⟨entity, read⟩ := named
  unfold entityOf at read ⊢
  split at read
  next => cases read
  next head found =>
    by_cases unnamed : head.name.isEmpty
    · simp [unnamed] at read
    · simp only [unnamed, Bool.false_eq_true, if_false]

theorem Schema.NamesEntity.not_holdsPlaceholder {text fallback : String} {entity : Entity}
    (named : NamesEntity text) (read : entityOf text fallback = .ok entity) :
    ¬entity.HoldsPlaceholder := by
  rw [entityOf_of_named named] at read
  apply Entity.not_holdsPlaceholder_of_nameChars
  rcases name_of_entityOf read with empty | named
  · simp [empty]
  · exact named

def Written.findOneText (table key : String) : String :=
  "SELECT * FROM " ++ table ++ " WHERE " ++ key ++ " = " ++ marker 1 ++ " LIMIT 1"

theorem Statement.bind_one {text name : String} {type : ParamType} {args : Args} {value : Value}
    (held : args.get? name = some value) (s : σ) :
    (⟨text, [.ofName name type]⟩ : Statement (Compute σ)).bind (some args) s =
      ((checkParam name type value).map fun _ => [value], s) := by
  have looked : lookUp args name = .ok value := by rw [lookUp, held]
  have checks : checkAll args [(.ofName name type : Param (Compute σ))] =
      checkParam name type value := by
    simp only [checkAll, checkOne, Param.ofName, looked]
    change (checkParam name type value >>= fun _ => .ok ()) = checkParam name type value
    cases checkParam name type value <;> rfl
  have supplies : supplyAll args [(.ofName name type : Param (Compute σ))] s =
      (.ok [value], s) := by
    simp [supplyAll, supply, Param.ofName, looked]
  simp only [Statement.bind, Option.getD_some, checks]
  cases checkParam name type value with
  | ok => exact supplies
  | error e => rfl

namespace Model

variable {database : Database σ ρ} {entity : Entity} {model : Model σ ρ}

theorem findOne_of_ofEntity (made : ofEntity database entity = .ok model) :
    model.findOne = database.bind model.findOne.statement
        (some (operationName entity "find_one")) ∧
      model.hooks = database.settings.hooks database.emit := by
  unfold ofEntity at made
  obtain ⟨table, _, made⟩ := Result.bind_eq_ok_iff.mp made
  obtain ⟨key, _, made⟩ := Result.bind_eq_ok_iff.mp made
  split at made
  next =>
    obtain ⟨find, _, made⟩ := Result.bind_eq_ok_iff.mp made
    obtain ⟨findOne, queried, made⟩ := Result.bind_eq_ok_iff.mp made
    cases made
    unfold Database.query at queried
    cases parsed : (Statement.parse (findOneText table key database.settings) :
        Except TemplateError (Statement (Compute σ))) with
    | error e =>
        rw [parsed] at queried
        cases queried
    | ok statement =>
        rw [parsed] at queried
        cases queried
        exact ⟨rfl, rfl⟩
  next => cases made

theorem entityOf_of_modelOfSchema {text fallback : String}
    (made : database.modelOfSchema text fallback = .ok model) :
    ∃ entity, Schema.entityOf text fallback = .ok entity ∧
      ofEntity database entity = .ok model := by
  unfold Database.modelOfSchema at made
  split at made
  next entity read => exact ⟨entity, read, made⟩
  next => cases made

/-- What finding, updating and deleting one row share: a table and a key that are written as they
are named, and a query that compares the key with its only marker. -/
structure FindsByKey (database : Database σ ρ) (model : Model σ ρ) : Prop where
  made : model.database = database
  table : String.ofList model.table.text = model.entity.name
  key : String.ofList model.key.text = database.settings.key
  keyName : String.ofList model.key.name = database.settings.key
  statement : model.findOne.statement =
    ⟨Written.findOneText model.entity.name database.settings.key,
      [.ofName database.settings.key database.settings.keyType]⟩
  connection : model.findOne.connection = database.connection
  hooks : model.findOne.hooks = model.hooks

theorem findsByKey_of_named {text fallback : String}
    (made : database.modelOfSchema text fallback = .ok model)
    (named : Schema.NamesEntity text) : FindsByKey database model := by
  obtain ⟨entity, read, made⟩ := entityOf_of_modelOfSchema made
  obtain ⟨same, table, key, keyName⟩ := names_of_ofEntity made
  obtain ⟨findOne, hooks⟩ := findOne_of_ofEntity made
  have statement := (made_of_ofEntity made).findOne_iff.mpr (named.not_holdsPlaceholder read)
  have condition : " = $1 LIMIT 1" = " = " ++ Written.marker 1 ++ " LIMIT 1" := by decide +kernel
  rw [condition, ← String.append_assoc, ← String.append_assoc] at statement
  rw [← entity_of_ofEntity made] at table statement
  refine ⟨same, table, key, keyName, statement, ?_, ?_⟩
  · rw [findOne]
    rfl
  · rw [findOne, hooks]
    rfl

namespace FindsByKey

theorem bind_statement (finds : FindsByKey database model) {args : Args} {id : Value}
    (held : args.get? database.settings.key = some id) (s : σ) :
    model.findOne.statement.bind (some args) s =
      ((checkParam database.settings.key database.settings.keyType id).map fun _ => [id], s) := by
  rw [finds.statement, Statement.bind_one held]

theorem keyOf_eq (finds : FindsByKey database model) (id : Value) :
    model.keyOf id =
      match checkParam database.settings.key database.settings.keyType id with
      | .ok () => .ok ⟨model.key, database.settings.key, database.settings.keyType, id⟩
      | .error e => .error (.bind e) := by
  cases checked : checkParam database.settings.key database.settings.keyType id <;>
    simp [keyOf, finds.keyName, finds.made, checked]

theorem bind_findOne (finds : FindsByKey database model) {args : Args} {id : Value}
    (held : args.get? database.settings.key = some id) (s : σ) :
    model.findOne.bind (some args) s = ((model.keyOf id).map fun slot => [slot.value], s) := by
  have bound := finds.bind_statement held s
  rw [finds.keyOf_eq]
  cases checked : checkParam database.settings.key database.settings.keyType id with
  | ok =>
      rw [checked] at bound
      simp [Query.bind, bound, Except.map]
  | error e =>
      rw [checked] at bound
      simp [Query.bind, bound, Except.map]

theorem invocation_findOne (finds : FindsByKey database model) {args : Args} {id : Value}
    (held : args.get? database.settings.key = some id) (s : σ) :
    (∃ cause, model.keyOf id = .error (.bind cause) ∧
      model.findOne.Invocation (some args) s (.error (.bind cause)) s []) ∨
    ∃ slot result t calls, model.keyOf id = .ok slot ∧
      model.findOne.Execution [id] s result t calls ∧
      model.findOne.Invocation (some args) s result t calls := by
  have bound := finds.bind_statement held s
  rw [finds.keyOf_eq]
  cases checked : checkParam database.settings.key database.settings.keyType id with
  | error cause =>
      rw [checked] at bound
      exact Or.inl ⟨cause, rfl, .unbound bound⟩
  | ok =>
      rw [checked] at bound
      obtain ⟨result, t, calls, execution⟩ := Query.exists_execution model.findOne [id] s
      have invocation := Query.Invocation.bound bound
        (Statement.supplies_of_bind bound).2.length_eq execution
      rw [finds.statement] at invocation
      exact Or.inr ⟨_, result, t, calls, rfl, execution, invocation⟩

theorem stops_findOne (finds : FindsByKey database model) {args : Args} {id : Value}
    (held : args.get? database.settings.key = some id) (s : σ) :
    Stops (model.findOne.invoke (some args)) (model.findOne.recorded.invoke (some args)) s s
      (model.KeyRejected id) := by
  rcases finds.invocation_findOne held s with
    ⟨cause, refused, invocation⟩ | ⟨slot, result, t, calls, taken, execution, invocation⟩
  · constructor
    · intro e
      rw [invocation.runs_recorded, ← keyOf_eq_error_iff, refused]
      simp
    · intro e rejected
      rw [← keyOf_eq_error_iff, refused] at rejected
      cases rejected
      exact ⟨invocation.runs_recorded, invocation.runs⟩
  · have never : ∀ e, ¬model.KeyRejected id e := by
      intro e rejected
      rw [← keyOf_eq_error_iff, taken] at rejected
      cases rejected
    constructor
    · intro e
      rw [invocation.runs_recorded]
      simp [execution.calls_ne_nil, never]
    · intro e rejected
      exact absurd rejected (never e)

theorem sends_findOne (finds : FindsByKey database model) {args : Args} {id : Value}
    {slot : Assignment} (held : args.get? database.settings.key = some id)
    (taken : model.keyOf id = .ok slot) (s : σ) :
    model.Sends s (Written.findOneText model.entity.name database.settings.key)
      [database.settings.key] [id] (model.findOne.recorded.invoke (some args) (s, [])) := by
  rcases finds.invocation_findOne held s with
    ⟨cause, refused, _⟩ | ⟨_, result, t, calls, _, execution, invocation⟩
  · rw [taken] at refused
    cases refused
  · rw [invocation.runs_recorded]
    refine ⟨rfl, model.findOne, ?_, finds.hooks, ?_, ?_, ?_, execution⟩
    · rw [finds.connection, finds.made]
    · rw [finds.statement]
    · rw [Query.context, finds.statement]
      rfl
    · rw [Query.context, finds.statement]
      rfl

end FindsByKey

theorem exists_deleteCommand_iff {id : Value} :
    (∃ command, model.deleteCommand id = .ok command) ↔ ∃ slot, model.keyOf id = .ok slot := by
  constructor
  · rintro ⟨command, accepted⟩
    obtain ⟨slot, taken, _⟩ := Result.bind_eq_ok_iff.mp accepted
    exact ⟨slot, taken⟩
  · rintro ⟨slot, taken⟩
    exact ⟨_, Result.bind_eq_ok_iff.mpr ⟨slot, taken, rfl⟩⟩

theorem updateRejected_iff {id : Value} {data : Args} {e : Error}
    (writable : ¬model.entity.Unwritable data) (filled : data.isEmpty = false) :
    model.UpdateRejected id data e ↔ model.KeyRejected id e := by
  have accepted : ∀ cause, ¬model.entity.FirstRejected data cause := fun cause rejected =>
    writable (Entity.exists_firstRejected_iff.mp ⟨cause, rejected⟩)
  constructor
  · intro rejected
    cases rejected with
    | column rejected => exact absurd rejected (accepted e)
    | empty empty =>
        rw [filled] at empty
        cases empty
    | key _ _ rejected => exact rejected
  · exact UpdateRejected.key accepted filled

theorem exists_updateCommand_iff {id : Value} {data : Args}
    (writable : ¬model.entity.Unwritable data) (filled : data.isEmpty = false) :
    (∃ command, model.updateCommand id data = .ok command) ↔
      ∃ slot, model.keyOf id = .ok slot := by
  constructor
  · rintro ⟨command, accepted⟩
    obtain ⟨_, slot, _, taken, _⟩ := reads_of_updateCommand accepted
    exact ⟨slot, taken⟩
  · rintro ⟨slot, taken⟩
    cases accepted : model.updateCommand id data with
    | ok command => exact ⟨command, rfl⟩
    | error e =>
        rw [updateCommand_eq_error_iff, updateRejected_iff writable filled, ← keyOf_eq_error_iff,
          taken] at accepted
        cases accepted

/-- The query that finds a row and the commands that update and delete one take the same ids. An id
that is refused stops each of them with the same error before anybody is called, and one that is
taken is bound, as it is, to the marker that the key is compared with. -/
theorem ids_taken_alike {text fallback : String}
    (made : database.modelOfSchema text fallback = .ok model) (named : Schema.NamesEntity text)
    {args data : Args} {id : Value} (held : args.get? database.settings.key = some id)
    (writable : ¬model.entity.Unwritable data) (filled : data.isEmpty = false) (s : σ) :
    ((∃ values, (model.findOne.bind (some args) s).1 = .ok values) ↔
      ∃ command, model.deleteCommand id = .ok command) ∧
    ((∃ command, model.deleteCommand id = .ok command) ↔
      ∃ command, model.updateCommand id data = .ok command) ∧
    (Stops (model.findOne.invoke (some args)) (model.findOne.recorded.invoke (some args)) s s
        (model.KeyRejected id) ∧
      Stops (model.delete id) (model.recorded.delete id) s s (model.KeyRejected id) ∧
      Stops (model.update id data) (model.recorded.update id data) s (model.report data s).2
        (model.KeyRejected id)) ∧
    ((∃ command, model.deleteCommand id = .ok command) →
      model.Sends s (Written.findOneText model.entity.name database.settings.key)
        [database.settings.key] [id] (model.findOne.recorded.invoke (some args) (s, [])) ∧
      model.Sends s (Written.deleteText model.entity.name database.settings.key)
        [database.settings.key] [id] (model.recorded.delete id (s, [])) ∧
      model.Sends (model.report data s).2
        (Written.updateText model.entity.name database.settings.key
          (Written.numbered 2 data.names))
        (database.settings.key :: data.names) (id :: data.values)
        (model.recorded.update id data (s, []))) := by
  have finds := findsByKey_of_named made named
  refine ⟨?_, ?_, ⟨finds.stops_findOne held s, ?_, ?_⟩, ?_⟩
  · rw [exists_deleteCommand_iff, finds.bind_findOne held s]
    cases model.keyOf id <;> simp [Except.map]
  · rw [exists_deleteCommand_iff, exists_updateCommand_iff writable filled]
  · exact stops_of_run rfl rfl fun e => deleteCommand_eq_error_iff
  · exact stops_of_run rfl (model.update_recorded id data s) fun e => by
      rw [updateCommand_eq_error_iff, updateRejected_iff writable filled]
  · rintro ⟨command, accepted⟩
    obtain ⟨slot, taken⟩ := exists_deleteCommand_iff.mp ⟨command, accepted⟩
    obtain ⟨update, updates⟩ := (exists_updateCommand_iff writable filled).mpr ⟨slot, taken⟩
    have deleted := model.delete_sends accepted s
    have updated := model.update_sends updates s
    rw [finds.table, finds.key, finds.keyName] at deleted updated
    exact ⟨finds.sends_findOne held taken s, deleted, updated⟩

def peopleTable : Entity := ⟨"people", .table, [⟨"name", "text", .text⟩]⟩

theorem ids_taken_alike_people :
    ∃ model, emptyDatabase.modelOfSchema "CREATE TABLE people (name text)" "other" = .ok model ∧
      Schema.NamesEntity "CREATE TABLE people (name text)" ∧ ¬model.entity.Unwritable ada ∧
      model.Sends () "SELECT * FROM people WHERE id = $1 LIMIT 1" ["id"] [.int 7]
        (model.findOne.recorded.invoke (some (.ofList [("id", .int 7)])) ((), [])) ∧
      model.findOne.invoke (some (.ofList [("id", .text "7")])) () =
        (.error (.bind (.mismatch "id" .integer (.text "7"))), ()) := by
  have reads : Schema.entityOf "CREATE TABLE people (name text)" "" = .ok peopleTable :=
    Result.eq_ok_of_toOption (by decide +kernel)
  have named : Schema.NamesEntity "CREATE TABLE people (name text)" := ⟨_, reads⟩
  have accepts : (emptyDatabase.modelOfSchema "CREATE TABLE people (name text)"
      "other").toOption.isSome = true := by decide +kernel
  cases made : emptyDatabase.modelOfSchema "CREATE TABLE people (name text)" "other" with
  | error e => rw [made] at accepts; cases accepts
  | ok model =>
      obtain ⟨entity, read, ofEntity⟩ := entityOf_of_modelOfSchema made
      rw [Schema.entityOf_of_named named, reads] at read
      cases read
      have same := entity_of_ofEntity ofEntity
      have finds := findsByKey_of_named made named
      have written : (Assignment.readAll peopleTable ada.entries).toOption.isSome = true := by
        decide +kernel
      have writable : ¬model.entity.Unwritable ada := by
        rw [same, ← Entity.exists_firstRejected_iff]
        rintro ⟨e, rejected⟩
        rw [Assignment.readAll_entries_eq_error_iff.mpr rejected] at written
        cases written
      have number : (Args.ofList [("id", .int 7)]).get? "id" = some (.int 7) := rfl
      have text : (Args.ofList [("id", .text "7")]).get? "id" = some (.text "7") := rfl
      have taken : ∃ command, model.deleteCommand (.int 7) = .ok command :=
        exists_deleteCommand_iff.mpr ⟨_, finds.keyOf_eq (.int 7)⟩
      have refused : model.keyOf (.text "7") =
          .error (.bind (.mismatch "id" .integer (.text "7"))) := finds.keyOf_eq (.text "7")
      have sends := ((ids_taken_alike made named number writable rfl ()).2.2.2 taken).1
      have stops := (ids_taken_alike made named text writable rfl ()).2.2.1.1
      rw [same] at sends
      exact ⟨model, rfl, named, writable, sends,
        (stops.gives _ (keyOf_eq_error_iff.mp refused)).2⟩

end Model

end SqlTemplate
