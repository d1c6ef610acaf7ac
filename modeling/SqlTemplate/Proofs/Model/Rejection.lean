import SqlTemplate.Proofs.Model.Spelling

/-!
Operations that are stopped before anybody is called. The keys of a bag are gone through in the
order of their names, and the first that is wrong decides; only then does an update look at whether
the bag is empty, and only after that at the value of the primary key.
-/

namespace SqlTemplate

variable {σ ρ : Type}

/-- Why a value is not written under a key. The key is judged before the value. -/
inductive Entity.Rejects (entity : Entity) (key : String) (value : Value) : Error → Prop
  | key {flaw : Ident.Flaw} : Ident.read key.toList = .error flaw →
      Rejects entity key value (.ident key flaw)
  | value {ident : Ident} {column : Column} {type : ParamType} {misfit : Misfit} :
      Ident.read key.toList = .ok ident → entity.column? key = some column →
      column.type.paramType? = some type → value.isNull = false →
      type.check value = .error misfit →
      Rejects entity key value (.bind (misfit.refusal key type value))

/-- The error of the first key, in the order of the names, that something is wrong with. -/
def Entity.FirstRejected (entity : Entity) (data : Args) (e : Error) : Prop :=
  ∃ key value, data.get? key = some value ∧ entity.Rejects key value e ∧
    ∀ other, other < key → ∀ held, data.get? other = some held →
      ∀ cause, ¬entity.Rejects other held cause

namespace Assignment

variable {entity : Entity}

theorem require_eq_error_iff {key : String} {e : Error} :
    Ident.require key = .error e ↔
      ∃ flaw, Ident.read key.toList = .error flaw ∧ e = .ident key flaw := by
  cases read : Ident.read key.toList with
  | ok ident => simp [Ident.require, read]
  | error flaw => simp [Ident.require, read, eq_comm]

theorem check_eq_error_iff {key : String} {value : Value} {e : Error} :
    check key (entity.paramType key) value = .error e ↔
      ∃ column type misfit, entity.column? key = some column ∧
        column.type.paramType? = some type ∧ value.isNull = false ∧
        type.check value = .error misfit ∧ e = .bind (misfit.refusal key type value) := by
  constructor
  · intro failed
    by_cases refuses : entity.Refuses key value
    · obtain ⟨column, type, misfit, found, known, given, checked⟩ := refuses
      rw [check_of_misfit found known given checked] at failed
      cases failed
      exact ⟨column, type, misfit, found, known, given, checked, rfl⟩
    · rw [check_of_not_refuses refuses] at failed
      cases failed
  · rintro ⟨column, type, misfit, found, known, given, checked, rfl⟩
    exact check_of_misfit found known given checked

theorem read_eq_error_iff {key : String} {value : Value} {e : Error} :
    read entity (key, value) = .error e ↔ entity.Rejects key value e := by
  rw [read, Result.bind_eq_error_iff, require_eq_error_iff]
  constructor
  · rintro (⟨flaw, invalid, rfl⟩ | ⟨ident, valid, failed⟩)
    · exact .key invalid
    · rw [Result.bind_eq_error_iff, check_eq_error_iff] at failed
      rcases failed with ⟨column, type, misfit, found, known, given, checked, rfl⟩ | ⟨_, _, done⟩
      · exact .value (Model.read_of_require valid) found known given checked
      · cases done
  · intro rejects
    cases rejects with
    | key invalid => exact Or.inl ⟨_, invalid, rfl⟩
    | value identifier found known given checked =>
        refine Or.inr ⟨_, by rw [Ident.require, identifier], ?_⟩
        rw [Result.bind_eq_error_iff, check_eq_error_iff]
        exact Or.inl ⟨_, _, _, found, known, given, checked, rfl⟩

theorem accepted_iff {entries : List (String × Value)} :
    Accepted entity entries ↔
      ∀ entry ∈ entries, ∀ cause, ¬entity.Rejects entry.1 entry.2 cause := by
  constructor
  · intro accepted entry member cause rejects
    obtain ⟨slot, fine⟩ := accepted entry member
    rw [read_eq_error_iff.mpr rejects] at fine
    cases fine
  · intro fine entry member
    cases done : read entity entry with
    | ok slot => exact ⟨slot, rfl⟩
    | error cause => exact absurd (read_eq_error_iff.mp done) (fine entry member cause)

theorem readAll_eq_error_iff {entries : List (String × Value)} {e : Error} :
    readAll entity entries = .error e ↔
      ∃ earlier key value later, entries = earlier ++ (key, value) :: later ∧
        Accepted entity earlier ∧ entity.Rejects key value e := by
  constructor
  · intro failed
    induction entries with
    | nil => cases failed
    | cons first rest ih =>
        rw [readAll, Result.bind_eq_error_iff] at failed
        rcases failed with here | ⟨slot, read, failed⟩
        · exact ⟨[], first.1, first.2, rest, rfl, by simp [Accepted], read_eq_error_iff.mp here⟩
        · rw [Result.bind_eq_error_iff] at failed
          rcases failed with behind | ⟨_, _, done⟩
          · obtain ⟨earlier, key, value, later, rfl, accepted, rejects⟩ := ih behind
            exact ⟨first :: earlier, key, value, later, rfl,
              List.forall_mem_cons.mpr ⟨⟨slot, read⟩, accepted⟩, rejects⟩
          · cases done
  · rintro ⟨earlier, key, value, later, rfl, accepted, rejects⟩
    exact readAll_append_error accepted (read_eq_error_iff.mpr rejects)

theorem readAll_entries_eq_error_iff {data : Args} {e : Error} :
    readAll entity data.entries = .error e ↔ entity.FirstRejected data e := by
  rw [readAll_eq_error_iff]
  constructor
  · rintro ⟨earlier, key, value, later, entries, accepted, rejects⟩
    -- Entries stand in the order of their names, so those of lesser name are the earlier ones.
    refine ⟨key, value, ?_, rejects, ?_⟩
    · apply Keyed.find?_of_mem data.ascending
      rw [entries]
      simp
    · intro other below held found
      have member := Keyed.mem_of_find? found
      have ascending := data.ascending
      rw [entries] at member ascending
      obtain ⟨_, behind, _⟩ := List.pairwise_append.mp ascending
      rcases List.mem_append.mp member with before | after
      · exact accepted_iff.mp accepted _ before
      · rcases List.mem_cons.mp after with here | later
        · cases here
          exact absurd below (String.lt_irrefl key)
        · have above := (List.pairwise_cons.mp behind).1 _ later
          exact absurd (String.lt_trans below above) (String.lt_irrefl other)
  · rintro ⟨key, value, found, rejects, least⟩
    obtain ⟨earlier, later, entries⟩ := List.append_of_mem (Keyed.mem_of_find? found)
    refine ⟨earlier, key, value, later, entries, accepted_iff.mpr ?_, rejects⟩
    intro entry before
    have ascending := data.ascending
    rw [entries] at ascending
    have below := (List.pairwise_append.mp ascending).2.2 entry before _ List.mem_cons_self
    apply least entry.1 below entry.2
    apply Keyed.find?_of_mem data.ascending
    rw [entries]
    exact List.mem_append_left _ before

end Assignment

namespace Entity

variable {entity : Entity}

/-- Some key of a bag is no identifier, or has a value that its column does not take. -/
def Unwritable (entity : Entity) (data : Args) : Prop :=
  ∃ key value, data.get? key = some value ∧
    ((∀ ident, Ident.read key.toList ≠ .ok ident) ∨ entity.Refuses key value)

theorem exists_rejects_iff {key : String} {value : Value} :
    (∃ e, entity.Rejects key value e) ↔
      (∀ ident, Ident.read key.toList ≠ .ok ident) ∨ entity.Refuses key value := by
  constructor
  · rintro ⟨e, rejects⟩
    cases rejects with
    | key invalid =>
        refine Or.inl fun ident valid => ?_
        rw [invalid] at valid
        cases valid
    | value _ found known given checked =>
        exact Or.inr ⟨_, _, _, found, known, given, checked⟩
  · intro wrong
    cases read : Ident.read key.toList with
    | error flaw => exact ⟨_, .key read⟩
    | ok ident =>
        rcases wrong with invalid | ⟨column, type, misfit, found, known, given, checked⟩
        · exact absurd read (invalid ident)
        · exact ⟨_, .value read found known given checked⟩

theorem exists_firstRejected_iff {data : Args} :
    (∃ e, entity.FirstRejected data e) ↔ entity.Unwritable data := by
  constructor
  · rintro ⟨e, key, value, found, rejects, _⟩
    exact ⟨key, value, found, exists_rejects_iff.mp ⟨e, rejects⟩⟩
  · rintro ⟨key, value, found, wrong⟩
    obtain ⟨e, rejects⟩ := exists_rejects_iff.mpr wrong
    obtain ⟨first, failed⟩ := Assignment.exists_error_of_mem (Keyed.mem_of_find? found)
      (Assignment.read_eq_error_iff.mpr rejects)
    exact ⟨first, Assignment.readAll_entries_eq_error_iff.mp failed⟩

theorem FirstRejected.refuses {data : Args} {cause : BindError}
    (rejected : entity.FirstRejected data (.bind cause)) :
    ∃ value, data.get? cause.param = some value ∧ entity.Refuses cause.param value := by
  obtain ⟨key, value, held, rejects, _⟩ := rejected
  generalize same : Error.bind cause = e at rejects
  cases rejects with
  | key _ => cases same
  | value _ found known given checked =>
      cases same
      rw [Misfit.param_refusal]
      exact ⟨value, held, _, _, _, found, known, given, checked⟩

end Entity

theorem Query.Execution.calls_ne_nil {query : Query σ ρ} {values : List Value} {s t : σ}
    {result : Except Error (List ρ)} {calls : List Call}
    (execution : query.Execution values s result t calls) : calls ≠ [] := by
  cases execution with
  | @aborted earlier later hook t u reason chain proceeds asked =>
      cases earlier <;> simp [Hook.beforeCalls]
  | sent => simp

namespace Model

def KeyRejected (model : Model σ ρ) (id : Value) (e : Error) : Prop :=
  ∃ misfit, model.database.settings.keyType.check id = .error misfit ∧
    e = .bind (misfit.refusal (String.ofList model.key.name) model.database.settings.keyType id)

/-- What stops an update, the earlier reasons before the later. -/
inductive UpdateRejected (model : Model σ ρ) (id : Value) (data : Args) : Error → Prop
  | column {e : Error} : model.entity.FirstRejected data e → UpdateRejected model id data e
  | empty : data.isEmpty = true → UpdateRejected model id data (.emptyUpdate model.entity.name)
  | key {e : Error} : (∀ cause, ¬model.entity.FirstRejected data cause) →
      data.isEmpty = false → model.KeyRejected id e → UpdateRejected model id data e

theorem keyOf_eq_error_iff {model : Model σ ρ} {id : Value} {e : Error} :
    model.keyOf id = .error e ↔ model.KeyRejected id e := by
  rw [keyOf]
  cases checked : checkParam (String.ofList model.key.name) model.database.settings.keyType id with
  | ok =>
      rw [Statement.checkParam_eq_ok_iff] at checked
      simp [KeyRejected, checked]
  | error cause =>
      obtain ⟨misfit, failed, rfl⟩ := checkParam_eq_error_iff.mp checked
      simp [KeyRejected, failed, eq_comm]

theorem createCommand_eq_error_iff {model : Model σ ρ} {data : Args} {e : Error} :
    model.createCommand data = .error e ↔ model.entity.FirstRejected data e := by
  rw [createCommand, Result.bind_eq_error_iff, Assignment.readAll_entries_eq_error_iff]
  simp

theorem deleteCommand_eq_error_iff {model : Model σ ρ} {id : Value} {e : Error} :
    model.deleteCommand id = .error e ↔ model.KeyRejected id e := by
  rw [deleteCommand, Result.bind_eq_error_iff, keyOf_eq_error_iff]
  simp

theorem isEmpty_of_readAll {entity : Entity} {data : Args} {slots : List Assignment}
    (read : Assignment.readAll entity data.entries = .ok slots) :
    slots.isEmpty = data.isEmpty := by
  have names := congrArg List.isEmpty (slots_of_readAll read).1
  simpa [Args.isEmpty] using names

theorem updateCommand_eq_error_iff {model : Model σ ρ} {id : Value} {data : Args} {e : Error} :
    model.updateCommand id data = .error e ↔ model.UpdateRejected id data e := by
  rw [updateCommand, Result.bind_eq_error_iff, Assignment.readAll_entries_eq_error_iff]
  constructor
  · rintro (rejected | ⟨slots, read, failed⟩)
    · exact .column rejected
    · rw [isEmpty_of_readAll read] at failed
      split at failed
      next empty =>
        cases failed
        exact .empty empty
      next filled =>
        have accepted : ∀ cause, ¬model.entity.FirstRejected data cause := by
          intro cause rejected
          rw [Assignment.readAll_entries_eq_error_iff.mpr rejected] at read
          cases read
        rw [Result.bind_eq_error_iff, keyOf_eq_error_iff] at failed
        rcases failed with rejected | ⟨_, _, done⟩
        · exact .key accepted (by simpa using filled) rejected
        · cases done
  · intro rejected
    cases rejected with
    | column rejected => exact Or.inl rejected
    | empty empty =>
        refine Or.inr ⟨[], ?_, rfl⟩
        rw [List.isEmpty_iff.mp empty]
        rfl
    | key accepted filled rejected =>
        cases read : Assignment.readAll model.entity data.entries with
        | error first =>
            exact absurd (Assignment.readAll_entries_eq_error_iff.mp read) (accepted first)
        | ok slots =>
            refine Or.inr ⟨slots, rfl, ?_⟩
            rw [isEmpty_of_readAll read, filled, keyOf_eq_error_iff.mpr rejected]
            rfl

/-- An operation that is stopped before anybody is called, with just these errors. It then gives the
error and leaves the state `before`. -/
structure Stops (operation : StateM σ (Except Error (List ρ)))
    (recorded : StateM (Recorded σ) (Except Error (List ρ))) (s before : σ)
    (rejected : Error → Prop) : Prop where
  exactly : ∀ e, (recorded (s, [])).1 = .error e ∧ (recorded (s, [])).2.2 = [] ↔ rejected e
  gives : ∀ e, rejected e →
    recorded (s, []) = (.error e, (before, [])) ∧ operation s = (.error e, before)

theorem stops_of_run {model : Model σ ρ} {name : String} {command : Except Error Command}
    {operation : StateM σ (Except Error (List ρ))}
    {recorded : StateM (Recorded σ) (Except Error (List ρ))} {s before : σ}
    {rejected : Error → Prop} (runs : operation s = model.run name command before)
    (noted : recorded (s, []) = model.recorded.run name command (before, []))
    (wrong : ∀ e, command = .error e ↔ rejected e) :
    Stops operation recorded s before rejected := by
  constructor
  · intro e
    rw [noted, ← wrong]
    cases command with
    | error cause => simp [run]
    | ok command =>
        obtain ⟨result, t, calls, execution, ran⟩ := model.run_recorded name command before
        have called := execution.calls_ne_nil
        simp [ran, called]
  · intro e stopped
    rw [runs, noted, (wrong e).mpr stopped]
    exact ⟨rfl, rfl⟩

theorem exists_updateRejected_iff {model : Model σ ρ} {id : Value} {data : Args} :
    (∃ e, model.UpdateRejected id data e) ↔
      model.entity.Unwritable data ∨ data.isEmpty = true ∨ ∃ e, model.KeyRejected id e := by
  constructor
  · rintro ⟨e, rejected⟩
    cases rejected with
    | column rejected => exact Or.inl (Entity.exists_firstRejected_iff.mp ⟨e, rejected⟩)
    | empty empty => exact Or.inr (Or.inl empty)
    | key _ _ rejected => exact Or.inr (Or.inr ⟨e, rejected⟩)
  · intro wrong
    by_cases unwritable : model.entity.Unwritable data
    · obtain ⟨e, rejected⟩ := Entity.exists_firstRejected_iff.mpr unwritable
      exact ⟨e, .column rejected⟩
    · have accepted : ∀ cause, ¬model.entity.FirstRejected data cause := fun cause rejected =>
        unwritable (Entity.exists_firstRejected_iff.mp ⟨cause, rejected⟩)
      cases empty : data.isEmpty with
      | true => exact ⟨_, .empty empty⟩
      | false =>
          rw [empty] at wrong
          rcases wrong with unwritten | none | ⟨e, rejected⟩
          · exact absurd unwritten unwritable
          · cases none
          · exact ⟨e, .key accepted empty rejected⟩

theorem exists_keyRejected_iff {model : Model σ ρ} {id : Value} :
    (∃ e, model.KeyRejected id e) ↔
      ∃ misfit, model.database.settings.keyType.check id = .error misfit := by
  constructor
  · rintro ⟨_, misfit, failed, _⟩
    exact ⟨misfit, failed⟩
  · rintro ⟨misfit, failed⟩
    exact ⟨_, misfit, failed, rfl⟩

/-- An operation is stopped before anybody is called exactly if a key of the bag is no identifier,
or a value that is not null does not fit the column that its key is the name of, or an update has
nothing to write, or the primary key does not fit its type. Which of these it is told follows the
order of the names in the bag, and within a key the identifier comes before the value. -/
theorem stopped_exactly (model : Model σ ρ) (data : Args) (id : Value) (s : σ) :
    Stops (model.create data) (model.recorded.create data) s (model.report data s).2
      (model.entity.FirstRejected data) ∧
    Stops (model.update id data) (model.recorded.update id data) s (model.report data s).2
      (model.UpdateRejected id data) ∧
    Stops (model.delete id) (model.recorded.delete id) s s (model.KeyRejected id) ∧
    ((∃ e, model.entity.FirstRejected data e) ↔ model.entity.Unwritable data) ∧
    ((∃ e, model.UpdateRejected id data e) ↔
      model.entity.Unwritable data ∨ data.isEmpty = true ∨
        ∃ misfit, model.database.settings.keyType.check id = .error misfit) ∧
    ((∃ e, model.KeyRejected id e) ↔
      ∃ misfit, model.database.settings.keyType.check id = .error misfit) ∧
    ∀ cause, model.entity.FirstRejected data (.bind cause) →
      ∃ value, data.get? cause.param = some value ∧ model.entity.Refuses cause.param value := by
  refine ⟨?_, ?_, ?_, Entity.exists_firstRejected_iff, ?_, exists_keyRejected_iff,
    fun cause rejected => rejected.refuses⟩
  · exact stops_of_run rfl (model.create_recorded data s) fun e => createCommand_eq_error_iff
  · exact stops_of_run rfl (model.update_recorded id data s) fun e => updateCommand_eq_error_iff
  · exact stops_of_run rfl rfl fun e => deleteCommand_eq_error_iff
  · rw [exists_updateRejected_iff, exists_keyRejected_iff]

end Model

end SqlTemplate
