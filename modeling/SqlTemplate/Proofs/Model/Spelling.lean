import SqlTemplate.Proofs.Model.Operations

/-!
Which values of a bag are checked before they are written. The type of a column is looked up under
the key as it is spelled. A bare key is spelled as the name of its column, so its value is always
checked. A key in quotes is not, so its value is checked only if a column happens to be called by
the quoted text itself.
-/

namespace SqlTemplate

variable {σ ρ : Type}

def Entity.Refuses (entity : Entity) (name : String) (value : Value) : Prop :=
  ∃ column type misfit, entity.column? name = some column ∧
    column.type.paramType? = some type ∧ value.isNull = false ∧
    type.check value = .error misfit

theorem Entity.Refuses.hasColumn {entity : Entity} {name : String} {value : Value}
    (refuses : entity.Refuses name value) : entity.hasColumn name = true := by
  obtain ⟨column, _, _, found, _⟩ := refuses
  rw [Entity.hasColumn, found]
  rfl

def Misfit.refusal (name : String) (type : ParamType) (value : Value) : Misfit → BindError
  | kind => .mismatch name type value
  | malformed cause => .malformedJson name cause

theorem checkParam_eq_error_iff {name : String} {type : ParamType} {value : Value}
    {e : BindError} : checkParam name type value = .error e ↔
      ∃ misfit, type.check value = .error misfit ∧ e = misfit.refusal name type value := by
  cases checked : type.check value with
  | ok => simp [checkParam, checked]
  | error misfit =>
      cases misfit with
      | kind => simp [checkParam, checked, Misfit.refusal, eq_comm]
      | malformed cause => simp [checkParam, checked, Misfit.refusal, eq_comm]

@[simp] theorem Misfit.param_refusal (name : String) (type : ParamType) (value : Value)
    (misfit : Misfit) : (misfit.refusal name type value).param = name := by
  cases misfit <;> rfl

namespace Assignment

variable {entity : Entity}

theorem check_of_misfit {key : String} {value : Value} {column : Column} {type : ParamType}
    {misfit : Misfit} (found : entity.column? key = some column)
    (known : column.type.paramType? = some type) (given : value.isNull = false)
    (failed : type.check value = .error misfit) :
    check key (entity.paramType key) value = .error (.bind (misfit.refusal key type value)) := by
  have looked : entity.paramType key = type := by
    simp [Entity.paramType, found, known]
  have refused : checkParam key type value = .error (misfit.refusal key type value) :=
    checkParam_eq_error_iff.mpr ⟨misfit, failed, rfl⟩
  rw [check, given, looked, refused]
  rfl

theorem check_of_refuses {name : String} {value : Value} (refuses : entity.Refuses name value) :
    ∃ e : Error, check name (entity.paramType name) value = .error e ∧ e.isTypeMismatch ∧
      e.param? = some name := by
  obtain ⟨column, type, misfit, found, known, given, failed⟩ := refuses
  have about := misfit.param_refusal name type value
  refine ⟨_, check_of_misfit found known given failed, ?_, congrArg some about⟩
  cases misfit <;> rfl

theorem check_of_not_refuses {name : String} {value : Value}
    (fine : ¬entity.Refuses name value) : check name (entity.paramType name) value = .ok () := by
  rw [check]
  split
  next => rfl
  next given =>
    have passes : (entity.paramType name).check value = .ok () := by
      unfold Entity.paramType
      cases known : (entity.column? name).bind fun column => column.type.paramType? with
      | none => rfl
      | some type =>
          obtain ⟨column, found, declared⟩ := Option.bind_eq_some_iff.mp known
          cases checked : type.check value with
          | ok => exact checked
          | error misfit =>
              have notNull : value.isNull = false := by simpa using given
              exact absurd ⟨column, type, misfit, found, declared, notNull, checked⟩ fine
    rw [Statement.checkParam_eq_ok_iff.mpr passes]

theorem read_of_refuses {key : String} {value : Value} {ident : Ident}
    (identifier : Ident.read key.toList = .ok ident) (refuses : entity.Refuses key value) :
    ∃ e, read entity (key, value) = .error e ∧ e.isTypeMismatch ∧ e.param? = some key := by
  obtain ⟨e, refused, mismatch, about⟩ := check_of_refuses refuses
  refine ⟨e, ?_, mismatch, about⟩
  simp only [read, Ident.require, identifier, refused]
  rfl

theorem read_of_not_refuses {key : String} {value : Value} {ident : Ident}
    (identifier : Ident.read key.toList = .ok ident) (fine : ¬entity.Refuses key value) :
    read entity (key, value) = .ok ⟨ident, key, entity.paramType key, value⟩ := by
  simp only [read, Ident.require, identifier, check_of_not_refuses fine]
  rfl

theorem param?_of_read {entry : String × Value} {e : Error} {name : String}
    (failed : read entity entry = .error e) (about : e.param? = some name) : name = entry.1 := by
  rw [read, Result.bind_eq_error_iff] at failed
  rcases failed with invalid | ⟨column, _, failed⟩
  · unfold Ident.require at invalid
    split at invalid
    next => cases invalid
    next =>
      cases invalid
      cases about
  · rw [Result.bind_eq_error_iff] at failed
    rcases failed with refused | ⟨_, _, done⟩
    · unfold check at refused
      split at refused
      next => cases refused
      next =>
        split at refused
        next => cases refused
        next cause misfit =>
          cases refused
          unfold checkParam at misfit
          split at misfit
          next => cases misfit
          next =>
            cases misfit
            exact (Option.some.inj about).symm
          next =>
            cases misfit
            exact (Option.some.inj about).symm
    · cases done

def Accepted (entity : Entity) (entries : List (String × Value)) : Prop :=
  ∀ entry ∈ entries, ∃ slot, read entity entry = .ok slot

theorem readAll_append_error {earlier later : List (String × Value)} {entry : String × Value}
    {e : Error} (accepted : Accepted entity earlier) (failed : read entity entry = .error e) :
    readAll entity (earlier ++ entry :: later) = .error e := by
  induction earlier with
  | nil => rw [List.nil_append, readAll, failed]; rfl
  | cons first rest ih =>
      obtain ⟨⟨slot, here⟩, others⟩ := List.forall_mem_cons.mp accepted
      rw [List.cons_append, readAll, here, ih others]
      rfl

theorem exists_error_of_mem {entries : List (String × Value)} {entry : String × Value} {e : Error}
    (member : entry ∈ entries) (failed : read entity entry = .error e) :
    ∃ e', readAll entity entries = .error e' := by
  induction entries with
  | nil => cases member
  | cons first rest ih =>
      rw [readAll]
      simp only [Result.bind_eq_error_iff]
      cases here : read entity first with
      | error e' => exact ⟨e', Or.inl rfl⟩
      | ok slot =>
          rcases List.mem_cons.mp member with same | later
          · rw [← same, failed] at here
            cases here
          · obtain ⟨e', refused⟩ := ih later
            exact ⟨e', Or.inr ⟨slot, rfl, Or.inl refused⟩⟩

theorem exists_of_readAll_error {entries : List (String × Value)} {e : Error}
    (failed : readAll entity entries = .error e) :
    ∃ entry ∈ entries, read entity entry = .error e := by
  induction entries with
  | nil => cases failed
  | cons first rest ih =>
      rw [readAll, Result.bind_eq_error_iff] at failed
      rcases failed with here | ⟨slot, _, failed⟩
      · exact ⟨first, List.mem_cons_self, here⟩
      · rw [Result.bind_eq_error_iff] at failed
        rcases failed with later | ⟨_, _, done⟩
        · obtain ⟨entry, member, refused⟩ := ih later
          exact ⟨entry, List.mem_cons_of_mem _ member, refused⟩
        · cases done

theorem not_hasColumn_of_undeclared {entries : List (String × Value)} {name : String}
    (reported : name ∈ undeclared entity entries) : entity.hasColumn name = false := by
  induction entries with
  | nil => cases reported
  | cons entry rest ih =>
      simp only [undeclared] at reported
      split at reported
      next => cases reported
      next =>
        split at reported
        next => exact ih reported
        next absent =>
          rcases List.mem_cons.mp reported with rfl | later
          · simpa using absent
          · exact ih later

theorem undeclared_of_accepted {earlier later : List (String × Value)} {entry : String × Value}
    (accepted : Accepted entity (earlier ++ [entry])) (absent : entity.hasColumn entry.1 = false) :
    entry.1 ∈ undeclared entity (earlier ++ entry :: later) := by
  induction earlier with
  | nil =>
      obtain ⟨slot, here⟩ := accepted entry (by simp)
      simp [undeclared, here, absent]
  | cons first rest ih =>
      rw [List.cons_append] at accepted
      obtain ⟨⟨slot, here⟩, others⟩ := List.forall_mem_cons.mp accepted
      simp only [List.cons_append, undeclared, here]
      split
      · exact ih others
      · exact List.mem_cons_of_mem _ (ih others)

end Assignment

theorem Ident.text_eq_name_of_bare {text name : List Char}
    (identifier : Ident.read text = .ok ⟨[.bare name]⟩) : text = name :=
  (Ident.text_of_read identifier).symm

namespace Model

def warnings (model : Model σ ρ) (data : Args) : List LogEvent :=
  (Assignment.undeclared model.entity data.entries).map (undeclaredEvent model.entity)

theorem report_eq (model : Model σ ρ) (data : Args) :
    model.report data = (model.warnings data).forM model.database.emit := by
  have general : ∀ names : List String,
      (names.forM fun name => model.database.emit (undeclaredEvent model.entity name)) =
        (names.map (undeclaredEvent model.entity)).forM model.database.emit := by
    intro names
    induction names with
    | nil => rfl
    | cons name rest ih =>
        change (do
          model.database.emit (undeclaredEvent model.entity name)
          rest.forM fun name => model.database.emit (undeclaredEvent model.entity name)) = _
        rw [ih]
        rfl
  exact general _

theorem mem_warnings_iff {model : Model σ ρ} {data : Args} {name : String} :
    undeclaredEvent model.entity name ∈ model.warnings data ↔
      name ∈ Assignment.undeclared model.entity data.entries := by
  rw [warnings, List.mem_map]
  constructor
  · rintro ⟨other, member, same⟩
    have names : other = name := by simpa [undeclaredEvent] using same
    exact names ▸ member
  · intro member
    exact ⟨name, member, rfl⟩

/-- Neither a row is created nor one updated with a bag: all that happens is that the warnings are
emitted, nobody is called, and the error is returned. -/
structure WritesNothing (model : Model σ ρ) (data : Args) (e : Error) : Prop where
  noInsert : model.createCommand data = .error e
  noUpdate : ∀ id, model.updateCommand id data = .error e
  created : ∀ s, model.recorded.create data (s, []) =
    (.error e, (((model.warnings data).forM model.database.emit s).2, []))
  updated : ∀ id s, model.recorded.update id data (s, []) =
    (.error e, (((model.warnings data).forM model.database.emit s).2, []))

theorem writesNothing_iff {model : Model σ ρ} {data : Args} {e : Error} :
    model.WritesNothing data e ↔ Assignment.readAll model.entity data.entries = .error e := by
  constructor
  · intro nothing
    have failed := nothing.noInsert
    rw [createCommand, Result.bind_eq_error_iff] at failed
    rcases failed with refused | ⟨_, _, done⟩
    · exact refused
    · cases done
  · intro failed
    have noInsert : model.createCommand data = .error e := by
      rw [createCommand, failed]
      rfl
    have noUpdate : ∀ id, model.updateCommand id data = .error e := by
      intro id
      rw [updateCommand, failed]
      rfl
    refine ⟨noInsert, noUpdate, ?_, ?_⟩
    · intro s
      rw [create_recorded, noInsert, report_eq]
      rfl
    · intro id s
      rw [update_recorded, noUpdate, report_eq]
      rfl

/-- The value under a key stops the bag it is in: writing fails with the type error of the key
before anybody is called, and the key is not reported as undeclared. -/
structure Guarded (model : Model σ ρ) (data : Args) (key : String) : Prop where
  stops : ∃ e, model.WritesNothing data e ∧ e.isTypeMismatch ∧ e.param? = some key
  unreported : undeclaredEvent model.entity key ∉ model.warnings data

theorem unreported_of_refuses {model : Model σ ρ} {data : Args} {key : String} {value : Value}
    (refuses : model.entity.Refuses key value) :
    undeclaredEvent model.entity key ∉ model.warnings data := by
  intro reported
  have absent := Assignment.not_hasColumn_of_undeclared (mem_warnings_iff.mp reported)
  rw [refuses.hasColumn] at absent
  cases absent

theorem guarded_iff_refuses {model : Model σ ρ} {data : Args} {key : String} {value : Value}
    {earlier later : List (String × Value)} {ident : Ident}
    (entries : data.entries = earlier ++ (key, value) :: later)
    (identifier : Ident.read key.toList = .ok ident)
    (accepted : Assignment.Accepted model.entity earlier) :
    model.Guarded data key ↔ model.entity.Refuses key value := by
  constructor
  · rintro ⟨⟨e, nothing, _, about⟩, _⟩
    by_cases spelled : model.entity.Refuses key value
    · exact spelled
    have failed := writesNothing_iff.mp nothing
    obtain ⟨entry, member, refused⟩ := Assignment.exists_of_readAll_error failed
    have same := Assignment.param?_of_read refused about
    -- The names of a bag differ, so the entry that is refused is the one under the key.
    have found : Keyed.find? key data.entries = some entry.2 :=
      Keyed.find?_of_mem data.ascending (by rw [same]; exact member)
    have here : Keyed.find? key data.entries = some value :=
      Keyed.find?_of_mem data.ascending (by rw [entries]; simp)
    have whole : entry = (key, value) := by
      rw [here] at found
      exact Prod.ext same.symm (Option.some.inj found).symm
    rw [whole, Assignment.read_of_not_refuses identifier spelled] at refused
    cases refused
  · intro refuses
    obtain ⟨e, refused, mismatch, about⟩ := Assignment.read_of_refuses identifier refuses
    refine ⟨⟨e, writesNothing_iff.mpr ?_, mismatch, about⟩, unreported_of_refuses refuses⟩
    rw [entries]
    exact Assignment.readAll_append_error accepted refused

/-- Take a key that is an identifier of one part, and a value that the column of that name does not
take. If the entries before it are accepted, the value is stopped exactly when the column that is
called as the key is spelled does not take it either; whatever the other entries are, the bag is not
written then. A bare key is always spelled so. A key in quotes that no column is called by passes
unchecked, and is reported as undeclared. -/
theorem guarded_as_spelled {model : Model σ ρ} {data : Args} {key : String} {value : Value}
    {earlier later : List (String × Value)} {part : Ident.Part}
    (entries : data.entries = earlier ++ (key, value) :: later)
    (identifier : Ident.read key.toList = .ok ⟨[part]⟩)
    (refuses : model.entity.Refuses (String.ofList part.name) value) :
    (Assignment.Accepted model.entity earlier →
      (model.Guarded data key ↔ model.entity.Refuses key value)) ∧
    (model.entity.Refuses key value → (∃ e, model.WritesNothing data e) ∧
      undeclaredEvent model.entity key ∉ model.warnings data) ∧
    (∀ name, part = .bare name → model.entity.Refuses key value) ∧
    (∀ name, part = .quoted name → model.entity.hasColumn key = false →
      (∃ slot, Assignment.read model.entity (key, value) = .ok slot ∧ slot.value = value) ∧
      (Assignment.Accepted model.entity earlier →
        undeclaredEvent model.entity key ∈ model.warnings data)) := by
  refine ⟨guarded_iff_refuses entries identifier, ?_, ?_, ?_⟩
  · intro spelled
    obtain ⟨e, refused, _⟩ := Assignment.read_of_refuses identifier spelled
    have member : (key, value) ∈ data.entries := by
      rw [entries]
      simp
    obtain ⟨first, failed⟩ := Assignment.exists_error_of_mem member refused
    exact ⟨⟨first, writesNothing_iff.mpr failed⟩, unreported_of_refuses spelled⟩
  · rintro name rfl
    have spelled : key = String.ofList name := by
      rw [← Ident.text_eq_name_of_bare identifier, String.ofList_toList]
    rw [spelled]
    exact refuses
  · rintro name rfl absent
    have fine : ¬model.entity.Refuses key value := by
      intro spelled
      rw [spelled.hasColumn] at absent
      cases absent
    have read := Assignment.read_of_not_refuses identifier fine
    refine ⟨⟨_, read, rfl⟩, ?_⟩
    intro accepted
    rw [mem_warnings_iff, entries]
    apply Assignment.undeclared_of_accepted _ absent
    intro entry member
    rcases List.mem_append.mp member with before | here
    · exact accepted entry before
    · rw [List.mem_singleton] at here
      exact ⟨_, here ▸ read⟩

def ordersTable : Entity :=
  ⟨"orders", .table, [⟨"Order Id", "integer", .integer⟩, ⟨"total", "real", .float⟩]⟩

theorem exists_orders : ∃ model, ofEntity emptyDatabase ordersTable = .ok model := by
  have accepts : (ofEntity emptyDatabase ordersTable).toOption.isSome = true := by decide +kernel
  cases made : ofEntity emptyDatabase ordersTable with
  | error e => rw [made] at accepts; cases accepts
  | ok model => exact ⟨model, rfl⟩

theorem guarded_as_spelled_total :
    ∃ model, ofEntity emptyDatabase ordersTable = .ok model ∧
      Ident.read "total".toList = .ok ⟨[.bare "total".toList]⟩ ∧
      model.entity.Refuses "total" (.text "x") ∧
      model.Guarded (.ofList [("total", .text "x")]) "total" := by
  obtain ⟨model, made⟩ := exists_orders
  have refuses : model.entity.Refuses "total" (.text "x") := by
    rw [entity_of_ofEntity made]
    exact ⟨⟨"total", "real", .float⟩, .float, .kind, by decide +kernel, rfl, rfl, rfl⟩
  have entries : (Args.ofList [("total", .text "x")]).entries =
      [] ++ ("total", .text "x") :: [] := rfl
  have spelled := guarded_as_spelled entries rfl refuses
  exact ⟨model, made, rfl, refuses, (spelled.1 (by simp [Assignment.Accepted])).mpr refuses⟩

def mistypedOrder : Args := .ofList [("\"Order Id\"", .text "x")]

/-- A column that is declared in quotes can only be addressed in quotes, and then any value of it is
sent, with a warning that it is not declared. -/
theorem quoted_key_unguarded :
    (Schema.entityOf "CREATE TABLE orders (\"Order Id\" integer, total real)" "orders").toOption =
      some ordersTable ∧
    Ident.read "\"Order Id\"".toList = .ok ⟨[.quoted "Order Id".toList]⟩ ∧
    ∃ model, ofEntity emptyDatabase ordersTable = .ok model ∧
      model.entity.Refuses "Order Id" (.text "x") ∧
      ¬model.Guarded mistypedOrder "\"Order Id\"" ∧
      model.warnings mistypedOrder = [undeclaredEvent ordersTable "\"Order Id\""] ∧
      model.Sends (model.report mistypedOrder ()).2
        "INSERT INTO orders (\"Order Id\") VALUES ($1) RETURNING *" ["\"Order Id\""] [.text "x"]
        (model.recorded.create mistypedOrder ((), [])) := by
  obtain ⟨model, made⟩ := exists_orders
  have declared := entity_of_ofEntity made
  have entries : mistypedOrder.entries = [] ++ ("\"Order Id\"", .text "x") :: [] := rfl
  have identifier : Ident.read "\"Order Id\"".toList =
      .ok ⟨[.quoted "Order Id".toList]⟩ := rfl
  have fine : ¬ordersTable.Refuses "\"Order Id\"" (.text "x") := by
    intro refuses
    have absent : ordersTable.hasColumn "\"Order Id\"" = false := by decide +kernel
    rw [refuses.hasColumn] at absent
    cases absent
  have accepted : ∃ command, model.createCommand mistypedOrder = .ok command := by
    have read := Assignment.read_of_not_refuses identifier fine
    rw [createCommand, declared, entries, List.nil_append, Assignment.readAll, read]
    exact ⟨_, rfl⟩
  refine ⟨by decide +kernel, identifier, model, made, ?_, ?_, ?_, ?_⟩
  · rw [declared]
    exact ⟨⟨"Order Id", "integer", .integer⟩, .integer, .kind, by decide +kernel, rfl, rfl, rfl⟩
  · rw [guarded_iff_refuses entries identifier (by simp [Assignment.Accepted]), declared]
    exact fine
  · rw [warnings, declared]
    have names : Assignment.undeclared ordersTable mistypedOrder.entries = ["\"Order Id\""] := by
      decide +kernel
    rw [names]
    rfl
  · obtain ⟨command, accepted⟩ := accepted
    have sends := model.create_sends accepted ()
    rw [(names_of_ofEntity made).2.1] at sends
    have text : Written.insertText ordersTable.name (Written.numbered 1 mistypedOrder.names) =
        "INSERT INTO orders (\"Order Id\") VALUES ($1) RETURNING *" := by decide +kernel
    rw [text] at sends
    exact sends

end Model

end SqlTemplate
