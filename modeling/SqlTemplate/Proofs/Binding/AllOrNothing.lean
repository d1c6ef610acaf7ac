import SqlTemplate.Proofs.Execution.Recorded
import SqlTemplate.Proofs.Result

/-!
Binding is all or nothing. Either the first named parameter that the bag cannot fill decides the
error and nothing is computed, or every parameter gets its value in the order of the markers.
-/

namespace SqlTemplate.Statement

variable {σ τ : Type}

def given? (args : Option Args) (name : String) : Option Value :=
  args.bind fun bag => bag.get? name

/-- Why a named parameter cannot be filled: nothing is given for it, or what is given does not pass
the check of its type. -/
inductive Refuses (args : Option Args) (param : Param τ) : BindError → Prop
  | missing : param.source = .named → given? args param.name = none →
      Refuses args param (.missing param.name)
  | mismatch {value : Value} : param.source = .named → given? args param.name = some value →
      param.type.check value = .error .kind →
      Refuses args param (.mismatch param.name param.type value)
  | malformed {value : Value} {cause : Json.SyntaxError} : param.source = .named →
      given? args param.name = some value → param.type.check value = .error (.malformed cause) →
      Refuses args param (.malformedJson param.name cause)

def Refused (args : Option Args) (param : Param τ) : Prop :=
  ∃ e, Refuses args param e

def FirstRefused (args : Option Args) (params : List (Param τ)) (e : BindError) : Prop :=
  ∃ earlier param later, params = earlier ++ param :: later ∧
    (∀ other ∈ earlier, ¬Refused args other) ∧ Refuses args param e

/-- Values for some parameters. A named one has what the bag holds, and a computed one what its
computation gives in the state that the earlier ones left. -/
inductive Supplies (bag : Args) : List (Param (Compute σ)) → σ → List Value → σ → Prop
  | done {s : σ} : Supplies bag [] s [] s
  | named {param : Param (Compute σ)} {rest : List (Param (Compute σ))} {s t : σ} {value : Value}
      {values : List Value} : param.source = .named → bag.get? param.name = some value →
      Supplies bag rest s values t → Supplies bag (param :: rest) s (value :: values) t
  | computed {param : Param (Compute σ)} {rest : List (Param (Compute σ))} {compute : Compute σ}
      {s t u : σ} {value : Value} {values : List Value} : param.source = .computed compute →
      compute bag s = (value, t) → Supplies bag rest t values u →
      Supplies bag (param :: rest) s (value :: values) u

def computeCalls (bag : Args) (place : Nat) : List (Param τ) → List Call
  | [] => []
  | param :: rest =>
    match param.source with
    | .named => computeCalls bag (place + 1) rest
    | .computed _ => .compute place bag :: computeCalls bag (place + 1) rest

/-! The first pass finds the first refused parameter. -/

@[simp] theorem get?_bag (args : Option Args) (name : String) :
    (args.getD .empty).get? name = given? args name := by
  cases args <;> rfl

@[simp] theorem checkParam_eq_ok_iff {name : String} {type : ParamType} {value : Value} :
    checkParam name type value = .ok () ↔ type.check value = .ok () := by
  rw [checkParam]
  split <;> simp_all

theorem checkOne_eq_error_iff {args : Option Args} {param : Param (Compute σ)} {e : BindError} :
    checkOne (args.getD .empty) param = .error e ↔ Refuses args param e := by
  constructor
  · intro failed
    cases source : param.source with
    | computed compute => simp [checkOne, source] at failed
    | named =>
        simp only [checkOne, source, lookUp, get?_bag] at failed
        cases found : given? args param.name with
        | none =>
            simp only [found] at failed
            cases failed
            exact .missing source found
        | some value =>
            simp only [found] at failed
            change checkParam param.name param.type value = .error e at failed
            rw [checkParam] at failed
            split at failed
            next => cases failed
            next checked =>
              cases failed
              exact .mismatch source found checked
            next cause checked =>
              cases failed
              exact .malformed source found checked
  · intro refuses
    cases refuses with
    | missing source absent =>
        simp only [checkOne, source, lookUp, get?_bag, absent]
        rfl
    | mismatch source found checked =>
        simp only [checkOne, source, lookUp, get?_bag, found]
        change checkParam _ _ _ = _
        rw [checkParam, checked]
    | malformed source found checked =>
        simp only [checkOne, source, lookUp, get?_bag, found]
        change checkParam _ _ _ = _
        rw [checkParam, checked]

theorem checkOne_of_not_refused {args : Option Args} {param : Param (Compute σ)}
    (fine : ¬Refused args param) : checkOne (args.getD .empty) param = .ok () := by
  cases checked : checkOne (args.getD .empty) param with
  | ok => rfl
  | error e => exact absurd ⟨e, checkOne_eq_error_iff.mp checked⟩ fine

theorem not_refused_of_checkOne {args : Option Args} {param : Param (Compute σ)}
    (checked : checkOne (args.getD .empty) param = .ok ()) : ¬Refused args param := by
  rintro ⟨e, refuses⟩
  rw [checkOne_eq_error_iff.mpr refuses] at checked
  cases checked

theorem checkAll_eq_error_iff {args : Option Args} {params : List (Param (Compute σ))}
    {e : BindError} :
    checkAll (args.getD .empty) params = .error e ↔ FirstRefused args params e := by
  induction params with
  | nil =>
      simp only [checkAll, reduceCtorEq, false_iff]
      rintro ⟨earlier, param, later, same, _⟩
      simp at same
  | cons first rest ih =>
      rw [checkAll, Result.bind_eq_error_iff, ih]
      constructor
      · rintro (failed | ⟨_, passed, earlier, param, later, rfl, fine, refuses⟩)
        · exact ⟨[], first, rest, rfl, by simp, checkOne_eq_error_iff.mp failed⟩
        · refine ⟨first :: earlier, param, later, rfl, ?_, refuses⟩
          intro other member
          rcases List.mem_cons.mp member with here | inEarlier
          · exact here ▸ not_refused_of_checkOne passed
          · exact fine other inEarlier
      · rintro ⟨earlier, param, later, same, fine, refuses⟩
        cases earlier with
        | nil =>
            cases same
            exact .inl (checkOne_eq_error_iff.mpr refuses)
        | cons other earlier =>
            cases same
            refine .inr ⟨(), checkOne_of_not_refused (fine first List.mem_cons_self), ?_⟩
            exact ⟨earlier, param, later, rfl,
              fun other member => fine other (List.mem_cons_of_mem _ member), refuses⟩

theorem checkAll_eq_ok_iff {args : Option Args} {params : List (Param (Compute σ))} :
    checkAll (args.getD .empty) params = .ok () ↔ ∀ param ∈ params, ¬Refused args param := by
  induction params with
  | nil => simp [checkAll]
  | cons first rest ih =>
      rw [checkAll, Result.bind_eq_ok_iff, List.forall_mem_cons, ih.symm]
      constructor
      · rintro ⟨_, passed, later⟩
        exact ⟨not_refused_of_checkOne passed, later⟩
      · rintro ⟨fine, later⟩
        exact ⟨(), checkOne_of_not_refused fine, later⟩

@[simp] theorem checkAll_recorded (bag : Args) (place : Nat) (params : List (Param (Compute σ))) :
    checkAll bag (Param.allRecorded place params) = checkAll bag params := by
  induction params generalizing place with
  | nil => rfl
  | cons param rest ih =>
      have first : checkOne bag (param.recorded place) = checkOne bag param := by
        cases source : param.source <;> simp [checkOne, Param.recorded, Source.recorded, source]
      rw [Param.allRecorded, checkAll, checkAll, first, ih]

/-! After the first pass the second one fills every parameter. -/

theorem exists_supplies {args : Option Args} {params : List (Param (Compute σ))}
    (fine : ∀ param ∈ params, ¬Refused args param) (s : σ) :
    ∃ values t, Supplies (args.getD .empty) params s values t := by
  induction params generalizing s with
  | nil => exact ⟨[], s, .done⟩
  | cons param rest ih =>
      obtain ⟨here, later⟩ := List.forall_mem_cons.mp fine
      cases source : param.source with
      | named =>
          cases found : given? args param.name with
          | none => exact absurd ⟨_, .missing source found⟩ here
          | some value =>
              obtain ⟨values, t, supplies⟩ := ih later s
              exact ⟨value :: values, t, .named source ((get?_bag args _).trans found) supplies⟩
      | computed compute =>
          obtain ⟨values, t, supplies⟩ := ih later (compute (args.getD .empty) s).2
          exact ⟨_, t, .computed source rfl supplies⟩

theorem Supplies.runs {bag : Args} {params : List (Param (Compute σ))} {s t : σ}
    {values : List Value} (supplies : Supplies bag params s values t) :
    supplyAll bag params s = (.ok values, t) := by
  induction supplies with
  | done => rfl
  | named source found _ ih =>
      simp [supplyAll, supply, source, lookUp, found, ih]
  | computed source computed _ ih =>
      simp only [supplyAll, bind_apply, supply, source, computed, pure_apply, ih]

theorem Supplies.runs_recorded {bag : Args} {params : List (Param (Compute σ))} {s t : σ}
    {values : List Value} (supplies : Supplies bag params s values t) (place : Nat)
    (calls : List Call) :
    supplyAll bag (Param.allRecorded place params) (s, calls) =
      (.ok values, (t, calls ++ computeCalls bag place params)) := by
  induction supplies generalizing place calls with
  | done => simp [Param.allRecorded, supplyAll, computeCalls]
  | named source found _ ih =>
      simp [Param.allRecorded, supplyAll, supply, Param.recorded, Source.recorded, source, lookUp,
        found, ih, computeCalls]
  | computed source computed _ ih =>
      simp only [Param.allRecorded, supplyAll, bind_apply, supply, Param.recorded,
        Source.recorded, source, noting_apply _ _ computed, pure_apply, ih, computeCalls,
        List.append_assoc, List.singleton_append]

theorem Supplies.length_eq {bag : Args} {params : List (Param (Compute σ))} {s t : σ}
    {values : List Value} (supplies : Supplies bag params s values t) :
    values.length = params.length := by
  induction supplies with
  | done => rfl
  | named _ _ _ ih => simp [ih]
  | computed _ _ _ ih => simp [ih]

theorem Supplies.supplied {bag : Args} {params : List (Param (Compute σ))} {s t : σ}
    {values : List Value} (supplies : Supplies bag params s values t) {place : Nat}
    {param : Param (Compute σ)} (there : params[place]? = some param) :
    ∃ value before after, values[place]? = some value ∧
      supply bag param before = (.ok value, after) := by
  induction supplies generalizing place with
  | done => simp at there
  | @named _ _ s _ value _ source found _ ih =>
      cases place with
      | zero =>
          cases there
          refine ⟨value, s, s, rfl, ?_⟩
          simp [supply, source, lookUp, found]
      | succ place => exact ih there
  | @computed _ _ _ s t _ value _ source computed _ ih =>
      cases place with
      | zero =>
          cases there
          refine ⟨value, s, t, rfl, ?_⟩
          simp [supply, source, computed]
      | succ place => exact ih there

theorem Supplies.value_of_named {bag : Args} {params : List (Param (Compute σ))} {s t : σ}
    {values : List Value} (supplies : Supplies bag params s values t) {place : Nat}
    {param : Param (Compute σ)} (there : params[place]? = some param)
    (source : param.source = .named) :
    ∃ value, values[place]? = some value ∧ bag.get? param.name = some value := by
  obtain ⟨value, before, after, atPlace, supplied⟩ := supplies.supplied there
  simp only [supply, source, lookUp, pure_apply] at supplied
  split at supplied
  next found =>
    cases supplied
    exact ⟨value, atPlace, found⟩
  next => cases supplied

theorem Supplies.value_of_computed {bag : Args} {params : List (Param (Compute σ))} {s t : σ}
    {values : List Value} (supplies : Supplies bag params s values t) {place : Nat}
    {param : Param (Compute σ)} {compute : Compute σ} (there : params[place]? = some param)
    (source : param.source = .computed compute) :
    ∃ value before after, values[place]? = some value ∧
      compute bag before = (value, after) := by
  obtain ⟨value, before, after, atPlace, supplied⟩ := supplies.supplied there
  simp only [supply, source, bind_apply, pure_apply] at supplied
  cases supplied
  exact ⟨_, before, _, atPlace, rfl⟩

theorem checkParam_of_not_refused {args : Option Args} {param : Param τ} {value : Value}
    (fine : ¬Refused args param) (source : param.source = .named)
    (found : given? args param.name = some value) :
    checkParam param.name param.type value = .ok () := by
  rw [checkParam_eq_ok_iff]
  cases checked : param.type.check value with
  | ok => rfl
  | error misfit =>
      cases misfit with
      | kind => exact absurd ⟨_, .mismatch source found checked⟩ fine
      | malformed cause => exact absurd ⟨_, .malformed source found checked⟩ fine

/-! Only what the bag holds under the names of the parameters counts. -/

theorem bind_congr {statement : Statement (Compute σ)} {args other : Option Args}
    (named : ∀ param ∈ statement.params, param.source = .named)
    (agree : ∀ param ∈ statement.params, given? other param.name = given? args param.name) :
    statement.bind other = statement.bind args := by
  obtain ⟨text, params⟩ := statement
  have passes : checkAll (other.getD .empty) params = checkAll (args.getD .empty) params ∧
      supplyAll (other.getD .empty) params = supplyAll (args.getD .empty) params := by
    induction params with
    | nil => exact ⟨rfl, rfl⟩
    | cons param rest ih =>
        obtain ⟨source, named⟩ := List.forall_mem_cons.mp named
        obtain ⟨same, agree⟩ := List.forall_mem_cons.mp agree
        obtain ⟨checks, supplies⟩ := ih named agree
        have found : lookUp (other.getD .empty) param.name =
            lookUp (args.getD .empty) param.name := by
          simp [lookUp, same]
        constructor
        · simp only [checkAll, checkOne, source, found, checks]
        · simp only [supplyAll, supply, source, found, supplies]
  simp only [Statement.bind, passes.1, passes.2]

theorem bind_of_refused {statement : Statement (Compute σ)} {args : Option Args} {e : BindError}
    (refused : FirstRefused args statement.params e) (s : σ) :
    statement.bind args s = (.error e, s) := by
  simp [Statement.bind, checkAll_eq_error_iff.mpr refused]

theorem bind_recorded_of_refused {statement : Statement (Compute σ)} {args : Option Args}
    {e : BindError} (refused : FirstRefused args statement.params e) (s : σ) (calls : List Call) :
    statement.recorded.bind args (s, calls) = (.error e, (s, calls)) := by
  simp [Statement.bind, Statement.recorded, checkAll_eq_error_iff.mpr refused]

theorem bind_of_supplies {statement : Statement (Compute σ)} {args : Option Args} {s t : σ}
    {values : List Value} (fine : ∀ param ∈ statement.params, ¬Refused args param)
    (supplies : Supplies (args.getD .empty) statement.params s values t) :
    statement.bind args s = (.ok values, t) := by
  simp only [Statement.bind, checkAll_eq_ok_iff.mpr fine, supplies.runs]

theorem bind_recorded_of_supplies {statement : Statement (Compute σ)} {args : Option Args}
    {s t : σ} {values : List Value} (fine : ∀ param ∈ statement.params, ¬Refused args param)
    (supplies : Supplies (args.getD .empty) statement.params s values t) (calls : List Call) :
    statement.recorded.bind args (s, calls) =
      (.ok values, (t, calls ++ computeCalls (args.getD .empty) 0 statement.params)) := by
  simp [Statement.bind, Statement.recorded, checkAll_eq_ok_iff.mpr fine, supplies.runs_recorded]

theorem refused_of_bind {statement : Statement (Compute σ)} {args : Option Args} {s t : σ}
    {e : BindError} (bound : statement.bind args s = (.error e, t)) :
    FirstRefused args statement.params e ∧ t = s := by
  cases checked : checkAll (args.getD .empty) statement.params with
  | error first =>
      simp only [Statement.bind, checked, pure_apply] at bound
      cases bound
      exact ⟨checkAll_eq_error_iff.mp checked, rfl⟩
  | ok =>
      have fine := checkAll_eq_ok_iff.mp checked
      obtain ⟨values, u, supplies⟩ := exists_supplies fine s
      rw [bind_of_supplies fine supplies] at bound
      cases bound

theorem supplies_of_bind {statement : Statement (Compute σ)} {args : Option Args} {s t : σ}
    {values : List Value} (bound : statement.bind args s = (.ok values, t)) :
    (∀ param ∈ statement.params, ¬Refused args param) ∧
      Supplies (args.getD .empty) statement.params s values t := by
  cases checked : checkAll (args.getD .empty) statement.params with
  | error e =>
      rw [bind_of_refused (checkAll_eq_error_iff.mp checked)] at bound
      cases bound
  | ok =>
      have fine := checkAll_eq_ok_iff.mp checked
      obtain ⟨filled, u, supplies⟩ := exists_supplies fine s
      rw [bind_of_supplies fine supplies] at bound
      cases bound
      exact ⟨fine, supplies⟩

theorem bind_eq_error_iff {statement : Statement (Compute σ)} {args : Option Args} {s : σ}
    {e : BindError} :
    (statement.bind args s).1 = .error e ↔ FirstRefused args statement.params e := by
  constructor
  · intro failed
    exact (refused_of_bind (Prod.ext failed rfl)).1
  · intro refused
    rw [bind_of_refused refused]

theorem exists_firstRefused_iff {args : Option Args} {params : List (Param (Compute σ))} :
    (∃ e, FirstRefused args params e) ↔ ∃ param ∈ params, Refused args param := by
  constructor
  · rintro ⟨e, earlier, param, later, rfl, _, refuses⟩
    exact ⟨param, by simp, e, refuses⟩
  · rintro ⟨param, member, refused⟩
    cases checked : checkAll (args.getD .empty) params with
    | error e => exact ⟨e, checkAll_eq_error_iff.mp checked⟩
    | ok => exact absurd refused (checkAll_eq_ok_iff.mp checked param member)

/-- A binding that gave every parameter its value. A named parameter has what was given for it, and
that passes its check; a computed one has what its computation gave, unchecked. -/
structure Filled (statement : Statement (Compute σ)) (args : Option Args) (s : σ)
    (values : List Value) (t : σ) : Prop where
  bound : statement.bind args s = (.ok values, t)
  calls : statement.recorded.bind args (s, []) =
    (.ok values, (t, computeCalls (args.getD .empty) 0 statement.params))
  supplies : Supplies (args.getD .empty) statement.params s values t
  aligned : values.length = statement.params.length
  named : ∀ {place : Nat} {param : Param (Compute σ)}, statement.params[place]? = some param →
    param.source = .named → ∃ value, values[place]? = some value ∧
      given? args param.name = some value ∧ checkParam param.name param.type value = .ok ()
  computed : ∀ {place : Nat} {param : Param (Compute σ)} {compute : Compute σ},
    statement.params[place]? = some param → param.source = .computed compute →
    ∃ value before after, values[place]? = some value ∧
      compute (args.getD .empty) before = (value, after)

theorem exists_filled {statement : Statement (Compute σ)} {args : Option Args}
    (fine : ∀ param ∈ statement.params, ¬Refused args param) (s : σ) :
    ∃ values t, Filled statement args s values t := by
  obtain ⟨values, t, supplies⟩ := exists_supplies fine s
  refine ⟨values, t, bind_of_supplies fine supplies, bind_recorded_of_supplies fine supplies [],
    supplies, supplies.length_eq, ?_, supplies.value_of_computed⟩
  intro place param there source
  obtain ⟨value, atPlace, found⟩ := supplies.value_of_named there source
  rw [get?_bag] at found
  have member : param ∈ statement.params := List.mem_of_getElem? there
  exact ⟨value, atPlace, found, checkParam_of_not_refused (fine param member) source found⟩

/-- Binding fails with the error of the first refused parameter before anything is computed, or it
fills every parameter and calls every computation once, in the order of the markers; once the
checks are passed nothing is missing. What a bag holds under other names counts for computations
only. -/
theorem bind_all_or_nothing (statement : Statement (Compute σ)) (args : Option Args) (s : σ) :
    (∀ e, (statement.bind args s).1 = .error e ↔ FirstRefused args statement.params e) ∧
    ((∃ e, (statement.bind args s).1 = .error e) ↔
      ∃ param ∈ statement.params, Refused args param) ∧
    (∀ e, FirstRefused args statement.params e →
      statement.bind args s = (.error e, s) ∧
      statement.recorded.bind args (s, []) = (.error e, (s, []))) ∧
    ((∀ param ∈ statement.params, ¬Refused args param) →
      (∃ values t, Filled statement args s values t) ∧
      ∀ t e, (supplyAll (args.getD .empty) statement.params t).1 ≠ .error e) ∧
    ((∀ param ∈ statement.params, param.source = .named) → ∀ other : Option Args,
      (∀ param ∈ statement.params, given? other param.name = given? args param.name) →
      statement.bind other = statement.bind args) := by
  refine ⟨fun e => bind_eq_error_iff, ?_, ?_, ?_, ?_⟩
  · simp only [bind_eq_error_iff, exists_firstRefused_iff]
  · intro e refused
    exact ⟨bind_of_refused refused s, bind_recorded_of_refused refused s []⟩
  · intro fine
    refine ⟨exists_filled fine s, ?_⟩
    intro t e failed
    obtain ⟨values, u, supplies⟩ := exists_supplies fine t
    rw [supplies.runs] at failed
    cases failed
  · intro named other agree
    exact bind_congr named agree

end SqlTemplate.Statement
