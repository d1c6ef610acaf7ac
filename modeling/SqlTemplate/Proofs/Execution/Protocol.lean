import SqlTemplate.Proofs.Binding.AllOrNothing
import SqlTemplate.Proofs.Text.Clip

/-!
The protocol of an execution. What is computed, which hooks are asked, what the connection is sent
and which hooks are told follow one another in a fixed order, and end where something fails.
-/

namespace SqlTemplate

variable {σ ρ : Type}

namespace Hook

inductive Proceeds (context : Context) : List (Hook σ) → σ → σ → Prop
  | done {s : σ} : Proceeds context [] s s
  | next {hook : Hook σ} {rest : List (Hook σ)} {s t u : σ} :
      hook.before context s = (.proceed, t) → Proceeds context rest t u →
      Proceeds context (hook :: rest) s u

inductive Informed (context : Context) (elapsed : Nat) (outcome : Outcome) :
    List (Hook σ) → σ → σ → Prop
  | done {s : σ} : Informed context elapsed outcome [] s s
  | next {hook : Hook σ} {rest : List (Hook σ)} {s t u : σ} :
      hook.after context elapsed outcome s = ((), t) → Informed context elapsed outcome rest t u →
      Informed context elapsed outcome (hook :: rest) s u

def beforeCalls (context : Context) (place : Nat) : List (Hook σ) → List Call
  | [] => []
  | _ :: rest => .before place context :: beforeCalls context (place + 1) rest

def afterCalls (context : Context) (elapsed : Nat) (outcome : Outcome) (place : Nat) :
    List (Hook σ) → List Call
  | [] => []
  | _ :: rest =>
    .after place context elapsed outcome :: afterCalls context elapsed outcome (place + 1) rest

theorem Proceeds.runs {context : Context} {hooks : List (Hook σ)} {s t : σ}
    (proceeds : Proceeds context hooks s t) : beforeAll context hooks s = (.proceed, t) := by
  induction proceeds with
  | done => rfl
  | next asked _ ih => simp [beforeAll, asked, ih]

theorem Proceeds.runs_recorded {context : Context} {hooks : List (Hook σ)} {s t : σ}
    (proceeds : Proceeds context hooks s t) (place : Nat) (calls : List Call) :
    beforeAll context (allRecorded place hooks) (s, calls) =
      (.proceed, (t, calls ++ beforeCalls context place hooks)) := by
  induction proceeds generalizing place calls with
  | done => simp [allRecorded, beforeAll, beforeCalls]
  | next asked _ ih =>
      simp [allRecorded, recorded, beforeAll, noting_apply _ _ asked, ih, beforeCalls]

theorem Proceeds.aborts {context : Context} {earlier later : List (Hook σ)} {hook : Hook σ}
    {s t u : σ} {reason : String} (proceeds : Proceeds context earlier s t)
    (asked : hook.before context t = (.abort reason, u)) :
    beforeAll context (earlier ++ hook :: later) s = (.abort reason, u) := by
  induction proceeds with
  | done => simp [beforeAll, asked]
  | next first _ ih => simp [beforeAll, first, ih asked]

theorem Proceeds.aborts_recorded {context : Context} {earlier : List (Hook σ)} {hook : Hook σ}
    {s t u : σ} {reason : String} (proceeds : Proceeds context earlier s t)
    (asked : hook.before context t = (.abort reason, u)) (later : List (Hook σ)) (place : Nat)
    (calls : List Call) :
    beforeAll context (allRecorded place (earlier ++ hook :: later)) (s, calls) =
      (.abort reason, (u, calls ++ beforeCalls context place (earlier ++ [hook]))) := by
  induction proceeds generalizing place calls with
  | done =>
      simp [allRecorded, recorded, beforeAll, noting_apply _ _ asked, beforeCalls]
  | next first _ ih =>
      simp [allRecorded, recorded, beforeAll, noting_apply _ _ first, ih asked, beforeCalls]

theorem proceeds_or_aborts (context : Context) (hooks : List (Hook σ)) (s : σ) :
    (∃ t, Proceeds context hooks s t) ∨
      ∃ earlier hook later t u reason, hooks = earlier ++ hook :: later ∧
        Proceeds context earlier s t ∧ hook.before context t = (.abort reason, u) := by
  induction hooks generalizing s with
  | nil => exact .inl ⟨s, .done⟩
  | cons first rest ih =>
      cases asked : first.before context s with
      | mk action t =>
          cases action with
          | abort reason => exact .inr ⟨[], first, rest, s, t, reason, rfl, .done, asked⟩
          | proceed =>
              rcases ih t with
                ⟨u, proceeds⟩ | ⟨earlier, hook, later, u, v, reason, rfl, proceeds, last⟩
              · exact .inl ⟨u, .next asked proceeds⟩
              · exact .inr ⟨first :: earlier, hook, later, u, v, reason, rfl,
                  .next asked proceeds, last⟩

theorem Informed.runs {context : Context} {elapsed : Nat} {outcome : Outcome}
    {hooks : List (Hook σ)} {s t : σ} (informed : Informed context elapsed outcome hooks s t) :
    afterAll context elapsed outcome hooks s = ((), t) := by
  induction informed with
  | done => rfl
  | next told _ ih => simp [afterAll, told, ih]

theorem Informed.runs_recorded {context : Context} {elapsed : Nat} {outcome : Outcome}
    {hooks : List (Hook σ)} {s t : σ} (informed : Informed context elapsed outcome hooks s t)
    (place : Nat) (calls : List Call) :
    afterAll context elapsed outcome (allRecorded place hooks) (s, calls) =
      ((), (t, calls ++ afterCalls context elapsed outcome place hooks)) := by
  induction informed generalizing place calls with
  | done => simp [allRecorded, afterAll, afterCalls]
  | next told _ ih =>
      simp [allRecorded, recorded, afterAll, noting_apply _ _ told, ih, afterCalls]

theorem exists_informed (context : Context) (elapsed : Nat) (outcome : Outcome)
    (hooks : List (Hook σ)) (s : σ) : ∃ t, Informed context elapsed outcome hooks s t := by
  induction hooks generalizing s with
  | nil => exact ⟨s, .done⟩
  | cons hook rest ih =>
      obtain ⟨t, informed⟩ := ih (hook.after context elapsed outcome s).2
      exact ⟨t, .next rfl informed⟩

end Hook

/-- What hooks are told of a result: the number of rows, or the text of the error, shortened to
`Outcome.messageLimit` bytes. -/
inductive Tells : Except Error (List ρ) → Outcome → Prop
  | rows {rows : List ρ} : Tells (.ok rows) (.rows rows.length)
  | failure {e : Error} {short : List Char} :
      Text.Shortened Outcome.messageLimit e.message.toList short →
      Tells (.error e) (.failure (String.ofList short))

theorem tells_iff {reply : Reply ρ} {outcome : Outcome} :
    Tells reply.result outcome ↔ outcome = reply.outcome := by
  obtain ⟨result, elapsed⟩ := reply
  constructor
  · intro tells
    cases tells with
    | rows => rfl
    | failure shortened => rw [Text.shortened_iff.mp shortened]; rfl
  · rintro rfl
    cases result with
    | ok rows => exact .rows
    | error e => exact .failure (Text.shortened_iff.mpr rfl)

namespace Query

/-- An execution under hooks: what it gives, the state it leaves, and its calls in order. -/
inductive Execution (query : Query σ ρ) (values : List Value) (s : σ) :
    Except Error (List ρ) → σ → List Call → Prop
  /-- A hook aborts: those behind it and the connection are not called, and nobody is told. -/
  | aborted {earlier later : List (Hook σ)} {hook : Hook σ} {t u : σ} {reason : String} :
      query.hooks = earlier ++ hook :: later → Hook.Proceeds query.context earlier s t →
      hook.before query.context t = (.abort reason, u) →
      Execution query values s (.error (.aborted reason)) u
        (Hook.beforeCalls query.context 0 (earlier ++ [hook]))
  /-- The connection is called once, between the questions to all hooks and the reports to them. -/
  | sent {reply : Reply ρ} {outcome : Outcome} {t u v : σ} :
      Hook.Proceeds query.context query.hooks s t →
      query.connection.send query.statement.text values t = (reply, u) →
      Tells reply.result outcome →
      Hook.Informed query.context reply.elapsed outcome query.hooks u v →
      Execution query values s reply.result v
        (Hook.beforeCalls query.context 0 query.hooks ++
          .send query.statement.text values ::
            Hook.afterCalls query.context reply.elapsed outcome 0 query.hooks)

/-- An invocation: an execution with the values that binding gives, or an error and no calls. -/
inductive Invocation (query : Query σ ρ) (args : Option Args) (s : σ) :
    Except Error (List ρ) → σ → List Call → Prop
  | unbound {e : BindError} : query.statement.bind args s = (.error e, s) →
      Invocation query args s (.error (.bind e)) s []
  | bound {values : List Value} {t u : σ} {result : Except Error (List ρ)} {calls : List Call} :
      query.statement.bind args s = (.ok values, t) →
      values.length = query.statement.params.length →
      Execution query values t result u calls →
      Invocation query args s result u
        (Statement.computeCalls (args.getD .empty) 0 query.statement.params ++ calls)

theorem execute_eq_executeUnderHooks (query : Query σ ρ) (values : List Value) :
    query.execute values = query.executeUnderHooks values := by
  cases empty : query.hooks with
  | nil =>
      simp only [execute, executeUnderHooks, empty, List.isEmpty_nil, if_true, Hook.beforeAll,
        Hook.afterAll]
      rfl
  | cons hook rest => simp [execute, empty]

theorem execute_of_abort {query : Query σ ρ} {s t : σ} {reason : String}
    (asked : Hook.beforeAll query.context query.hooks s = (.abort reason, t))
    (values : List Value) : query.execute values s = (.error (.aborted reason), t) := by
  rw [execute_eq_executeUnderHooks]
  simp [executeUnderHooks, asked]

theorem execute_of_proceed {query : Query σ ρ} {s t u v : σ} {values : List Value}
    {reply : Reply ρ} (asked : Hook.beforeAll query.context query.hooks s = (.proceed, t))
    (replied : query.connection.send query.statement.text values t = (reply, u))
    (told : Hook.afterAll query.context reply.elapsed reply.outcome query.hooks u = ((), v)) :
    query.execute values s = (reply.result, v) := by
  rw [execute_eq_executeUnderHooks]
  simp only [executeUnderHooks, bind_apply, asked, replied, told, pure_apply]

theorem Execution.runs {query : Query σ ρ} {values : List Value} {s t : σ}
    {result : Except Error (List ρ)} {calls : List Call}
    (execution : Execution query values s result t calls) :
    query.execute values s = (result, t) := by
  cases execution with
  | aborted chain proceeds asked =>
      apply execute_of_abort
      rw [chain, proceeds.aborts asked]
  | sent proceeds replied tells informed =>
      rw [tells_iff.mp tells] at informed
      exact execute_of_proceed proceeds.runs replied informed.runs

theorem Execution.runs_recorded {query : Query σ ρ} {values : List Value} {s t : σ}
    {result : Except Error (List ρ)} {calls : List Call}
    (execution : Execution query values s result t calls) (noted : List Call) :
    query.recorded.execute values (s, noted) = (result, (t, noted ++ calls)) := by
  cases execution with
  | @aborted earlier later hook t u reason chain proceeds asked =>
      apply execute_of_abort
      rw [context_recorded, recorded, chain]
      exact proceeds.aborts_recorded asked later 0 noted
  | @sent reply outcome t u v proceeds replied tells informed =>
      -- The notes grow from stage to stage: questions, the statement, reports.
      rw [tells_iff.mp tells] at informed ⊢
      have asked := proceeds.runs_recorded 0 noted
      have sent := noting_apply (.send query.statement.text values)
        (noted ++ Hook.beforeCalls query.context 0 query.hooks) replied
      have told := informed.runs_recorded 0 (noted ++
        Hook.beforeCalls query.context 0 query.hooks ++ [.send query.statement.text values])
      rw [← context_recorded] at asked sent told
      rw [execute_of_proceed asked sent told]
      simp only [context_recorded, List.append_assoc, List.singleton_append]

theorem exists_execution (query : Query σ ρ) (values : List Value) (s : σ) :
    ∃ result t calls, Execution query values s result t calls := by
  rcases Hook.proceeds_or_aborts query.context query.hooks s with
    ⟨t, proceeds⟩ | ⟨earlier, hook, later, t, u, reason, chain, proceeds, asked⟩
  · cases replied : query.connection.send query.statement.text values t with
    | mk reply u =>
        obtain ⟨v, informed⟩ := Hook.exists_informed query.context reply.elapsed
          reply.outcome query.hooks u
        exact ⟨_, _, _, .sent proceeds replied (tells_iff.mpr rfl) informed⟩
  · exact ⟨_, _, _, .aborted chain proceeds asked⟩

theorem invoke_of_unbound {query : Query σ ρ} {args : Option Args} {s t : σ} {e : BindError}
    (bound : query.statement.bind args s = (.error e, t)) :
    query.invoke args s = (.error (.bind e), t) := by
  simp [invoke, Query.bind, bound]

theorem invoke_of_bound {query : Query σ ρ} {args : Option Args} {s t : σ} {values : List Value}
    (bound : query.statement.bind args s = (.ok values, t)) :
    query.invoke args s = query.execute values t := by
  simp [invoke, Query.bind, bound]

theorem Invocation.runs {query : Query σ ρ} {args : Option Args} {s t : σ}
    {result : Except Error (List ρ)} {calls : List Call}
    (invocation : Invocation query args s result t calls) : query.invoke args s = (result, t) := by
  cases invocation with
  | unbound bound => exact invoke_of_unbound bound
  | bound bound _ execution => rw [invoke_of_bound bound, execution.runs]

theorem Invocation.runs_recorded {query : Query σ ρ} {args : Option Args} {s t : σ}
    {result : Except Error (List ρ)} {calls : List Call}
    (invocation : Invocation query args s result t calls) :
    query.recorded.invoke args (s, []) = (result, (t, calls)) := by
  cases invocation with
  | unbound bound =>
      have refused := (Statement.refused_of_bind bound).1
      exact invoke_of_unbound (Statement.bind_recorded_of_refused refused s [])
  | bound bound _ execution =>
      obtain ⟨fine, supplies⟩ := Statement.supplies_of_bind bound
      rw [invoke_of_bound (Statement.bind_recorded_of_supplies fine supplies [])]
      exact execution.runs_recorded _

theorem exists_invocation (query : Query σ ρ) (args : Option Args) (s : σ) :
    ∃ result t calls, Invocation query args s result t calls := by
  cases bound : query.statement.bind args s with
  | mk binding t =>
      cases binding with
      | error e =>
          obtain ⟨_, rfl⟩ := Statement.refused_of_bind bound
          exact ⟨_, _, _, .unbound bound⟩
      | ok values =>
          have aligned := (Statement.supplies_of_bind bound).2.length_eq
          obtain ⟨result, u, calls, execution⟩ := exists_execution query values t
          exact ⟨_, _, _, .bound bound aligned execution⟩

/-- An invocation fails to bind, is aborted or is sent, and calls no more than that takes; what is
on record is no other invocation. The shortcut without hooks gives and calls what the way under
hooks does. -/
theorem invoke_protocol (query : Query σ ρ) (args : Option Args) (s : σ) :
    (∀ result t calls, query.recorded.invoke args (s, []) = (result, (t, calls)) ↔
      Invocation query args s result t calls) ∧
    (∃ result t calls, Invocation query args s result t calls ∧
      query.invoke args s = (result, t)) ∧
    ∀ values, query.execute values = query.executeUnderHooks values ∧
      query.recorded.execute values = query.recorded.executeUnderHooks values := by
  obtain ⟨result, t, calls, invocation⟩ := exists_invocation query args s
  refine ⟨?_, ⟨result, t, calls, invocation, invocation.runs⟩, fun values =>
    ⟨execute_eq_executeUnderHooks query values, execute_eq_executeUnderHooks query.recorded values⟩⟩
  intro other u noted
  constructor
  · intro ran
    rw [invocation.runs_recorded] at ran
    cases ran
    exact invocation
  · intro again
    exact again.runs_recorded

/-- A query whose connection fails with a message of one byte more than hooks are told. -/
def refusedAtLength : Query Unit Unit :=
  { connection := ⟨fun _ _ => pure ⟨.error (.other (String.ofList (.replicate 513 'x'))), 0⟩⟩
    statement := ⟨"SELECT 1", []⟩
    hooks := [Hook.idle]
    tag := none }

theorem failure_told_short :
    ∃ e told, refusedAtLength.recorded.invoke none ((), []) =
      (.error e, ((), [.before 0 refusedAtLength.context, .send "SELECT 1" [],
        .after 0 refusedAtLength.context 0 (.failure told)])) ∧ told ≠ e.message := by
  refine ⟨.other (String.ofList (.replicate 513 'x')),
    String.ofList (Text.shorten Outcome.messageLimit
      (String.ofList (.replicate 513 'x')).toList), rfl, ?_⟩
  have shorter : Text.shorten Outcome.messageLimit (.replicate 513 'x') ≠ .replicate 513 'x' := by
    decide +kernel
  intro same
  rw [String.toList_ofList] at same
  exact shorter (String.ofList_injective same)

end Query

end SqlTemplate
