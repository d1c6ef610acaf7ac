import SqlTemplate.Proofs.Execution.Protocol

/-!
What an execution discloses of the values that are bound. Hooks and the SQL text are told nothing of
them: two executions of one query differ in the values that are sent and in what the connection
makes of them, and in nothing else that hooks see.
-/

namespace SqlTemplate

variable {σ ρ : Type}

/-- A call without what is bound and what is answered: who is called, and what of the statement the
callee is shown. -/
inductive Call.Outline
  | compute (place : Nat)
  | before (place : Nat) (context : Context)
  | send (text : String)
  | after (place : Nat) (context : Context)
  deriving DecidableEq

def Call.outline : Call → Outline
  | .compute place _ => .compute place
  | .before place context => .before place context
  | .send text _ => .send text
  | .after place context _ _ => .after place context

/-- Whoever is called is shown no other statement than the one of a context. -/
def Call.Shows (context : Context) : Call → Prop
  | .compute _ _ => True
  | .before _ seen => seen = context
  | .send text _ => text = context.sql
  | .after _ seen _ _ => seen = context

/-- A run that the hook at a place of the chain ends: nobody is called after it, the connection is
not called at all, and the reason is returned. -/
structure AbortedAt (place : Nat) (reason : String)
    (run : Except Error (List ρ) × Recorded σ) : Prop where
  result : run.1 = .error (.aborted reason)
  last : ∃ context, run.2.2.getLast? = some (.before place context)
  unsent : ∀ text values, .send text values ∉ run.2.2

def Reached (run : Except Error (List ρ) × Recorded σ) : Prop :=
  ∃ text values, .send text values ∈ run.2.2

/-- A hook that decides on the context alone, whatever state it is in. -/
def Hook.DecidesByContext (hook : Hook σ) : Prop :=
  ∀ context s t, (hook.before context s).1 = (hook.before context t).1

/-- Two runs in which everybody is shown the same statement. Where the hooks decide on the context
alone, the same are called in the same order, and a hook that ends one run ends the other. -/
structure Alike (hooks : List (Hook σ)) (context : Context)
    (run again : Except Error (List ρ) × Recorded σ) : Prop where
  shown : ∀ call ∈ run.2.2 ++ again.2.2, call.Shows context
  outlined : (∀ hook ∈ hooks, hook.DecidesByContext) →
    run.2.2.map Call.outline = again.2.2.map Call.outline
  decided : (∀ hook ∈ hooks, hook.DecidesByContext) →
    (∃ place reason, AbortedAt place reason run ∧ AbortedAt place reason again) ∨
      (Reached run ∧ Reached again)

theorem AbortedAt.after {place : Nat} {reason : String} {result : Except Error (List ρ)} {s : σ}
    {calls : List Call} (aborted : AbortedAt place reason (result, (s, calls)))
    {earlier : List Call} (unsent : ∀ text values, .send text values ∉ earlier) :
    AbortedAt place reason (result, (s, earlier ++ calls)) := by
  obtain ⟨context, last⟩ := aborted.last
  refine ⟨aborted.result, ⟨context, ?_⟩, ?_⟩
  · dsimp only at last ⊢
    rw [List.getLast?_append, last]
    rfl
  · intro text values member
    rcases List.mem_append.mp member with before | member
    · exact unsent text values before
    · exact aborted.unsent text values member

theorem Statement.shows_of_mem_computeCalls {τ : Type} {bag : Args} {place : Nat}
    {params : List (Param τ)} {call : Call} (member : call ∈ computeCalls bag place params)
    (context : Context) : call.Shows context := by
  induction params generalizing place with
  | nil => cases member
  | cons param rest ih =>
      rw [computeCalls] at member
      split at member
      next => exact ih member
      next =>
        rcases List.mem_cons.mp member with rfl | later
        · trivial
        · exact ih later

theorem Statement.outline_computeCalls {τ : Type} (bag other : Args) (place : Nat)
    (params : List (Param τ)) : (computeCalls bag place params).map Call.outline =
      (computeCalls other place params).map Call.outline := by
  induction params generalizing place with
  | nil => rfl
  | cons param rest ih =>
      rw [computeCalls, computeCalls]
      split
      next => exact ih _
      next => rw [List.map_cons, List.map_cons, ih, Call.outline, Call.outline]

theorem Statement.send_not_mem_computeCalls {τ : Type} {bag : Args} {place : Nat}
    {params : List (Param τ)} {text : String} {values : List Value} :
    .send text values ∉ computeCalls bag place params := by
  induction params generalizing place with
  | nil => exact List.not_mem_nil
  | cons param rest ih =>
      rw [computeCalls]
      split
      next => exact ih
      next =>
        intro member
        rcases List.mem_cons.mp member with same | later
        · cases same
        · exact ih later

namespace Hook

theorem eq_before_of_mem_beforeCalls {context : Context} {place : Nat} {hooks : List (Hook σ)}
    {call : Call} (member : call ∈ beforeCalls context place hooks) :
    ∃ asked, call = .before asked context := by
  induction hooks generalizing place with
  | nil => cases member
  | cons hook rest ih =>
      rcases List.mem_cons.mp member with rfl | later
      · exact ⟨place, rfl⟩
      · exact ih later

theorem eq_after_of_mem_afterCalls {context : Context} {elapsed : Nat} {outcome : Outcome}
    {place : Nat} {hooks : List (Hook σ)} {call : Call}
    (member : call ∈ afterCalls context elapsed outcome place hooks) :
    ∃ told, call = .after told context elapsed outcome := by
  induction hooks generalizing place with
  | nil => cases member
  | cons hook rest ih =>
      rcases List.mem_cons.mp member with rfl | later
      · exact ⟨place, rfl⟩
      · exact ih later

theorem getLast?_beforeCalls (context : Context) (place : Nat) (earlier : List (Hook σ))
    (hook : Hook σ) : (beforeCalls context place (earlier ++ [hook])).getLast? =
      some (.before (place + earlier.length) context) := by
  induction earlier generalizing place with
  | nil => rfl
  | cons first rest ih =>
      rw [List.cons_append, beforeCalls, List.getLast?_cons, ih, List.length_cons]
      have shift : place + 1 + rest.length = place + (rest.length + 1) := by omega
      rw [shift]
      rfl

theorem outline_afterCalls (context : Context) (elapsed : Nat) (outcome : Outcome)
    (elapsed' : Nat) (outcome' : Outcome) (place : Nat) (hooks : List (Hook σ)) :
    (afterCalls context elapsed outcome place hooks).map Call.outline =
      (afterCalls context elapsed' outcome' place hooks).map Call.outline := by
  induction hooks generalizing place with
  | nil => rfl
  | cons hook rest ih =>
      rw [afterCalls, afterCalls, List.map_cons, List.map_cons, ih, Call.outline, Call.outline]

theorem Proceeds.of_decided {context : Context} {hooks : List (Hook σ)} {s t : σ}
    (proceeds : Proceeds context hooks s t) (decided : ∀ hook ∈ hooks, hook.DecidesByContext)
    (s' : σ) : ∃ t', Proceeds context hooks s' t' := by
  induction proceeds generalizing s' with
  | done => exact ⟨s', .done⟩
  | @next hook rest s t u asked _ ih =>
      obtain ⟨here, later⟩ := List.forall_mem_cons.mp decided
      have action : (hook.before context s').1 = .proceed := by
        rw [here context s' s, asked]
      obtain ⟨t', proceeds⟩ := ih later (hook.before context s').2
      exact ⟨t', .next (Prod.ext action rfl) proceeds⟩

end Hook

namespace Query

variable {query : Query σ ρ}

theorem Execution.shows {values : List Value} {s t : σ} {result : Except Error (List ρ)}
    {calls : List Call} (execution : query.Execution values s result t calls) :
    ∀ call ∈ calls, call.Shows query.context := by
  intro call member
  cases execution with
  | aborted _ _ _ =>
      obtain ⟨place, rfl⟩ := Hook.eq_before_of_mem_beforeCalls member
      rfl
  | sent _ _ _ _ =>
      rcases List.mem_append.mp member with before | member
      · obtain ⟨place, rfl⟩ := Hook.eq_before_of_mem_beforeCalls before
        rfl
      · rcases List.mem_cons.mp member with rfl | after
        · rfl
        · obtain ⟨place, rfl⟩ := Hook.eq_after_of_mem_afterCalls after
          rfl

theorem Execution.unique {values : List Value} {s t t' : σ} {result result' : Except Error (List ρ)}
    {calls calls' : List Call} (execution : query.Execution values s result t calls)
    (again : query.Execution values s result' t' calls') :
    result' = result ∧ t' = t ∧ calls' = calls := by
  have same := (again.runs_recorded []).symm.trans (execution.runs_recorded [])
  cases same
  exact ⟨rfl, rfl, rfl⟩

/-- Of two executions under hooks that decide on the context alone, the second makes the calls of
the first with its own values and answers. -/
theorem Execution.alike {values values' : List Value} {s s' t t' : σ}
    {result result' : Except Error (List ρ)} {calls calls' : List Call}
    (decided : ∀ hook ∈ query.hooks, hook.DecidesByContext)
    (execution : query.Execution values s result t calls)
    (again : query.Execution values' s' result' t' calls') :
    calls.map Call.outline = calls'.map Call.outline ∧
      ((∃ place reason, AbortedAt place reason (result, (t, calls)) ∧
          AbortedAt place reason (result', (t', calls'))) ∨
        (Reached (result, (t, calls)) ∧ Reached (result', (t', calls')))) := by
  cases execution with
  | @aborted earlier later hook t u reason chain proceeds asked =>
      have decides : hook.DecidesByContext := decided hook (by rw [chain]; simp)
      have decidedEarlier : ∀ other ∈ earlier, other.DecidesByContext :=
        fun other member => decided other (by rw [chain]; simp [member])
      obtain ⟨w, proceeds'⟩ := proceeds.of_decided decidedEarlier s'
      have action : (hook.before query.context w).1 = .abort reason := by
        rw [decides query.context w t, asked]
      obtain ⟨rfl, rfl, rfl⟩ := Execution.unique
        (.aborted chain proceeds' (Prod.ext action rfl)) again
      have aborts : ∀ v : σ, AbortedAt (0 + earlier.length) reason
          ((.error (.aborted reason) : Except Error (List ρ)),
            (v, Hook.beforeCalls query.context 0 (earlier ++ [hook]))) := by
        intro v
        refine ⟨rfl, ⟨_, Hook.getLast?_beforeCalls query.context 0 earlier hook⟩, ?_⟩
        intro text sent member
        obtain ⟨_, same⟩ := Hook.eq_before_of_mem_beforeCalls member
        cases same
      exact ⟨rfl, Or.inl ⟨_, reason, aborts _, aborts _⟩⟩
  | @sent reply outcome t u v proceeds replied tells informed =>
      obtain ⟨w, proceeds'⟩ := proceeds.of_decided decided s'
      cases replied' : query.connection.send query.statement.text values' w with
      | mk reply' u' =>
          obtain ⟨v', informed'⟩ := Hook.exists_informed query.context reply'.elapsed
            reply'.outcome query.hooks u'
          obtain ⟨rfl, rfl, rfl⟩ := Execution.unique
            (.sent proceeds' replied' (tells_iff.mpr rfl) informed') again
          refine ⟨?_, Or.inr ⟨⟨query.statement.text, values, by simp⟩,
            ⟨query.statement.text, values', by simp⟩⟩⟩
          simp only [List.map_append, List.map_cons]
          rw [Hook.outline_afterCalls query.context reply.elapsed outcome reply'.elapsed
            reply'.outcome]
          rfl

theorem execute_alike (query : Query σ ρ) (values values' : List Value) (s t : σ) :
    Alike query.hooks query.context (query.recorded.execute values (s, []))
      (query.recorded.execute values' (t, [])) := by
  obtain ⟨result, u, calls, execution⟩ := exists_execution query values s
  obtain ⟨result', u', calls', again⟩ := exists_execution query values' t
  rw [execution.runs_recorded [], again.runs_recorded []]
  refine ⟨?_, fun decided => (execution.alike decided again).1,
    fun decided => (execution.alike decided again).2⟩
  intro call member
  rcases List.mem_append.mp member with first | second
  · exact execution.shows call first
  · exact again.shows call second

theorem execute_congr {values values' : List Value}
    (answers : query.connection.send query.statement.text values =
      query.connection.send query.statement.text values') :
    query.execute values = query.execute values' := by
  simp only [execute, executeUnderHooks, answers]

theorem invoke_alike {args args' : Option Args} {s t u v : σ} {values values' : List Value}
    (bound : query.statement.bind args s = (.ok values, u))
    (bound' : query.statement.bind args' t = (.ok values', v)) :
    Alike query.hooks query.context (query.recorded.invoke args (s, []))
      (query.recorded.invoke args' (t, [])) := by
  have aligned := (Statement.supplies_of_bind bound).2.length_eq
  have aligned' := (Statement.supplies_of_bind bound').2.length_eq
  obtain ⟨result, w, calls, execution⟩ := exists_execution query values u
  obtain ⟨result', w', calls', again⟩ := exists_execution query values' v
  rw [(Invocation.bound bound aligned execution).runs_recorded,
    (Invocation.bound bound' aligned' again).runs_recorded]
  refine ⟨?_, ?_, ?_⟩
  · intro call member
    simp only [List.mem_append] at member
    rcases member with (computed | first) | computed | second
    · exact Statement.shows_of_mem_computeCalls computed _
    · exact execution.shows call first
    · exact Statement.shows_of_mem_computeCalls computed _
    · exact again.shows call second
  · intro decided
    rw [List.map_append, List.map_append, (execution.alike decided again).1,
      Statement.outline_computeCalls (args.getD .empty) (args'.getD .empty)]
  · intro decided
    rcases (execution.alike decided again).2 with
      ⟨place, reason, aborted, aborted'⟩ | ⟨⟨text, sent, member⟩, text', sent', member'⟩
    · exact Or.inl ⟨place, reason,
        aborted.after fun _ _ => Statement.send_not_mem_computeCalls,
        aborted'.after fun _ _ => Statement.send_not_mem_computeCalls⟩
    · exact Or.inr ⟨⟨text, sent, List.mem_append_right _ member⟩,
        ⟨text', sent', List.mem_append_right _ member'⟩⟩

end Query

end SqlTemplate
