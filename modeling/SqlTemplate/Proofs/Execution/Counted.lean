import Mathlib.Logic.Function.Iterate
import SqlTemplate.Monitor.Stats
import SqlTemplate.Proofs.Execution.Mirrored
import SqlTemplate.Proofs.Monitor.Chains

/-!
What statistics count. Where the hook that keeps them stands once in the chain of every query, they
count the statements that reach a connection: one for one, and those that it refuses as failures.
-/

namespace SqlTemplate

variable {σ ρ : Type}

def Reply.failed (reply : Reply ρ) : Bool :=
  match reply.result with
  | .ok _ => false
  | .error _ => true

structure Answered where
  text : String
  values : List Value
  failed : Bool

structure Tally where
  answered : List Answered
  stats : Stats

namespace Tally

def start : Tally := ⟨[], .empty⟩

structure Counts (tally : Tally) : Prop where
  calls : tally.stats.calls = tally.answered.length
  failures : tally.stats.failures = tally.answered.countP Answered.failed

def add (tally : Tally) (context : Context) (text : String) (values : List Value)
    (reply : Reply ρ) : Tally :=
  ⟨tally.answered ++ [⟨text, values, reply.failed⟩],
    tally.stats.record context reply.elapsed reply.outcome⟩

end Tally

def Connection.tallied (connection : Connection σ ρ) : Connection (σ × Tally) ρ :=
  ⟨fun text values s =>
    let answer := connection.send text values s.1
    (answer.1, (answer.2, { s.2 with
      answered := s.2.answered ++ [⟨text, values, answer.1.failed⟩] }))⟩

namespace Hook

/-- The hook that keeps the statistics, or another. Others may read them, but not change them. -/
def countingOr : Option (Stats → Hook σ) → Hook (σ × Tally)
  | none => Stats.hook fun change s => (s.1, { s.2 with stats := change s.2.stats })
  | some other =>
    ⟨fun context s => beside ((other s.2.stats).before context) s,
      fun context elapsed outcome s => beside ((other s.2.stats).after context elapsed outcome) s⟩

end Hook

structure Counted (σ ρ : Type) where
  connection : Connection σ ρ
  statement : Statement (Compute σ)
  tag : Option String
  chain : Composite (Option (Stats → Hook σ))
  once : chain.leaves.countP Option.isNone = 1

namespace Counted

def query (counted : Counted σ ρ) : Query (σ × Tally) ρ :=
  ⟨counted.connection.tallied, counted.statement.beside,
    counted.chain.hooks Hook.countingOr, counted.tag⟩

def runAll (run : List (Counted σ ρ × Option Args)) :
    StateM (σ × Tally) (List (Except Error (List ρ))) :=
  run.mapM fun invoked => invoked.1.query.invoke invoked.2

/-- What an invocation makes of a tally: nothing if it fails to bind or a hook aborts it, wherever
the hook stands, and else one more statement. -/
inductive Tallies (counted : Counted σ ρ) (args : Option Args) (s : σ) (tally : Tally) :
    Except Error (List ρ) → Tally → Prop
  | unbound {e : BindError} {t : σ} : counted.statement.bind args s = (.error e, t) →
      Tallies counted args s tally (.error (.bind e)) tally
  | aborted {values : List Value} {t : σ} {u : σ × Tally} {reason : String} :
      counted.statement.bind args s = (.ok values, t) →
      Hook.beforeAll counted.query.context counted.query.hooks (t, tally) = (.abort reason, u) →
      Tallies counted args s tally (.error (.aborted reason)) tally
  | sent {values : List Value} {t : σ} {u : σ × Tally} {reply : Reply ρ} {v : σ} :
      counted.statement.bind args s = (.ok values, t) →
      Hook.beforeAll counted.query.context counted.query.hooks (t, tally) = (.proceed, u) →
      counted.connection.send counted.statement.text values u.1 = (reply, v) →
      Tallies counted args s tally reply.result
        (tally.add counted.query.context counted.statement.text values reply)

end Counted

@[simp]
theorem Reply.isFailure_outcome (reply : Reply ρ) : reply.outcome.isFailure = reply.failed := by
  obtain ⟨result, elapsed⟩ := reply
  cases result <;> rfl

theorem Tally.Counts.add {tally : Tally} (counts : tally.Counts) (context : Context)
    (text : String) (values : List Value) (reply : Reply ρ) :
    (tally.add context text values reply).Counts where
  calls := by simp [Tally.add, Stats.record, counts.calls]
  failures := by
    simp [Tally.add, Stats.record, counts.failures, List.countP_singleton]

theorem Statement.bind_beside {τ : Type} {statement : Statement (Compute σ)} {args : Option Args}
    {s t : σ} {bound : Except BindError (List Value)} (binds : statement.bind args s = (bound, t))
    (extra : τ) : statement.beside.bind args (s, extra) = (bound, (t, extra)) := by
  have mirrored := (statement.mirrored_beside extra).bind args s (s, extra) rfl
  rw [binds] at mirrored
  exact Prod.ext mirrored.1 mirrored.2

namespace Hook

theorem beforeAll_countingOr (labels : List (Option (Stats → Hook σ))) (context : Context)
    (s : σ × Tally) :
    (beforeAll context (labels.map countingOr) s).2.2 = s.2 := by
  induction labels generalizing s with
  | nil => rfl
  | cons label rest ih =>
      have asked : ((countingOr label).before context s).2.2 = s.2 := by
        cases label <;> rfl
      rw [List.map_cons, beforeAll, bind_apply]
      cases ((countingOr label).before context s).1 with
      | abort reason => exact asked
      | proceed => rw [ih, asked]

theorem afterAll_countingOr (labels : List (Option (Stats → Hook σ))) (context : Context)
    (elapsed : Nat) (outcome : Outcome) (s : σ × Tally) :
    (afterAll context elapsed outcome (labels.map countingOr) s).2.2 =
      ⟨s.2.answered, (fun stats : Stats => stats.record context elapsed outcome)^[
        labels.countP Option.isNone] s.2.stats⟩ := by
  induction labels generalizing s with
  | nil => rfl
  | cons label rest ih =>
      rw [List.map_cons, afterAll, bind_apply, ih]
      cases label with
      | none =>
          rw [List.countP_cons_of_pos rfl, Function.iterate_succ_apply]
          rfl
      | some other => rfl

end Hook

namespace Counted

variable {counted : Counted σ ρ}

theorem beforeAll_query {context : Context} {s u : σ × Tally} {action : Action}
    (asked : Hook.beforeAll context counted.query.hooks s = (action, u)) : u.2 = s.2 := by
  rw [query, Composite.beforeAll_hooks] at asked
  have unchanged := Hook.beforeAll_countingOr counted.chain.leaves context s
  rwa [asked] at unchanged

theorem send_query {text : String} {values : List Value} {u : σ × Tally} {reply : Reply ρ} {v : σ}
    (replied : counted.connection.send text values u.1 = (reply, v)) :
    counted.query.connection.send text values u =
      (reply, (v, ⟨u.2.answered ++ [⟨text, values, reply.failed⟩], u.2.stats⟩)) := by
  simp only [query, Connection.tallied, replied]

theorem afterAll_query (context : Context) (elapsed : Nat) (outcome : Outcome) (s : σ × Tally) :
    (Hook.afterAll context elapsed outcome counted.query.hooks s).2.2 =
      ⟨s.2.answered, s.2.stats.record context elapsed outcome⟩ := by
  rw [query, Composite.afterAll_hooks, Hook.afterAll_countingOr, counted.once]
  rfl

theorem tallies_invoke (counted : Counted σ ρ) (args : Option Args) (s : σ) (tally : Tally) :
    Tallies counted args s tally (counted.query.invoke args (s, tally)).1
      (counted.query.invoke args (s, tally)).2.2 := by
  cases binds : counted.statement.bind args s with
  | mk bound t =>
      have binds' := Statement.bind_beside binds tally
      cases bound with
      | error e =>
          rw [Query.invoke_of_unbound binds']
          exact .unbound binds
      | ok values =>
          rw [Query.invoke_of_bound binds']
          cases asked : Hook.beforeAll counted.query.context counted.query.hooks (t, tally) with
          | mk action u =>
              have unchanged := beforeAll_query asked
              cases action with
              | abort reason =>
                  rw [Query.execute_of_abort asked, unchanged]
                  exact .aborted binds asked
              | proceed =>
                  cases replied : counted.connection.send counted.statement.text values u.1 with
                  | mk reply v =>
                      have replied' := send_query replied
                      rw [Query.execute_of_proceed asked replied' rfl, afterAll_query, unchanged]
                      exact .sent binds asked replied

theorem Tallies.counts {args : Option Args} {s : σ} {tally later : Tally}
    {result : Except Error (List ρ)} (tallies : Tallies counted args s tally result later)
    (counts : tally.Counts) : later.Counts := by
  cases tallies with
  | unbound _ => exact counts
  | aborted _ _ => exact counts
  | sent _ _ _ => exact counts.add _ _ _ _

theorem counts_runAll (run : List (Counted σ ρ × Option Args)) (s : σ) {tally : Tally}
    (counts : tally.Counts) : (runAll run (s, tally)).2.2.Counts := by
  induction run generalizing s tally with
  | nil => exact counts
  | cons invoked rest ih =>
      have first := (tallies_invoke invoked.1 invoked.2 s tally).counts counts
      rw [runAll, mapM_cons_apply]
      exact ih _ first

/-- After any run the statistics count what connections were sent, and what of it failed. An
invocation adds one statement to both, or nothing if it fails to bind or is aborted. The counters
here have no end; counters of 64 bits agree with them for less than 2⁶⁴ statements. -/
theorem stats_count_statements (run : List (Counted σ ρ × Option Args)) (s : σ) :
    (runAll run (s, .start)).2.2.Counts ∧
    ∀ (counted : Counted σ ρ) (args : Option Args) (t : σ) (tally : Tally),
      Tallies counted args t tally (counted.query.invoke args (t, tally)).1
        (counted.query.invoke args (t, tally)).2.2 :=
  ⟨counts_runAll run s ⟨rfl, rfl⟩, tallies_invoke⟩

def onlyFirst (stats : Stats) : Hook Unit :=
  ⟨fun _ => pure (if stats.calls = 0 then .proceed else .abort "one is enough"),
    fun _ _ _ => pure ()⟩

/-- A statement that is refused, with a limit in front of a chain that holds the statistics. -/
def refused : Counted Unit Unit where
  connection := ⟨fun _ _ => pure ⟨.error (.connection "refused"), 0⟩⟩
  statement := ⟨"SELECT 1", []⟩
  tag := none
  chain := .hook (some onlyFirst) (.chain (.hook none .nil) .nil)
  once := by decide

def refusedTwice : List (Except Error (List Unit)) × Unit × Tally :=
  runAll [(refused, none), (refused, none)] ((), .start)

theorem stats_count_statements_limit :
    refusedTwice.1 = [.error (.connection "refused"), .error (.aborted "one is enough")] ∧
      refusedTwice.2.2.answered = [⟨"SELECT 1", [], true⟩] ∧
      refusedTwice.2.2.stats.calls = 1 ∧ refusedTwice.2.2.stats.failures = 1 := by
  have counts := (stats_count_statements [(refused, none), (refused, none)] ()).1
  exact ⟨rfl, rfl, counts.calls, counts.failures⟩

end Counted

end SqlTemplate
