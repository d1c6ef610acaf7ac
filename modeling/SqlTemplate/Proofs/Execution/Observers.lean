import Mathlib.Logic.Function.Basic
import SqlTemplate.Proofs.Execution.Mirrored
import SqlTemplate.Proofs.Monitor.Chains

/-!
Observers among the hooks. How a chain is nested decides about nothing, and a hook that never aborts
can be taken out of it: whoever is left is called as before, and gives what it gave before.
-/

namespace SqlTemplate

variable {σ ρ α : Type} {τ : Nat → Type}

/-- A state beside which every hook has one of its own; hooks go by labels. -/
abbrev Apart (σ : Type) (τ : Nat → Type) := σ × ∀ label, τ label

def atLabel (label : Nat) (step : StateM (τ label) α) : StateM (Apart σ τ) α :=
  fun s => ((step (s.2 label)).1, (s.1, Function.update s.2 label (step (s.2 label)).2))

namespace Hook

def apart (label : Nat) (hook : Hook (τ label)) : Hook (Apart σ τ) :=
  ⟨fun context => atLabel label (hook.before context),
    fun context elapsed outcome => atLabel label (hook.after context elapsed outcome)⟩

def onRecord (own : ∀ label, Hook (τ label)) (label : Nat) : Hook (Recorded (Apart σ τ)) :=
  ((own label).apart label).recorded label

def Observes {κ : Type} (hook : Hook κ) : Prop :=
  ∀ context s, (hook.before context s).1 = .proceed

end Hook

/-- A query that notes its calls, under the hooks of a chain in place of its own. -/
def Query.under (query : Query σ ρ) (own : ∀ label, Hook (τ label)) (chain : Composite Nat) :
    Query (Recorded (Apart σ τ)) ρ :=
  ⟨query.connection.beside.recorded, query.statement.beside.recorded,
    chain.hooks (Hook.onRecord own), query.tag⟩

def Call.keptBy (keep : Nat → Bool) : Call → Bool
  | .compute _ _ => true
  | .before label _ => keep label
  | .send _ _ => true
  | .after label _ _ _ => keep label

/-- A recorded state and what is left of it when only some hooks are kept: all but the states of the
others and the calls to them. -/
structure Without (keep : Nat → Bool) (all fewer : Recorded (Apart σ τ)) : Prop where
  world : fewer.1.1 = all.1.1
  own : ∀ label, keep label = true → fewer.1.2 label = all.1.2 label
  calls : fewer.2 = all.2.filter (Call.keptBy keep)

variable {keep : Nat → Bool} {call : Call}

theorem noting_beside_mirrors (kept : call.keptBy keep = true) (step : StateM σ α) :
    Mirrors (Without (σ := σ) (τ := τ) keep) (noting call (beside step))
      (noting call (beside step)) := by
  intro all fewer left
  simp only [noting, beside, left.world, true_and]
  exact ⟨rfl, left.own, by simp [left.calls, kept]⟩

theorem noting_atLabel_mirrors {label : Nat} (to_label : call.keptBy keep = keep label)
    (kept : keep label = true) (step : StateM (τ label) α) :
    Mirrors (Without (σ := σ) keep) (noting call (atLabel label step))
      (noting call (atLabel label step)) := by
  intro all fewer left
  simp only [noting, atLabel, left.own label kept, true_and]
  refine ⟨left.world, ?_, by simp [left.calls, to_label, kept]⟩
  intro other other_kept
  by_cases here : other = label
  · subst here
    simp
  · simp [here, left.own other other_kept]

theorem Without.unnoticed {label : Nat} {all fewer : Recorded (Apart σ τ)}
    (left : Without keep all fewer) (to_label : call.keptBy keep = keep label)
    (gone : keep label = false) (step : StateM (τ label) α) :
    Without keep (noting call (atLabel label step) all).2 fewer where
  world := left.world
  own := by
    intro other other_kept
    have different : other ≠ label := by
      rintro rfl
      rw [gone] at other_kept
      cases other_kept
    simp [noting, atLabel, different, left.own other other_kept]
  calls := by simp [noting, left.calls, to_label, gone]

section

variable {own : ∀ label, Hook (τ label)} {label : Nat} {labels : List Nat}

theorem onRecord_mirrored (kept : keep label = true) :
    Hook.Mirrored (Without (σ := σ) keep) (Hook.onRecord own label) (Hook.onRecord own label) where
  before := fun context => noting_atLabel_mirrors rfl kept ((own label).before context)
  after := fun context elapsed outcome =>
    noting_atLabel_mirrors rfl kept ((own label).after context elapsed outcome)

theorem Without.unasked {all fewer : Recorded (Apart σ τ)} (left : Without keep all fewer)
    (gone : keep label = false) (context : Context) :
    Without keep ((Hook.onRecord own label).before context all).2 fewer :=
  left.unnoticed rfl gone ((own label).before context)

theorem Without.untold {all fewer : Recorded (Apart σ τ)} (left : Without keep all fewer)
    (gone : keep label = false) (context : Context) (elapsed : Nat) (outcome : Outcome) :
    Without keep ((Hook.onRecord own label).after context elapsed outcome all).2 fewer :=
  left.unnoticed rfl gone ((own label).after context elapsed outcome)

theorem beforeAll_filter_mirrors (context : Context)
    (observes : ∀ label ∈ labels, keep label = false → (own label).Observes) :
    Mirrors (Without (σ := σ) keep) (Hook.beforeAll context (labels.map (Hook.onRecord own)))
      (Hook.beforeAll context ((labels.filter keep).map (Hook.onRecord own))) := by
  induction labels with
  | nil => exact .pure _
  | cons label rest ih =>
      obtain ⟨here, later⟩ := List.forall_mem_cons.mp observes
      rw [List.filter_cons]
      cases kept : keep label with
      | true =>
          refine ((onRecord_mirrored kept).before context).bind fun action => ?_
          cases action with
          | abort reason => exact .pure _
          | proceed => exact ih later
      | false =>
          intro all fewer left
          have goesOn : ((Hook.onRecord own label).before context all).1 = .proceed :=
            here kept context (all.1.2 label)
          -- The hook that is left out goes on, so the rest is asked in either chain.
          rw [List.map_cons, Hook.beforeAll, bind_apply, goesOn]
          exact ih later _ fewer (left.unasked kept context)

theorem afterAll_filter_mirrors (context : Context) (elapsed : Nat) (outcome : Outcome) :
    Mirrors (Without (σ := σ) keep)
      (Hook.afterAll context elapsed outcome (labels.map (Hook.onRecord own)))
      (Hook.afterAll context elapsed outcome ((labels.filter keep).map (Hook.onRecord own))) := by
  induction labels with
  | nil => exact .pure _
  | cons label rest ih =>
      rw [List.filter_cons]
      cases kept : keep label with
      | true =>
          exact ((onRecord_mirrored kept).after context elapsed outcome).bind fun _ => ih
      | false =>
          intro all fewer left
          exact ih _ fewer (left.untold kept context elapsed outcome)

end

theorem Param.allRecorded_mirrored (place : Nat) (params : List (Param (Compute σ))) :
    List.Forall₂ (Param.Mirrored (Without (τ := τ) keep))
      (Param.allRecorded place (params.map Param.beside))
      (Param.allRecorded place (params.map Param.beside)) := by
  induction params generalizing place with
  | nil => exact .nil
  | cons param rest ih =>
      refine .cons ?_ (ih (place + 1))
      obtain ⟨name, type, source⟩ := param
      cases source with
      | named => exact .named name type
      | computed compute =>
          exact .computed name type fun bag => noting_beside_mirrors rfl (compute bag)

theorem Query.under_mirrored (query : Query σ ρ) {own : ∀ label, Hook (τ label)}
    {chain fewer : Composite Nat}
    (observes : ∀ label ∈ chain.leaves, keep label = false → (own label).Observes)
    (left : fewer.leaves = chain.leaves.filter keep) :
    (query.under own chain).Mirrored (Without keep) (query.under own fewer) where
  connection := fun text values => noting_beside_mirrors rfl (query.connection.send text values)
  statement := ⟨rfl, Param.allRecorded_mirrored 0 query.statement.params⟩
  chain := by
    rw [Query.under, Query.under, Composite.ofChain_hooks, Composite.ofChain_hooks, left]
    exact ⟨fun context => beforeAll_filter_mirrors context observes, afterAll_filter_mirrors⟩
  tag := rfl

namespace Composite

/-- A nested chain answers all calls as the flat chain of its leaves does, which are called in
order, and so does every chain with these leaves. From the chain of a query, hooks that never abort
can be taken away: the results stay, and so do the calls to all others and the states of them. -/
theorem flat_and_observers_unnoticed (own : ∀ label, Hook (τ label)) (chain : Composite Nat) :
    (∀ requests : List Hook.Request,
      requests.mapM (Hook.ofChain (chain.hooks (Hook.onRecord (σ := σ) own))).answer =
        requests.mapM (Hook.ofChain (chain.leaves.map (Hook.onRecord own))).answer ∧
      ∀ (s t : Recorded (Apart σ τ)) (answers : List (Option Action)),
        requests.mapM (Hook.ofChain (chain.hooks (Hook.onRecord own))).answer s = (answers, t) ↔
          Hook.AnswersAll (chain.leaves.map (Hook.onRecord own)) requests s answers t) ∧
    (∀ other : Composite Nat, other.leaves = chain.leaves →
      Hook.ofChain (other.hooks (Hook.onRecord (σ := σ) own)) =
        Hook.ofChain (chain.hooks (Hook.onRecord own))) ∧
    ∀ (query : Query σ ρ) (keep : Nat → Bool) (fewer : Composite Nat),
      (∀ label ∈ chain.leaves, keep label = false → (own label).Observes) →
      fewer.leaves = chain.leaves.filter keep →
      ∀ (bags : List (Option Args)) (s : Apart σ τ),
        (bags.mapM (query.under own fewer).invoke (s, [])).1 =
          (bags.mapM (query.under own chain).invoke (s, [])).1 ∧
        Without keep (bags.mapM (query.under own chain).invoke (s, [])).2
          (bags.mapM (query.under own fewer).invoke (s, [])).2 := by
  refine ⟨?_, ?_, ?_⟩
  · intro requests
    rw [ofChain_hooks]
    exact ⟨rfl, fun s t answers => Hook.answersAll_iff.symm⟩
  · intro other same
    rw [ofChain_hooks, ofChain_hooks, same]
  · intro query keep fewer observes left bags s
    have mirrored := query.under_mirrored observes left
    exact Mirrors.mapM mirrored.invoke bags (s, []) (s, []) ⟨rfl, fun _ _ => rfl, rfl⟩

/-- Hooks on a number each: the first aborts from the second question on, the others count what they
are told. -/
def limitAndCounters : Nat → Hook Nat
  | 0 => ⟨fun _ asked => (if asked = 0 then .proceed else .abort "one is enough", asked + 1),
      fun _ _ _ => pure ()⟩
  | _ => ⟨fun _ => pure .proceed, fun _ _ _ => modify (· + 1)⟩

def oneRow : Query Unit Unit :=
  { connection := ⟨fun _ _ => pure ⟨.ok [()], 0⟩⟩
    statement := ⟨"SELECT 1", []⟩
    hooks := []
    tag := none }

def limitBetweenCounters : Composite Nat :=
  .chain (.hook 1 .nil) (.hook 0 (.chain .nil (.hook 2 .nil)))

theorem flat_and_observers_unnoticed_limit :
    ([none, none].mapM (oneRow.under limitAndCounters
        (limitBetweenCounters.only (· == 0))).invoke (((), fun _ => 0), [])).1 =
      [.ok [()], .error (.aborted "one is enough")] ∧
    ([none, none].mapM (oneRow.under limitAndCounters limitBetweenCounters).invoke
        (((), fun _ => 0), [])).1 =
      [.ok [()], .error (.aborted "one is enough")] := by
  have observes : ∀ label ∈ limitBetweenCounters.leaves, (label == 0) = false →
      (limitAndCounters label).Observes := by
    intro label member other
    match label with
    | 0 => cases other
    | _ + 1 => exact fun _ _ => rfl
  have unnoticed := (flat_and_observers_unnoticed limitAndCounters limitBetweenCounters).2.2 oneRow
    (· == 0) (limitBetweenCounters.only (· == 0)) observes
    (leaves_only (· == 0) limitBetweenCounters) [none, none] ((), fun _ => 0)
  exact ⟨rfl, unnoticed.1.symm.trans rfl⟩

end Composite

end SqlTemplate
