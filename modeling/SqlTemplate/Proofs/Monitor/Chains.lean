import SqlTemplate.Proofs.Execution.Protocol

/-!
Chains of hooks in which other chains stand as hooks. A nested chain is the chain of the hooks at
its leaves, from left to right: they are asked up to the first that aborts, and all are told.
-/

namespace SqlTemplate

variable {σ ι : Type}

namespace Hook

inductive Request
  | before (context : Context)
  | after (context : Context) (elapsed : Nat) (outcome : Outcome)

def answer (hook : Hook σ) : Request → StateM σ (Option Action)
  | .before context => do
    let action ← hook.before context
    pure (some action)
  | .after context elapsed outcome => do
    hook.after context elapsed outcome
    pure none

inductive Answers (hooks : List (Hook σ)) : Request → σ → Option Action → σ → Prop
  | proceeds {context : Context} {s t : σ} : Proceeds context hooks s t →
      Answers hooks (.before context) s (some .proceed) t
  | aborts {context : Context} {earlier later : List (Hook σ)} {hook : Hook σ} {s t u : σ}
      {reason : String} : hooks = earlier ++ hook :: later → Proceeds context earlier s t →
      hook.before context t = (.abort reason, u) →
      Answers hooks (.before context) s (some (.abort reason)) u
  | informed {context : Context} {elapsed : Nat} {outcome : Outcome} {s t : σ} :
      Informed context elapsed outcome hooks s t →
      Answers hooks (.after context elapsed outcome) s none t

inductive AnswersAll (hooks : List (Hook σ)) :
    List Request → σ → List (Option Action) → σ → Prop
  | done {s : σ} : AnswersAll hooks [] s [] s
  | next {request : Request} {rest : List Request} {answer : Option Action}
      {answers : List (Option Action)} {s t u : σ} : Answers hooks request s answer t →
      AnswersAll hooks rest t answers u → AnswersAll hooks (request :: rest) s (answer :: answers) u

theorem Answers.runs {hooks : List (Hook σ)} {request : Request} {answer : Option Action} {s t : σ}
    (answers : Answers hooks request s answer t) :
    (ofChain hooks).answer request s = (answer, t) := by
  cases answers with
  | proceeds proceeds => simp [Hook.answer, ofChain, proceeds.runs]
  | aborts chain proceeds asked =>
      rw [chain]
      simp [Hook.answer, ofChain, proceeds.aborts asked]
  | informed informed => simp [Hook.answer, ofChain, informed.runs]

theorem exists_answers (hooks : List (Hook σ)) (request : Request) (s : σ) :
    ∃ answer t, Answers hooks request s answer t := by
  cases request with
  | before context =>
      rcases proceeds_or_aborts context hooks s with
        ⟨t, proceeds⟩ | ⟨earlier, hook, later, t, u, reason, chain, proceeds, asked⟩
      · exact ⟨_, t, .proceeds proceeds⟩
      · exact ⟨_, u, .aborts chain proceeds asked⟩
  | after context elapsed outcome =>
      obtain ⟨t, informed⟩ := exists_informed context elapsed outcome hooks s
      exact ⟨none, t, .informed informed⟩

theorem answers_iff {hooks : List (Hook σ)} {request : Request} {answer : Option Action} {s t : σ} :
    Answers hooks request s answer t ↔ (ofChain hooks).answer request s = (answer, t) := by
  constructor
  · exact Answers.runs
  · intro ran
    obtain ⟨other, u, answers⟩ := exists_answers hooks request s
    rw [answers.runs] at ran
    cases ran
    exact answers

theorem answersAll_iff {hooks : List (Hook σ)} {requests : List Request}
    {answers : List (Option Action)} {s t : σ} :
    AnswersAll hooks requests s answers t ↔
      requests.mapM (ofChain hooks).answer s = (answers, t) := by
  induction requests generalizing s answers with
  | nil =>
      constructor
      · rintro ⟨⟩
        rfl
      · rintro ⟨⟩
        exact .done
  | cons request rest ih =>
      rw [mapM_cons_apply]
      constructor
      · intro all
        cases all with
        | next first later =>
            have ran := ih.mp later
            rw [first.runs, ran]
      · rintro ⟨⟩
        exact .next (answers_iff.mpr rfl) (ih.mpr rfl)

theorem beforeAll_append (context : Context) (first second : List (Hook σ)) :
    beforeAll context (first ++ second) =
      beforeAll context first >>= fun action =>
        match action with
        | .abort reason => pure (.abort reason)
        | .proceed => beforeAll context second := by
  induction first with
  | nil => rfl
  | cons hook rest ih =>
      funext s
      simp only [List.cons_append, beforeAll, bind_apply, ih]
      cases (hook.before context s).1 <;> rfl

theorem afterAll_append (context : Context) (elapsed : Nat) (outcome : Outcome)
    (first second : List (Hook σ)) :
    afterAll context elapsed outcome (first ++ second) =
      afterAll context elapsed outcome first >>= fun _ =>
        afterAll context elapsed outcome second := by
  induction first with
  | nil => rfl
  | cons hook rest ih =>
      funext s
      simp [afterAll, ih]

end Hook

/-- A chain of labels, in which other chains may stand at any place. -/
inductive Composite (ι : Type)
  | nil
  | hook (label : ι) (rest : Composite ι)
  | chain (inner rest : Composite ι)

namespace Composite

/-- The hooks of a chain; a chain in it counts as one. -/
def hooks (leaf : ι → Hook σ) : Composite ι → List (Hook σ)
  | nil => []
  | hook label rest => leaf label :: rest.hooks leaf
  | chain inner rest => Hook.ofChain (inner.hooks leaf) :: rest.hooks leaf

def leaves : Composite ι → List ι
  | nil => []
  | hook label rest => label :: rest.leaves
  | chain inner rest => inner.leaves ++ rest.leaves

def only (keep : ι → Bool) : Composite ι → Composite ι
  | nil => nil
  | hook label rest => if keep label then hook label (rest.only keep) else rest.only keep
  | chain inner rest => chain (inner.only keep) (rest.only keep)

@[simp] theorem leaves_only (keep : ι → Bool) (composite : Composite ι) :
    (composite.only keep).leaves = composite.leaves.filter keep := by
  induction composite with
  | nil => rfl
  | hook label rest ih =>
      rw [only, leaves, List.filter_cons, ← ih]
      split <;> rfl
  | chain inner rest ihInner ihRest =>
      rw [only, leaves, leaves, List.filter_append, ihInner, ihRest]

@[simp] theorem beforeAll_hooks (context : Context) (leaf : ι → Hook σ) (composite : Composite ι) :
    Hook.beforeAll context (composite.hooks leaf) =
      Hook.beforeAll context (composite.leaves.map leaf) := by
  induction composite with
  | nil => rfl
  | hook label rest ih => simp only [hooks, leaves, List.map_cons, Hook.beforeAll, ih]
  | chain inner rest ihInner ihRest =>
      -- An abort inside ends the outer chain at the same leaf, since both are asked in order.
      simp only [hooks, leaves, List.map_append, Hook.beforeAll_append, ← ihInner, ← ihRest]
      rfl

@[simp] theorem afterAll_hooks (context : Context) (elapsed : Nat) (outcome : Outcome)
    (leaf : ι → Hook σ) (composite : Composite ι) :
    Hook.afterAll context elapsed outcome (composite.hooks leaf) =
      Hook.afterAll context elapsed outcome (composite.leaves.map leaf) := by
  induction composite with
  | nil => rfl
  | hook label rest ih => simp only [hooks, leaves, List.map_cons, Hook.afterAll, ih]
  | chain inner rest ihInner ihRest =>
      simp only [hooks, leaves, List.map_append, Hook.afterAll_append, ← ihInner, ← ihRest]
      rfl

theorem ofChain_hooks (leaf : ι → Hook σ) (composite : Composite ι) :
    Hook.ofChain (composite.hooks leaf) = Hook.ofChain (composite.leaves.map leaf) := by
  simp [Hook.ofChain]

end Composite

end SqlTemplate
