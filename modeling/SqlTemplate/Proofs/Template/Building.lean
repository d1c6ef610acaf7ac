import SqlTemplate.Proofs.Template.Slots
import SqlTemplate.Template.Builder

/-!
Templates built step by step. What is compiled depends on the text between the computations and not
on the steps it came in: a spliced value is the text it is displayed as, and text may be cut between
any two characters, within a placeholder too.
-/

namespace SqlTemplate

namespace Template

open Direct

variable {τ : Type}

inductive Step (τ : Type)
  | text (literal : String)
  | raw (value : Value)
  | computed (compute : τ)

def Step.embedded? : Step τ → Option (Embedded τ)
  | .text _ => none
  | .raw value => some (.raw value)
  | .computed compute => some (.computed compute)

def take (template : Template τ) : Step τ → Template τ
  | .text literal => template.text literal
  | .raw value => template.raw value
  | .computed compute => template.computed compute

def build (opening : String) (steps : List (Step τ)) : Template τ :=
  steps.foldl take (start opening)

/-- The same text and computations, in other steps. -/
inductive Recut : String → List (Step τ) → String → List (Step τ) → Prop
  | shown (opening : String) (before after : List (Step τ)) (value : Value) :
      Recut opening (before ++ .raw value :: after) opening (before ++ .text value.display :: after)
  | merged (opening : String) (before after : List (Step τ)) (first second : String) :
      Recut opening (before ++ .text first :: .text second :: after)
        opening (before ++ .text (first ++ second) :: after)
  | opened (opening literal : String) (after : List (Step τ)) :
      Recut opening (.text literal :: after) (opening ++ literal) after
  | refl (opening : String) (steps : List (Step τ)) : Recut opening steps opening steps
  | symm {opening opening' : String} {steps steps' : List (Step τ)} :
      Recut opening steps opening' steps' → Recut opening' steps' opening steps
  | trans {opening opening' opening'' : String} {steps steps' steps'' : List (Step τ)} :
      Recut opening steps opening' steps' → Recut opening' steps' opening'' steps'' →
      Recut opening steps opening'' steps''

/-- What a step adds: text, or a computation with no text behind it yet. -/
def Step.added : Step τ → List Char × List (τ × List Char)
  | .text literal => (literal.toList, [])
  | .raw value => (value.display.toList, [])
  | .computed compute => ([], [(compute, [])])

/-- Stretches of text behind others: the last of the first ones goes on. -/
def joined (first : List Char) :
    List (τ × List Char) → List Char × List (τ × List Char) → List Char × List (τ × List Char)
  | [], (text, more) => (first ++ text, more)
  | (compute, after) :: later, added =>
    (first, (compute, (joined after later added).1) :: (joined after later added).2)

theorem joined_append (text first : List Char) (later : List (τ × List Char))
    (added : List Char × List (τ × List Char)) :
    joined (text ++ first) later added =
      (text ++ (joined first later added).1, (joined first later added).2) := by
  cases later <;> simp [joined]

theorem joined_joined (first text more : List Char) (later : List (τ × List Char)) :
    joined (joined first later (text, [])).1 (joined first later (text, [])).2 (more, []) =
      joined first later (text ++ more, []) := by
  induction later generalizing first with
  | nil => simp [joined]
  | cons entry later ih => simp [joined, ih]

theorem appendLast_cons {text fragment : String} {fragments : List String}
    (filled : fragments ≠ []) :
    appendLast text (fragment :: fragments) = fragment :: appendLast text fragments := by
  obtain ⟨second, rest, rfl⟩ := List.exists_cons_of_ne_nil filled
  rfl

theorem stretches_appendLast (text : String) {fragments : List String}
    {embedded : List (Embedded τ)} (balanced : fragments.length = embedded.length + 1) :
    stretches (appendLast text fragments) embedded =
      joined (stretches fragments embedded).1 (stretches fragments embedded).2
        (text.toList, []) := by
  fun_induction stretches fragments embedded with
  | case1 => simp at balanced
  | case2 fragment rest =>
      have alone : rest = [] := by simpa using balanced
      simp [alone, appendLast, stretches, joined]
  | case3 fragment fragments value embedded ih =>
      have later : fragments.length = embedded.length + 1 := by simpa using balanced
      rw [appendLast_cons (by rintro rfl; simp at later), stretches, ih later, joined_append]
  | case4 fragment fragments compute embedded ih =>
      have later : fragments.length = embedded.length + 1 := by simpa using balanced
      rw [appendLast_cons (by rintro rfl; simp at later), stretches, ih later, joined]

theorem stretches_embed (step : Step τ) {value : Embedded τ} (embeds : step.embedded? = some value)
    {fragments : List String} {embedded : List (Embedded τ)}
    (balanced : fragments.length = embedded.length + 1) :
    stretches (fragments ++ [""]) (embedded ++ [value]) =
      joined (stretches fragments embedded).1 (stretches fragments embedded).2 step.added := by
  fun_induction stretches fragments embedded with
  | case1 => simp at balanced
  | case2 fragment rest =>
      have alone : rest = [] := by simpa using balanced
      subst alone
      cases step <;> cases embeds <;> simp [stretches, joined, Step.added]
  | case3 fragment fragments value embedded ih =>
      have later : fragments.length = embedded.length + 1 := by simpa using balanced
      rw [List.cons_append, List.cons_append, stretches, ih later, joined_append]
  | case4 fragment fragments compute embedded ih =>
      have later : fragments.length = embedded.length + 1 := by simpa using balanced
      rw [List.cons_append, List.cons_append, stretches, ih later, joined]

theorem stretches_take (template : Template τ) (step : Step τ) :
    stretches (template.take step).fragments (template.take step).embedded =
      joined (stretches template.fragments template.embedded).1
        (stretches template.fragments template.embedded).2 step.added := by
  cases step with
  | text literal => exact stretches_appendLast literal template.alternates
  | raw value => exact stretches_embed (.raw value) rfl template.alternates
  | computed compute => exact stretches_embed (.computed compute) rfl template.alternates

theorem toStatement_congr {template other : Template τ}
    (same : stretches template.fragments template.embedded =
      stretches other.fragments other.embedded) :
    template.toStatement = other.toStatement := by
  rw [toStatement, toStatement, compile_of_balanced template.alternates,
    compile_of_balanced other.alternates, splice_eq, splice_eq, same]

theorem build_append (opening : String) (before after : List (Step τ)) :
    build opening (before ++ after) = after.foldl take (build opening before) := by
  rw [build, List.foldl_append]
  rfl

theorem stretches_foldl_take {template other : Template τ}
    (same : stretches template.fragments template.embedded =
      stretches other.fragments other.embedded) (steps : List (Step τ)) :
    stretches (steps.foldl take template).fragments (steps.foldl take template).embedded =
      stretches (steps.foldl take other).fragments (steps.foldl take other).embedded := by
  induction steps generalizing template other with
  | nil => exact same
  | cons step steps ih => exact ih (by rw [stretches_take, stretches_take, same])

theorem stretches_build_of_recut {opening opening' : String} {steps steps' : List (Step τ)}
    (recut : Recut opening steps opening' steps') :
    stretches (build opening steps).fragments (build opening steps).embedded =
      stretches (build opening' steps').fragments (build opening' steps').embedded := by
  induction recut with
  | shown opening before after value =>
      rw [build_append, build_append]
      refine stretches_foldl_take ?_ after
      rw [stretches_take, stretches_take]
      rfl
  | merged opening before after first second =>
      rw [build_append, build_append]
      refine stretches_foldl_take ?_ after
      simp only [stretches_take, Step.added, joined_joined, String.toList_append]
  | opened opening literal after =>
      refine stretches_foldl_take ?_ after
      rw [stretches_take]
      simp [start, stretches, Step.added, joined]
  | refl => rfl
  | symm _ ih => exact ih.symm
  | trans _ _ ihLeft ihRight => exact ihLeft.trans ihRight

theorem embedded_foldl_take (template : Template τ) (steps : List (Step τ)) :
    (steps.foldl take template).embedded =
      template.embedded ++ steps.filterMap Step.embedded? := by
  induction steps generalizing template with
  | nil => simp
  | cons step steps ih =>
      rw [List.foldl_cons, ih, List.filterMap_cons]
      cases step <;> simp [take, text, raw, computed, embed, Step.embedded?]

theorem resolve_ne_fragmentCount {slots : List (Option τ)} {placeholder : Placeholder}
    {values texts : Nat} : resolve slots placeholder ≠ .error (.fragmentCount values texts) := by
  intro failed
  cases placeholder with
  | named name tag =>
      rw [resolve, Result.bind_eq_error_iff] at failed
      rcases failed with undeclared | ⟨type, _, failed⟩
      · cases tag with
        | none => cases undeclared
        | some tag =>
            rw [ParamType.ofTagIfAny, ParamType.ofTag] at undeclared
            split at undeclared <;> cases undeclared
      · cases failed
  | slot digits =>
      rw [resolve, takeSlot] at failed
      split at failed
      next => cases failed
      next =>
        split at failed
        next => cases failed
        next => split at failed <;> cases failed

theorem resolveAll_ne_fragmentCount {slots : List (Option τ)} {pieces : List Piece}
    {values texts : Nat} : resolveAll slots pieces ≠ .error (.fragmentCount values texts) := by
  induction pieces generalizing slots with
  | nil =>
      intro failed
      cases failed
  | cons piece rest ih =>
      cases piece with
      | char c =>
          rw [resolveAll_char, ne_eq, Result.map_eq_error_iff]
          exact ih
      | mark placeholder =>
          cases first : resolve slots placeholder with
          | error e =>
              rw [resolveAll_mark_error first]
              rintro ⟨⟩
              exact resolve_ne_fragmentCount first
          | ok result =>
              rw [resolveAll_mark first, ne_eq, Result.map_eq_error_iff]
              exact ih

theorem compile_eq_fragmentCount_iff {fragments : List String} {embedded : List (Embedded τ)}
    {values texts : Nat} :
    compile fragments embedded = .error (.fragmentCount values texts) ↔
      fragments.length ≠ embedded.length + 1 ∧ values = embedded.length ∧
        texts = fragments.length := by
  by_cases balanced : fragments.length = embedded.length + 1
  · refine iff_of_false ?_ fun wrong => wrong.1 balanced
    rw [compile_of_balanced balanced, Result.bind_eq_error_iff]
    rintro (failed | ⟨⟨segments, left⟩, _, failed⟩)
    · exact resolveAll_ne_fragmentCount failed
    · dsimp only at failed
      split at failed <;> cases failed
  · rw [compile, if_neg balanced]
    simp [balanced, eq_comm]

/-- Whatever the steps, the template has the values of its steps, with one fragment more; the number
of its fragments is never reported; and the same text and computations in other steps are the same
statement, or fail alike. -/
theorem toStatement_recut {opening opening' : String} {steps steps' : List (Step τ)}
    (recut : Recut opening steps opening' steps') :
    (build opening steps).embedded = steps.filterMap Step.embedded? ∧
      (build opening steps).fragments.length = (steps.filterMap Step.embedded?).length + 1 ∧
      (∀ values texts, (build opening steps).toStatement ≠ .error (.fragmentCount values texts)) ∧
      (build opening steps).toStatement = (build opening' steps').toStatement := by
  have embedded : (build opening steps).embedded = steps.filterMap Step.embedded? :=
    embedded_foldl_take (start opening) steps
  refine ⟨embedded, ?_, ?_, toStatement_congr (stretches_build_of_recut recut)⟩
  · rw [← embedded]
    exact (build opening steps).alternates
  · intro values texts failed
    exact (compile_eq_fragmentCount_iff.mp failed).1 (build opening steps).alternates

theorem toStatement_recut_scattered :
    let opening := "SELECT * FROM t WHERE id = $"
    let steps : List (Step Nat) :=
      [.text "(u", .raw (.text "id"), .text "):int", .text "eger AND a = ", .computed 7]
    let steps' : List (Step Nat) := [.text "(uid):integer AND a = ", .computed 7]
    Recut opening steps opening steps' ∧
      (build opening steps).toStatement = (build opening steps').toStatement ∧
      (build opening steps).toStatement.toOption = some
        ⟨"SELECT * FROM t WHERE id = $1 AND a = $2",
          [⟨"uid", .integer, .named⟩, ⟨"__transform_0__", .string, .computed 7⟩]⟩ := by
  intro opening steps steps'
  have recut : Recut opening steps opening steps' := by
    refine .trans (.shown opening [.text "(u"] _ (.text "id")) ?_
    refine .trans (.merged opening [] _ "(u" "id") ?_
    refine .trans (.merged opening [] _ "(uid" "):int") ?_
    exact .merged opening [] [.computed 7] "(uid):int" "eger AND a = "
  exact ⟨recut, (toStatement_recut recut).2.2.2, by decide +kernel⟩

end Template

end SqlTemplate
