import SqlTemplate.Proofs.Result
import SqlTemplate.Template.Compile

/-!
What is left of the pieces of a template once its placeholders are resolved. The text depends on
where placeholders stand and not on what they are; each of them gives one parameter; and each slot
that is read takes one computation.
-/

namespace SqlTemplate.Template

variable {τ : Type}

/-- The text of some pieces, with markers counted from `next` in place of the placeholders. -/
def textOfPieces (next : Nat) : List Piece → List Char
  | [] => []
  | .char c :: rest => c :: textOfPieces next rest
  | .mark _ :: rest => Statement.marker next ++ textOfPieces (next + 1) rest

def markCount : List Piece → Nat
  | [] => 0
  | .char _ :: rest => markCount rest
  | .mark _ :: rest => markCount rest + 1

def slotCount : List Piece → Nat
  | [] => 0
  | .char _ :: rest => slotCount rest
  | .mark (.named _ _) :: rest => slotCount rest
  | .mark (.slot _) :: rest => slotCount rest + 1

inductive Resolved : List (Option τ) → List Piece → List (Statement.Segment τ) →
    List (Option τ) → Prop
  | done {slots : List (Option τ)} : Resolved slots [] [] slots
  | char {slots left : List (Option τ)} {c : Char} {pieces : List Piece}
      {segments : List (Statement.Segment τ)} : Resolved slots pieces segments left →
      Resolved slots (.char c :: pieces) (.char c :: segments) left
  | mark {slots taken left : List (Option τ)} {placeholder : Placeholder} {param : Param τ}
      {pieces : List Piece} {segments : List (Statement.Segment τ)} :
      resolve slots placeholder = .ok (param, taken) → Resolved taken pieces segments left →
      Resolved slots (.mark placeholder :: pieces) (.param param :: segments) left

theorem resolved_of_resolveAll {slots left : List (Option τ)} {pieces : List Piece}
    {segments : List (Statement.Segment τ)}
    (resolved : resolveAll slots pieces = .ok (segments, left)) :
    Resolved slots pieces segments left := by
  induction pieces generalizing slots segments with
  | nil =>
      cases resolved
      exact .done
  | cons piece rest ih =>
      cases piece with
      | char c =>
          rw [resolveAll_char, Result.map_eq_ok_iff] at resolved
          obtain ⟨⟨later, out⟩, tail, same⟩ := resolved
          cases same
          exact .char (ih tail)
      | mark placeholder =>
          cases first : resolve slots placeholder with
          | error e =>
              rw [resolveAll_mark_error first] at resolved
              cases resolved
          | ok result =>
              obtain ⟨param, taken⟩ := result
              rw [resolveAll_mark first, Result.map_eq_ok_iff] at resolved
              obtain ⟨⟨later, out⟩, tail, same⟩ := resolved
              cases same
              exact .mark first (ih tail)

theorem Resolved.text {slots left : List (Option τ)} {pieces : List Piece}
    {segments : List (Statement.Segment τ)} (resolved : Resolved slots pieces segments left)
    (next : Nat) : Statement.textOf next segments = textOfPieces next pieces := by
  induction resolved generalizing next with
  | done => rfl
  | char _ ih => rw [Statement.textOf, textOfPieces, ih]
  | mark _ _ ih => rw [Statement.textOf, textOfPieces, ih]

theorem Resolved.length_params {slots left : List (Option τ)} {pieces : List Piece}
    {segments : List (Statement.Segment τ)} (resolved : Resolved slots pieces segments left) :
    (Statement.paramsOf segments).length = markCount pieces := by
  induction resolved with
  | done => rfl
  | char _ ih => exact ih
  | mark _ _ ih => rw [Statement.paramsOf, List.length_cons, ih, markCount]

def heldCount (slots : List (Option τ)) : Nat :=
  slots.countP Option.isSome

theorem heldCount_of_takeSlot {slots taken : List (Option τ)} {digits : List Char}
    {param : Param τ} (took : takeSlot slots digits = .ok (param, taken)) :
    heldCount taken + 1 = heldCount slots := by
  unfold takeSlot at took
  split at took
  next => cases took
  next slot _ =>
    split at took
    next compute held =>
      cases took
      obtain ⟨below, atSlot⟩ := List.getElem?_eq_some_iff.mp held
      have some : 0 < slots.countP Option.isSome := by
        rw [List.countP_pos_iff]
        exact ⟨some compute, atSlot ▸ List.getElem_mem below, rfl⟩
      unfold heldCount
      rw [List.countP_set below, atSlot]
      simp only [Option.isSome_some, Option.isSome_none, if_true, Bool.false_eq_true, if_false]
      omega
    next =>
      split at took
      next => cases took
      next => cases took

theorem Resolved.heldCount_left {slots left : List (Option τ)} {pieces : List Piece}
    {segments : List (Statement.Segment τ)} (resolved : Resolved slots pieces segments left) :
    slotCount pieces + heldCount left = heldCount slots := by
  induction resolved with
  | done => simp [slotCount]
  | char _ ih => exact ih
  | @mark slots taken left placeholder param pieces segments first _ ih =>
      cases placeholder with
      | named name tag =>
          obtain ⟨type, _, same⟩ := Result.bind_eq_ok_iff.mp first
          cases same
          exact ih
      | slot digits =>
          have took := heldCount_of_takeSlot first
          rw [slotCount]
          omega

theorem exists_resolved {fragments : List String} {embedded : List (Embedded τ)}
    {statement : Statement τ} (compiled : compile fragments embedded = .ok statement) :
    fragments.length = embedded.length + 1 ∧
      ∃ segments left, Resolved ((splice 0 fragments embedded).2.map some)
          (Piece.split (splice 0 fragments embedded).1) segments left ∧
        heldCount left = 0 ∧ statement = Statement.ofSegments segments := by
  by_cases balanced : fragments.length = embedded.length + 1
  · rw [compile_of_balanced balanced, Result.bind_eq_ok_iff] at compiled
    obtain ⟨⟨segments, left⟩, resolved, finished⟩ := compiled
    refine ⟨balanced, segments, left, resolved_of_resolveAll resolved, ?_⟩
    dsimp only at finished
    split at finished
    next => cases finished
    next noneLeft =>
      cases finished
      refine ⟨?_, rfl⟩
      rw [heldCount, List.countP_eq_zero]
      simpa using noneLeft
  · rw [compile, if_neg balanced] at compiled
    cases compiled

theorem slotCount_of_compile {fragments : List String} {embedded : List (Embedded τ)}
    {statement : Statement τ} (compiled : compile fragments embedded = .ok statement) :
    slotCount (Piece.split (splice 0 fragments embedded).1) =
      (splice 0 fragments embedded).2.length := by
  obtain ⟨_, segments, left, resolved, noneLeft, _⟩ := exists_resolved compiled
  have taken := resolved.heldCount_left
  have held : ∀ computes : List τ, heldCount (computes.map some) = computes.length := by
    intro computes
    rw [heldCount, List.countP_map, List.countP_eq_length]
    intro compute _
    rfl
  rw [noneLeft, held] at taken
  exact taken

end SqlTemplate.Template
