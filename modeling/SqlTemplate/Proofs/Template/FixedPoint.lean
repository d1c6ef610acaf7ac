import SqlTemplate.Proofs.Template.Plain

/-!
Compiled text is a statement as it stands. A placeholder in it would begin with a character that was
left as it is and end before the next marker, as no character of a placeholder but its first is a
dollar sign. The text of the template would then have it too, at the same place.
-/

namespace SqlTemplate

namespace Placeholder

/-- At no place of a text does a placeholder or a slot begin. -/
def NoneIn (text : List Char) : Prop :=
  ∀ opened, opened <:+ text → read? opened = none

theorem noneIn_nil : NoneIn [] := by
  intro opened suffix
  rw [List.suffix_nil.mp suffix]
  rfl

theorem noneIn_cons_iff {c : Char} {text : List Char} :
    NoneIn (c :: text) ↔ read? (c :: text) = none ∧ NoneIn text := by
  constructor
  · intro none
    exact ⟨none _ (List.suffix_refl _), fun opened suffix =>
      none opened (suffix.trans (List.suffix_cons c text))⟩
  · rintro ⟨first, none⟩ opened suffix
    rcases List.suffix_cons_iff.mp suffix with rfl | later
    · exact first
    · exact none opened later

theorem split_of_noneIn {text : List Char} (none : NoneIn text) :
    Piece.split text = text.map .char := by
  induction text with
  | nil => exact Piece.split_nil
  | cons c rest ih =>
      obtain ⟨first, later⟩ := noneIn_cons_iff.mp none
      rw [Piece.split_cons first, ih later, List.map_cons]

theorem Marked.exists_name {text name rest : List Char} {tag : Option (List Char)}
    (marked : Marked text name tag rest) :
    ∃ after, text = '$' :: '(' :: (name ++ ')' :: after) ∧ name ≠ [] ∧
      ∀ c ∈ name, isNameChar c := by
  cases marked with
  | plain filled inside _ =>
      exact ⟨_, rfl, filled, fun c member => isNameChar_iff.mpr (inside c member)⟩
  | tagged filled inside _ _ _ =>
      exact ⟨_, rfl, filled, fun c member => isNameChar_iff.mpr (inside c member)⟩

theorem isSome_readNamed? {name : List Char} (filled : name ≠ [])
    (inside : ∀ c ∈ name, isNameChar c) (after : List Char) :
    (readNamed? (name ++ ')' :: after)).isSome := by
  have closing : Text.Stops isNameChar (')' :: after) := Text.stops_cons_iff.mpr (by decide)
  simp [readNamed?, Text.takeWhile_append_of_stops inside closing,
    Text.dropWhile_append_of_stops inside closing, filled]

/-- Text behind a placeholder may become its tag, but a placeholder it stays. -/
theorem isSome_read?_append {text : List Char} (found : (read? text).isSome)
    (more : List Char) : (read? (text ++ more)).isSome := by
  obtain ⟨⟨placeholder, rest⟩, found⟩ := Option.isSome_iff_exists.mp found
  cases placeholder with
  | named name tag =>
      obtain ⟨after, rfl, filled, inside⟩ := (marked_iff_read?.mpr found).exists_name
      have again := isSome_readNamed? filled inside (after ++ more)
      rw [← read?_opened] at again
      simpa using again
  | slot digits =>
      obtain ⟨rfl, filled, inside⟩ := Template.read?_eq_slot_iff.mp found
      have again : read? ((slotOpening ++ (digits ++ '\x00' :: rest)) ++ more) =
          some (.slot digits, rest ++ more) :=
        Template.read?_eq_slot_iff.mpr ⟨by simp, filled, inside⟩
      rw [again]
      rfl

theorem NoneIn.digits_append {run text : List Char} (digits : ∀ c ∈ run, c.isDigit)
    (none : NoneIn text) : NoneIn (run ++ text) := by
  induction run with
  | nil => exact none
  | cons c run ih =>
      obtain ⟨digit, later⟩ := List.forall_mem_cons.mp digits
      have outside : ∀ d ∈ ['$', '\x00'], d.isDigit = false := by decide
      have plain := Text.not_mem_of_outside digit outside
      simp only [List.mem_cons, List.not_mem_nil, or_false, not_or] at plain
      exact noneIn_cons_iff.mpr ⟨read?_of_plain plain.1 plain.2 _, ih later⟩

theorem NoneIn.marker_append {text : List Char} (none : NoneIn text) (number : Nat) :
    NoneIn (Statement.marker number ++ text) := by
  have digits : ∀ c ∈ Number.digits number, c.isDigit := fun c member =>
    Number.isDigit_of_mem_digits member
  refine noneIn_cons_iff.mpr ⟨?_, none.digits_append digits⟩
  obtain ⟨d, later, same⟩ := List.exists_cons_of_ne_nil (Number.digits_ne_nil number)
  have digit : d.isDigit := digits d (by rw [same]; exact List.mem_cons_self)
  have unopened : d ≠ '(' := by
    rintro rfl
    revert digit
    decide
  rw [same, read?_unopened (by simp [unopened]), slotOpening_eq]
  rfl

end Placeholder

namespace Template

open Placeholder

variable {τ : Type}

theorem exists_run (next : Nat) (text : List Char) :
    ∃ run more rest, textOfPieces next (Piece.split text) = run ++ more ∧ text = run ++ rest ∧
      Text.Stops isInner more := by
  fun_induction Piece.split text with
  | case1 text placeholder rest found ih =>
      exact ⟨[], _, text, rfl, rfl, Text.stops_cons_iff.mpr (by decide)⟩
  | case2 => exact ⟨[], [], [], rfl, rfl, Text.stops_nil⟩
  | case3 c rest nothing ih =>
      obtain ⟨run, more, later, compiled, rfl, stops⟩ := ih
      exact ⟨c :: run, more, later, by rw [textOfPieces, compiled, List.cons_append], rfl, stops⟩

theorem noneIn_textOfPieces (next : Nat) (text : List Char) :
    NoneIn (textOfPieces next (Piece.split text)) := by
  fun_induction Piece.split text generalizing next with
  | case1 text placeholder rest found ih => exact (ih (next + 1)).marker_append next
  | case2 => exact noneIn_nil
  | case3 c rest nothing ih =>
      refine noneIn_cons_iff.mpr ⟨?_, ih next⟩
      obtain ⟨run, more, after, compiled, rfl, stops⟩ := exists_run next rest
      rw [compiled, read?_append c run stops, Option.map_eq_none_iff]
      -- What begins here would end within the run, and the template's text goes on with it too.
      cases cut : read? (c :: run) with
      | none => rfl
      | some result =>
          have whole := isSome_read?_append (Option.isSome_iff_exists.mpr ⟨result, cut⟩) after
          rw [List.cons_append, nothing] at whole
          cases whole

/-- Compiled text compiles to itself and has no parameters; no placeholder and no slot begins
anywhere in it. -/
theorem parse_compiled {σ : Type} {fragments : List String} {embedded : List (Embedded τ)}
    {statement : Statement τ} (compiled : compile fragments embedded = .ok statement) :
    (Statement.parse statement.text : Except TemplateError (Statement σ)) =
        .ok ⟨statement.text, []⟩ ∧
      NoneIn statement.text.toList := by
  obtain ⟨_, segments, left, resolved, _, rfl⟩ := exists_resolved compiled
  have none : NoneIn (Statement.ofSegments segments).text.toList := by
    rw [Statement.ofSegments, String.toList_ofList, resolved.text]
    exact noneIn_textOfPieces 1 _
  refine ⟨Statement.parse_eq_plain_iff.mpr ?_, none⟩
  rw [split_of_noneIn none]
  simp

/-- Halves of placeholders and slots stand around the markers. -/
theorem parse_compiled_halves :
    let fragments := ["$($(a)$(b):date) \x00sqlify:0", "sqlify:\x00 $", "(c) $(d"]
    let statement : Statement Nat := ⟨"$($1$2) $3sqlify:0\x00sqlify:\x00 $7(c) $(d",
      [⟨"a", .string, .named⟩, ⟨"b", .date, .named⟩, ⟨"__transform_0__", .string, .computed 5⟩]⟩
    compile fragments [.computed 5, .raw (.text "7")] = .ok statement ∧
      (Statement.parse statement.text : Except TemplateError (Statement Nat)) =
        .ok ⟨statement.text, []⟩ := by
  intro fragments statement
  have compiled : compile fragments [.computed 5, .raw (.text "7")] = .ok statement :=
    Result.eq_ok_of_toOption (by decide +kernel)
  exact ⟨compiled, (parse_compiled compiled).1⟩

end Template

end SqlTemplate
