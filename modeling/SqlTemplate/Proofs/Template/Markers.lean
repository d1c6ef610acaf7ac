import SqlTemplate.Proofs.Template.Resolved

/-!
The markers of a statement as a server reads them: a dollar sign with the digits after it, as far as
they go. They count the parameters exactly when no digit follows a placeholder, and no dollar sign,
in the text of the template.
-/

namespace SqlTemplate

def Statement.markersIn : List Char → List Nat
  | [] => []
  | c :: rest =>
    if c = '$' ∧ rest.takeWhile Char.isDigit ≠ [] then
      Number.ofDigits (rest.takeWhile Char.isDigit) :: markersIn rest
    else markersIn rest

namespace Piece

def IsDollar (piece : Piece) : Prop :=
  piece = .char '$'

def IsMark (piece : Piece) : Prop :=
  ∃ placeholder, piece = .mark placeholder

def StartsWithDigit (pieces : List Piece) : Prop :=
  ∃ d later, pieces = .char d :: later ∧ d.isDigit

/-- A digit stands right behind a piece of some kind. -/
def DigitAfter (kind : Piece → Prop) (pieces : List Piece) : Prop :=
  ∃ earlier piece later, pieces = earlier ++ piece :: later ∧ kind piece ∧ StartsWithDigit later

theorem not_digitAfter_nil {kind : Piece → Prop} : ¬DigitAfter kind [] := by
  rintro ⟨earlier, piece, later, same, _⟩
  simp at same

theorem digitAfter_cons_iff {kind : Piece → Prop} {piece : Piece} {rest : List Piece} :
    DigitAfter kind (piece :: rest) ↔
      (kind piece ∧ StartsWithDigit rest) ∨ DigitAfter kind rest := by
  constructor
  · rintro ⟨earlier, found, later, same, ofKind, digit⟩
    cases earlier with
    | nil =>
        cases same
        exact Or.inl ⟨ofKind, digit⟩
    | cons first earlier =>
        cases same
        exact Or.inr ⟨earlier, found, later, rfl, ofKind, digit⟩
  · rintro (⟨ofKind, digit⟩ | ⟨earlier, found, later, rfl, ofKind, digit⟩)
    · exact ⟨[], piece, rest, rfl, ofKind, digit⟩
    · exact ⟨piece :: earlier, found, later, rfl, ofKind, digit⟩

end Piece

namespace Statement

theorem digits_append_eq_iff {n : Nat} (positive : 0 < n) (run : List Char) :
    Number.ofDigits (Number.digits n ++ run) = n ↔ run = [] := by
  have value : Number.ofDigits (Number.digits n ++ run) =
      10 ^ run.length * n + Number.ofDigits run := by
    have first : Nat.ofDigitChars 10 (Number.digits n) 0 = n := Number.ofDigits_digits n
    rw [Number.ofDigits, Nat.ofDigitChars_append, first, Nat.ofDigitChars_eq_ofDigitChars_zero]
    rfl
  constructor
  · intro same
    cases run with
    | nil => rfl
    | cons d run =>
        rw [value, List.length_cons, Nat.pow_succ] at same
        have more : 1 ≤ 10 ^ run.length := Nat.one_le_pow _ _ (by decide)
        have grows : 1 * 10 * n ≤ 10 ^ run.length * 10 * n := by
          exact Nat.mul_le_mul_right n (Nat.mul_le_mul_right 10 more)
        omega
  · rintro rfl
    rw [List.append_nil, Number.ofDigits_digits]

theorem markersIn_digits {run : List Char} (digits : ∀ c ∈ run, c.isDigit) (rest : List Char) :
    markersIn (run ++ rest) = markersIn rest := by
  induction run with
  | nil => rfl
  | cons c run ih =>
      obtain ⟨digit, later⟩ := List.forall_mem_cons.mp digits
      have noDollar : c ≠ '$' := by
        rintro rfl
        revert digit
        decide
      simp only [List.cons_append, markersIn, noDollar, false_and, if_false, ih later]

theorem markersIn_marker (n : Nat) (rest : List Char) :
    markersIn (marker n ++ rest) =
      Number.ofDigits (Number.digits n ++ rest.takeWhile Char.isDigit) :: markersIn rest := by
  have inside : ∀ c ∈ Number.digits n, c.isDigit := fun c member =>
    Number.isDigit_of_mem_digits member
  have filled : ¬(Number.digits n = [] ∧ rest.takeWhile Char.isDigit = []) :=
    fun empty => Number.digits_ne_nil n empty.1
  simp only [marker, List.cons_append, markersIn, List.takeWhile_append_of_pos inside,
    markersIn_digits inside, ne_eq, List.append_eq_nil_iff, filled, not_false_eq_true, and_self,
    if_true]

end Statement

namespace Template

open Piece Statement

variable {τ : Type}

theorem takeWhile_textOfPieces (next : Nat) (pieces : List Piece) :
    (textOfPieces next pieces).takeWhile Char.isDigit = [] ↔ ¬StartsWithDigit pieces := by
  cases pieces with
  | nil => simp [textOfPieces, StartsWithDigit]
  | cons piece rest =>
      cases piece with
      | char c =>
          by_cases digit : c.isDigit <;> simp [textOfPieces, StartsWithDigit, digit]
      | mark placeholder =>
          have dollar : '$'.isDigit = false := by decide
          simp [textOfPieces, StartsWithDigit, marker, dollar]

theorem markCount_le_length_markersIn (next : Nat) (pieces : List Piece) :
    markCount pieces ≤ (markersIn (textOfPieces next pieces)).length := by
  induction pieces generalizing next with
  | nil => exact Nat.zero_le _
  | cons piece rest ih =>
      have enough := ih next
      cases piece with
      | char c =>
          rw [markCount, textOfPieces, markersIn]
          split
          · rw [List.length_cons]
            omega
          · exact enough
      | mark placeholder =>
          have enough := ih (next + 1)
          rw [markCount, textOfPieces, markersIn_marker, List.length_cons]
          omega

/-- Every placeholder is read as one number, so a dollar sign with a digit behind it is one too
many, and a digit behind a placeholder makes its number larger. -/
theorem markersIn_textOfPieces_iff {next : Nat} (positive : 0 < next) (pieces : List Piece) :
    markersIn (textOfPieces next pieces) = List.range' next (markCount pieces) ↔
      ¬DigitAfter IsDollar pieces ∧ ¬DigitAfter IsMark pieces := by
  induction pieces generalizing next with
  | nil => simp [textOfPieces, markersIn, markCount, not_digitAfter_nil]
  | cons piece rest ih =>
      rw [digitAfter_cons_iff, digitAfter_cons_iff, not_or, not_or]
      cases piece with
      | char c =>
          have noMark : ¬IsMark (.char c) := by
            rintro ⟨_, same⟩
            cases same
          have read : c = '$' ∧ (textOfPieces next rest).takeWhile Char.isDigit ≠ [] ↔
              c = '$' ∧ StartsWithDigit rest := by
            rw [ne_eq, takeWhile_textOfPieces, Classical.not_not]
          rw [textOfPieces, markersIn, markCount]
          by_cases loose : c = '$' ∧ StartsWithDigit rest
          · have dollar : IsDollar (.char c) := congrArg Piece.char loose.1
            have enough := markCount_le_length_markersIn next rest
            rw [if_pos (read.mpr loose)]
            constructor
            · intro same
              have lengths := congrArg List.length same
              rw [List.length_cons, List.length_range'] at lengths
              omega
            · rintro ⟨⟨notLoose, _⟩, _⟩
              exact absurd ⟨dollar, loose.2⟩ notLoose
          · have plain : ¬(IsDollar (.char c) ∧ StartsWithDigit rest) := by
              rintro ⟨dollar, digit⟩
              exact loose ⟨Piece.char.inj dollar, digit⟩
            rw [if_neg (fun found => loose (read.mp found)), ih positive]
            simp [plain, noMark]
      | mark placeholder =>
          have noDollar : ¬IsDollar (.mark placeholder) := by
            intro same
            cases same
          have mark : IsMark (.mark placeholder) := ⟨placeholder, rfl⟩
          rw [textOfPieces, markersIn_marker, markCount, List.range'_succ, List.cons.injEq,
            digits_append_eq_iff positive, takeWhile_textOfPieces, ih (Nat.succ_pos next)]
          simp only [noDollar, mark, false_and, true_and, not_false_eq_true]
          constructor
          · rintro ⟨noDigit, noneDollar, noneMark⟩
            exact ⟨noneDollar, noDigit, noneMark⟩
          · rintro ⟨noneDollar, noDigit, noneMark⟩
            exact ⟨noDigit, noneDollar, noneMark⟩

/-- The markers that are read in the text of a statement are 1, 2, and so on up to the number of its
parameters, exactly when between the placeholders of the template no dollar sign has a digit behind
it, and no placeholder has. -/
theorem markersIn_compiled_iff {fragments : List String} {embedded : List (Embedded τ)}
    {statement : Statement τ} (compiled : compile fragments embedded = .ok statement) :
    markersIn statement.text.toList = List.range' 1 statement.params.length ↔
      ¬DigitAfter IsDollar (Piece.split (splice 0 fragments embedded).1) ∧
        ¬DigitAfter IsMark (Piece.split (splice 0 fragments embedded).1) := by
  obtain ⟨_, segments, left, resolved, _, rfl⟩ := exists_resolved compiled
  rw [Statement.ofSegments, String.toList_ofList, resolved.text, resolved.length_params]
  exact markersIn_textOfPieces_iff Nat.one_pos _

theorem markersIn_compiled_iff_costs :
    let fragments := ["SELECT $$(a), ", " FROM costs WHERE b = $(b):integer"]
    let statement : Statement Nat := ⟨"SELECT $$1, $2 FROM costs WHERE b = $3",
      [⟨"a", .string, .named⟩, ⟨"__transform_0__", .string, .computed 7⟩, ⟨"b", .integer, .named⟩]⟩
    compile fragments [.computed 7] = .ok statement ∧
      markersIn statement.text.toList = [1, 2, 3] ∧
      ¬DigitAfter IsDollar (Piece.split (splice 0 fragments [Embedded.computed 7]).1) ∧
      ¬DigitAfter IsMark (Piece.split (splice 0 fragments [Embedded.computed 7]).1) := by
  intro fragments statement
  have compiled : compile fragments [.computed 7] = .ok statement :=
    Result.eq_ok_of_toOption (by decide +kernel)
  have read : markersIn statement.text.toList = [1, 2, 3] := by decide +kernel
  exact ⟨compiled, read, (markersIn_compiled_iff compiled).mp read⟩

/-- The digit behind the placeholder is read as the last one of its marker. -/
theorem marker_grows :
    let fragments := ["SELECT $(a)5"]
    let statement : Statement Nat := ⟨"SELECT $15", [⟨"a", .string, .named⟩]⟩
    compile fragments [] = .ok statement ∧
      ¬DigitAfter IsDollar (Piece.split (splice 0 fragments ([] : List (Embedded Nat))).1) ∧
      markersIn statement.text.toList = [15] := by
  intro fragments statement
  refine ⟨Result.eq_ok_of_toOption (by decide +kernel), ?_, by decide +kernel⟩
  rintro ⟨earlier, piece, later, same, rfl, _⟩
  have member : Piece.char '$' ∈ Piece.split (splice 0 fragments ([] : List (Embedded Nat))).1 := by
    rw [same]
    simp
  revert member
  decide +kernel

end Template

end SqlTemplate
