import SqlTemplate.Text.Clip

/-! What is left of a text that is cut to a number of bytes. -/

namespace SqlTemplate.Text

/-- A text of at most `limit` bytes, or the longest start of it that has no more and three dots. -/
inductive Shortened (limit : Nat) (text : List Char) : List Char → Prop
  | whole : byteLength text ≤ limit → Shortened limit text text
  | cut {kept later : List Char} {next : Char} : text = kept ++ next :: later →
      byteLength kept ≤ limit → limit < byteLength (kept ++ [next]) →
      Shortened limit text (kept ++ ['.', '.', '.'])

@[simp] theorem byteLength_append (a b : List Char) :
    byteLength (a ++ b) = byteLength a + byteLength b := by
  induction a with
  | nil => simp [byteLength]
  | cons c rest ih => simp [byteLength, ih, Nat.add_assoc]

theorem clip_append {limit : Nat} {kept later : List Char} {next : Char}
    (fits : byteLength kept ≤ limit) (exceeds : limit < byteLength (kept ++ [next])) :
    clip limit (kept ++ next :: later) = kept := by
  induction kept generalizing limit with
  | nil =>
      have large : ¬next.utf8Size ≤ limit := by
        simp only [List.nil_append, byteLength] at exceeds
        omega
      simp [clip, large]
  | cons c rest ih =>
      simp only [byteLength, List.cons_append] at fits exceeds
      have here : c.utf8Size ≤ limit := by omega
      simp only [List.cons_append, clip, here, if_true, List.cons.injEq, true_and]
      exact ih (by omega) (by omega)

theorem exists_cut {limit : Nat} {text : List Char} (exceeds : limit < byteLength text) :
    ∃ kept next later, text = kept ++ next :: later ∧ byteLength kept ≤ limit ∧
      limit < byteLength (kept ++ [next]) := by
  induction text generalizing limit with
  | nil => simp [byteLength] at exceeds
  | cons c rest ih =>
      by_cases here : c.utf8Size ≤ limit
      · have later : limit - c.utf8Size < byteLength rest := by
          simp only [byteLength] at exceeds
          omega
        obtain ⟨kept, next, after, rfl, fits, large⟩ := ih later
        refine ⟨c :: kept, next, after, rfl, ?_, ?_⟩
        · simp only [byteLength]
          omega
        · simp only [List.cons_append, byteLength]
          omega
      · refine ⟨[], c, rest, rfl, by simp [byteLength], ?_⟩
        simp only [List.nil_append, byteLength]
        omega

theorem shortened_iff {limit : Nat} {text short : List Char} :
    Shortened limit text short ↔ short = shorten limit text := by
  constructor
  · intro shortened
    cases shortened with
    | whole fits => simp [shorten, fits]
    | @cut kept later next same fits exceeds =>
        subst same
        have long : ¬byteLength (kept ++ next :: later) ≤ limit := by
          simp only [byteLength_append, byteLength] at exceeds ⊢
          omega
        rw [shorten, if_neg long, clip_append fits exceeds]
  · rintro rfl
    by_cases fits : byteLength text ≤ limit
    · simpa [shorten, fits] using Shortened.whole fits
    · obtain ⟨kept, next, later, rfl, keptFits, exceeds⟩ := exists_cut (Nat.lt_of_not_le fits)
      rw [shorten, if_neg fits, clip_append keptFits exceeds]
      exact .cut rfl keptFits exceeds

end SqlTemplate.Text
