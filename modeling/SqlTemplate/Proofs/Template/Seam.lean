import SqlTemplate.Proofs.Template.Slots

/-!
Texts one behind another. Behind its first character a placeholder has characters of a few kinds
only. Before any other character, or before a dollar sign, a text is split as if it ended there, so
what is compiled from the whole is compiled from the parts.
-/

namespace SqlTemplate

namespace Placeholder

/-- The characters of placeholders, but for the dollar sign of the named ones. -/
def isInner (c : Char) : Bool :=
  isNameChar c || c == '(' || c == ')' || c == ':' || c == '\x00' || Text.isDecimalDigit c

theorem isInner_of_isNameChar (c : Char) (named : isNameChar c) : isInner c := by
  simp [isInner, named]

theorem isInner_of_isWord (c : Char) (word : Text.isWord c) : isInner c :=
  isInner_of_isNameChar c (isNameChar_iff.mpr (Or.inl word))

theorem isInner_of_isDecimalDigit (c : Char) (digit : Text.isDecimalDigit c) : isInner c := by
  simp [isInner, digit]

theorem isInner_slotOpening : ∀ c ∈ slotOpening, isInner c :=
  List.all_eq_true.mp (by decide +kernel)

variable {more : List Char}

theorem readTag_append (text : List Char) (seam : Text.Stops isInner more) :
    readTag (text ++ more) = ((readTag text).1, (readTag text).2 ++ more) := by
  have stops := seam.mono isInner_of_isWord
  unfold readTag
  split
  next word same =>
    cases text with
    | nil =>
        exact absurd (seam ':' word same) (by decide)
    | cons c rest =>
        simp only [List.cons_append, List.cons.injEq] at same
        obtain ⟨rfl, rfl⟩ := same
        simp only [stops.takeWhile_append, stops.dropWhile_append]
        split <;> simp
  next noColon =>
    split
    next word => exact absurd rfl (noColon (word ++ more))
    next => rfl

theorem readNamed?_append (text : List Char) (seam : Text.Stops isInner more) :
    readNamed? (text ++ more) =
      (readNamed? text).map fun found => (found.1, found.2 ++ more) := by
  have stops := seam.mono isInner_of_isNameChar
  simp only [readNamed?, stops.takeWhile_append, stops.dropWhile_append]
  cases text.dropWhile isNameChar with
  | nil =>
      split
      next closed =>
        exact absurd (seam ')' _ closed) (by decide)
      next => rfl
  | cons c rest =>
      by_cases closes : c = ')'
      · subst closes
        simp only [List.cons_append, readTag_append rest seam]
        split <;> rfl
      · simp [closes]

theorem readSlot?_append (text : List Char) (seam : Text.Stops isInner more) :
    readSlot? (text ++ more) =
      (readSlot? text).map fun found => (found.1, found.2 ++ more) := by
  have stops := seam.mono isInner_of_isDecimalDigit
  simp only [readSlot?, stops.takeWhile_append, stops.dropWhile_append]
  cases text.dropWhile Text.isDecimalDigit with
  | nil =>
      split
      next closed =>
        exact absurd (seam '\x00' _ closed) (by decide)
      next => rfl
  | cons c rest =>
      by_cases closes : c = '\x00'
      · subst closes
        simp only [List.cons_append]
        split <;> rfl
      · simp [closes]

theorem after?_append_seam {start : List Char} (inside : ∀ c ∈ start, isInner c)
    (text : List Char) (seam : Text.Stops isInner more) :
    Text.after? start (text ++ more) = (Text.after? start text).map (· ++ more) := by
  induction start generalizing text with
  | nil => rfl
  | cons s start ih =>
      obtain ⟨first, later⟩ := List.forall_mem_cons.mp inside
      cases text with
      | nil =>
          cases more with
          | nil => rfl
          | cons c more =>
              have different : s ≠ c := by
                rintro rfl
                rw [Text.stops_cons_iff.mp seam] at first
                contradiction
              simp [Text.after?, different]
      | cons c text =>
          simp only [List.cons_append, Text.after?]
          split
          next => exact ih later text
          next => rfl

theorem read?_unopened {text : List Char} (unopened : ∀ after, text ≠ '$' :: '(' :: after) :
    read? text = (Text.after? slotOpening text).bind readSlot? := by
  unfold read?
  split
  next after => exact absurd rfl (unopened after)
  next => cases Text.after? slotOpening text <;> rfl

theorem read?_of_plain {c : Char} (noDollar : c ≠ '$') (noNul : c ≠ '\x00') (rest : List Char) :
    read? (c :: rest) = none := by
  rw [read?_unopened (by simp [noDollar]), slotOpening_eq]
  simp [Text.after?, noNul.symm]

theorem read?_append (c : Char) (text : List Char) (seam : Text.Stops isInner more) :
    read? (c :: (text ++ more)) =
      (read? (c :: text)).map fun found => (found.1, found.2 ++ more) := by
  by_cases opened : ∃ after, c :: text = '$' :: '(' :: after
  · obtain ⟨after, same⟩ := opened
    rw [List.cons.injEq] at same
    obtain ⟨rfl, rfl⟩ := same
    rw [List.cons_append, read?_opened, read?_opened, readNamed?_append after seam]
  · have unopened : ∀ after, c :: text ≠ '$' :: '(' :: after := fun after same =>
      opened ⟨after, same⟩
    have unopenedWhole : ∀ after, c :: (text ++ more) ≠ '$' :: '(' :: after := by
      rintro after same
      cases text with
      | nil =>
          simp only [List.nil_append, List.cons.injEq] at same
          exact absurd (seam '(' after same.2) (by decide)
      | cons d text =>
          simp only [List.cons_append, List.cons.injEq] at same
          exact unopened text (by rw [same.1, same.2.1])
    rw [read?_unopened unopened, read?_unopened unopenedWhole,
      ← List.cons_append, after?_append_seam isInner_slotOpening _ seam]
    cases Text.after? slotOpening (c :: text) with
    | none => rfl
    | some rest => exact readSlot?_append rest seam

theorem inner_of_read? {text rest : List Char} {placeholder : Placeholder}
    (found : read? text = some (placeholder, rest)) :
    ∃ c inner, text = c :: (inner ++ rest) ∧ ∀ d ∈ inner, isInner d := by
  cases placeholder with
  | named name tag =>
      have named : ∀ run : List Char, (∀ c ∈ run, Text.isWord c ∨ c = '.') → ∀ c ∈ run, isInner c :=
        fun run inside c member => isInner_of_isNameChar c (isNameChar_iff.mpr (inside c member))
      cases marked_iff_read?.mpr found with
      | plain filled inside untagged =>
          refine ⟨'$', '(' :: (name ++ [')']), by simp, ?_⟩
          intro d member
          simp only [List.mem_cons, List.mem_append, List.not_mem_nil, or_false] at member
          rcases member with rfl | inName | rfl
          · decide
          · exact named name inside d inName
          · decide
      | @tagged _ word _ filled inside tagFilled tagInside stops =>
          refine ⟨'$', '(' :: (name ++ ')' :: ':' :: word), by simp, ?_⟩
          intro d member
          simp only [List.mem_cons, List.mem_append] at member
          rcases member with rfl | inName | rfl | rfl | inWord
          · decide
          · exact named name inside d inName
          · decide
          · decide
          · exact isInner_of_isWord d (tagInside d inWord)
  | slot digits =>
      obtain ⟨rfl, _, inside⟩ := Template.read?_eq_slot_iff.mp found
      refine ⟨'\x00', "sqlify:".toList ++ (digits ++ ['\x00']), by simp [slotOpening_eq], ?_⟩
      intro d member
      simp only [List.mem_append, List.mem_singleton] at member
      rcases member with inWord | inDigits | rfl
      · exact isInner_slotOpening d (List.mem_cons_of_mem _ inWord)
      · exact isInner_of_isDecimalDigit d (inside d inDigits)
      · decide

end Placeholder

theorem Piece.split_append (text : List Char) {more : List Char}
    (seam : Text.Stops Placeholder.isInner more) :
    Piece.split (text ++ more) = Piece.split text ++ Piece.split more := by
  induction length : text.length using Nat.strongRecOn generalizing text with
  | ind n ih =>
      subst length
      cases text with
      | nil => rw [Piece.split_nil, List.nil_append, List.nil_append]
      | cons c rest =>
          have whole := Placeholder.read?_append c rest seam
          cases found : Placeholder.read? (c :: rest) with
          | none =>
              rw [found] at whole
              rw [List.cons_append, Piece.split_cons whole, Piece.split_cons found,
                ih rest.length (by simp) rest rfl]
              rfl
          | some result =>
              obtain ⟨placeholder, after⟩ := result
              rw [found] at whole
              rw [List.cons_append, Piece.split_of_read? whole, Piece.split_of_read? found,
                ih after.length (Placeholder.length_lt_of_read? found) after rfl]
              rfl

theorem Piece.split_plain_append {before : List Char} (plain : ∀ c ∈ before, c ≠ '$' ∧ c ≠ '\x00')
    (text : List Char) : Piece.split (before ++ text) = before.map .char ++ Piece.split text := by
  induction before with
  | nil => rfl
  | cons c before ih =>
      obtain ⟨⟨noDollar, noNul⟩, later⟩ := List.forall_mem_cons.mp plain
      rw [List.cons_append, Piece.split_cons (Placeholder.read?_of_plain noDollar noNul _),
        ih later]
      rfl

theorem Piece.split_of_markless {text : List Char}
    (markless : ∀ placeholder, .mark placeholder ∉ Piece.split text) :
    Piece.split text = text.map .char := by
  fun_induction Piece.split text with
  | case1 text placeholder rest found ih =>
      exact absurd List.mem_cons_self (markless placeholder)
  | case2 => rfl
  | case3 c rest nothing ih =>
      have later : ∀ placeholder, .mark placeholder ∉ Piece.split rest := fun placeholder member =>
        markless placeholder (List.mem_cons_of_mem _ member)
      rw [List.map_cons, ih later]

end SqlTemplate
