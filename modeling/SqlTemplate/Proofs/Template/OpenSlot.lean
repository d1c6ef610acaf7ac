import SqlTemplate.Proofs.Template.Resolved
import SqlTemplate.Proofs.Template.Slots

/-!
Slots beside text with any characters. A stretch of text that ends like a slot whose closing NUL is
still to come takes the opening NUL of the slot after it. A template that compiles has its
computations in place exactly when no stretch before a computation ends so.
-/

namespace SqlTemplate

/-- A slot without its closing NUL. -/
def Placeholder.Opens (text : List Char) : Prop :=
  ∃ digits, text = slotOpening ++ digits ∧ digits ≠ [] ∧ ∀ c ∈ digits, Text.isDecimalDigit c

/-- What is left of the text of a slot when its first NUL is taken. -/
def Placeholder.slotRemnant (slot : Nat) : List Char :=
  (slotText slot).tail

namespace Template

open Direct

variable {τ : Type}

def EndsOpen (text : List Char) : Prop :=
  ∃ ending, ending <:+ text ∧ Placeholder.Opens ending

/-- No stretch of text that a computation follows ends with an open slot. -/
def NoneOpen : List Char → List (τ × List Char) → Prop
  | _, [] => True
  | text, (_, after) :: later => ¬EndsOpen text ∧ NoneOpen after later

/-- The statement is put together from the stretches of text, each scanned on its own for named
placeholders, with the computations between them in the order they were embedded in. -/
def InPlace (fragments : List String) (embedded : List (Embedded τ)) (statement : Statement τ) :
    Prop :=
  ∃ items, Reads (stretches fragments embedded).1 (stretches fragments embedded).2 items ∧
    assemble items = .ok statement

theorem not_endsOpen_nil : ¬EndsOpen [] := by
  rintro ⟨ending, suffix, digits, rfl, _⟩
  rw [List.suffix_nil, Placeholder.slotOpening_eq] at suffix
  cases suffix

theorem exists_digit_of_endsOpen {text : List Char} (ends : EndsOpen text) :
    ∃ c, text.getLast? = some c ∧ Text.isDecimalDigit c := by
  obtain ⟨ending, ⟨before, rfl⟩, digits, rfl, filled, inside⟩ := ends
  refine ⟨digits.getLast filled, ?_, inside _ (List.getLast_mem filled)⟩
  rw [List.getLast?_append, List.getLast?_append, List.getLast?_eq_some_getLast filled]
  rfl

theorem EndsOpen.of_suffix {text rest : List Char} (suffix : rest <:+ text)
    (ends : EndsOpen rest) : EndsOpen text := by
  obtain ⟨ending, later, opens⟩ := ends
  exact ⟨ending, later.trans suffix, opens⟩

theorem opens_or_of_endsOpen_cons {c : Char} {text : List Char} (ends : EndsOpen (c :: text)) :
    Placeholder.Opens (c :: text) ∨ EndsOpen text := by
  obtain ⟨ending, suffix, opens⟩ := ends
  rcases List.suffix_cons_iff.mp suffix with rfl | later
  · exact Or.inl opens
  · exact Or.inr ⟨ending, later, opens⟩

theorem eq_nul_of_opens {c : Char} {text : List Char} (opens : Placeholder.Opens (c :: text)) :
    c = '\x00' := by
  obtain ⟨digits, same, _⟩ := opens
  rw [Placeholder.slotOpening_eq, List.cons_append, List.cons.injEq] at same
  exact same.1

theorem EndsOpen.of_append {opening rest : List Char} (clean : '\x00' ∉ opening)
    (ends : EndsOpen (opening ++ rest)) : EndsOpen rest := by
  induction opening with
  | nil => exact ends
  | cons c opening ih =>
      rw [List.mem_cons, not_or] at clean
      rcases opens_or_of_endsOpen_cons ends with opens | later
      · exact absurd (eq_nul_of_opens opens).symm clean.1
      · exact ih clean.2 later

theorem NoneOpen.of_endsOpen_imp {text rest : List Char} {later : List (τ × List Char)}
    (imp : later ≠ [] → EndsOpen rest → EndsOpen text) (none : NoneOpen text later) :
    NoneOpen rest later := by
  cases later with
  | nil => trivial
  | cons first later =>
      refine ⟨?_, none.2⟩
      intro ends
      exact none.1 (imp (List.cons_ne_nil _ _) ends)

theorem NoneOpen.of_suffix {text rest : List Char} {later : List (τ × List Char)}
    (suffix : rest <:+ text) (none : NoneOpen text later) : NoneOpen rest later :=
  none.of_endsOpen_imp fun _ ends => ends.of_suffix suffix

theorem exists_opening_of_marked {text name rest : List Char} {tag : Option (List Char)}
    (marked : Placeholder.Marked text name tag rest) :
    ∃ opening, text = opening ++ rest ∧ '\x00' ∉ opening := by
  have clean : ∀ c, Text.isWord c ∨ c = '.' → c ≠ '\x00' :=
    fun c inside => by simpa using Placeholder.notNul_of_isNameChar inside
  cases marked with
  | @plain name rest filled inside untagged =>
      refine ⟨'$' :: '(' :: (name ++ [')']), by simp, ?_⟩
      have noNul : '\x00' ∉ name := fun member => clean _ (inside _ member) rfl
      simp [noNul]
  | @tagged name word rest filled inside tagFilled tagInside stops =>
      refine ⟨'$' :: '(' :: (name ++ ')' :: ':' :: word), by simp, ?_⟩
      have noNul : '\x00' ∉ name := fun member => clean _ (inside _ member) rfl
      have noNulInWord : '\x00' ∉ word :=
        fun member => clean _ (Or.inl (tagInside _ member)) rfl
      simp [noNul, noNulInWord]

theorem slotted_eq_append (slot : Nat) (text : List Char) (later : List (τ × List Char)) :
    slotted slot text later = text ++ slotted slot [] later := by
  rw [← slotted_append, List.append_nil]

theorem stops_slotted (slot : Nat) (later : List (τ × List Char)) :
    Text.Stops (· != '\x00') (slotted slot [] later) := by
  cases later with
  | nil => exact Text.stops_nil
  | cons first later => exact stops_slotText slot _

theorem notNul_of_isDecimalDigit {c : Char} (digit : Text.isDecimalDigit c) :
    (c != '\x00') = true := by
  rw [bne_iff_ne]
  rintro rfl
  revert digit
  decide

/-- A slot that begins in a stretch ends in it, or with the first NUL of the slot after it. -/
theorem read?_slot_in_stretch {slot : Nat} {c : Char} {text digits out : List Char}
    {later : List (τ × List Char)}
    (found : Placeholder.read? (slotted slot (c :: text) later) = some (.slot digits, out)) :
    (∃ rest, c :: text = Placeholder.slotOpening ++ (digits ++ '\x00' :: rest) ∧
        out = slotted slot rest later) ∨
      ∃ compute after more, later = (compute, after) :: more ∧ Placeholder.Opens (c :: text) ∧
        out = slotted (slot + 1) (Placeholder.slotRemnant slot ++ after) more := by
  obtain ⟨whole, filled, inside⟩ := read?_eq_slot_iff.mp found
  have word : Placeholder.slotOpening = '\x00' :: "sqlify:".toList := rfl
  rw [slotted_eq_append, word, List.cons_append, List.cons_append, List.cons.injEq] at whole
  obtain ⟨rfl, whole⟩ := whole
  have cleanWord : ∀ d ∈ "sqlify:".toList, (d != '\x00') = true :=
    List.all_eq_true.mp (by decide +kernel)
  have clean : ∀ d ∈ "sqlify:".toList ++ digits, (d != '\x00') = true := by
    intro d member
    rcases List.mem_append.mp member with inWord | inDigits
    · exact cleanWord d inWord
    · exact notNul_of_isDecimalDigit (inside d inDigits)
  obtain ⟨rest, rfl, closes⟩ := Text.append_of_stops ("sqlify:".toList ++ digits)
    (by simpa using whole) clean (stops_slotted slot later)
  cases rest with
  | cons d rest =>
      rw [List.cons_append, List.cons.injEq] at closes
      obtain ⟨rfl, rfl⟩ := closes
      refine Or.inl ⟨rest, by simp [word], ?_⟩
      exact (slotted_eq_append slot rest later).symm
  | nil =>
      cases later with
      | nil => cases closes
      | cons first more =>
          obtain ⟨compute, after⟩ := first
          have opened : '\x00' :: out =
              Placeholder.slotText slot ++ slotted (slot + 1) after more := by
            simpa [slotted] using closes
          refine Or.inr ⟨compute, after, more, rfl, ⟨digits, by simp [word], filled, inside⟩, ?_⟩
          rw [slotted_append, Placeholder.slotRemnant,
            ← List.tail_append_of_ne_nil (by simp [Placeholder.slotText, word]), ← opened]
          rfl

/-- The pieces of some stretches with slots between them. `whole` reads a slot where it was put, and
`forged` reads one that the text itself holds. `stolen` reads a slot that the text opens and the
first NUL of the next slot closes; the rest of that slot is text then. -/
inductive Passed : Nat → List Char → List (τ × List Char) → List Piece → Prop
  | done {slot : Nat} : Passed slot [] [] []
  | whole {slot : Nat} {compute : τ} {after : List Char} {later : List (τ × List Char)}
      {pieces : List Piece} : Passed (slot + 1) after later pieces →
      Passed slot [] ((compute, after) :: later) (.mark (.slot (Number.digits slot)) :: pieces)
  | char {slot : Nat} {c : Char} {text : List Char} {later : List (τ × List Char)}
      {pieces : List Piece} :
      (∀ name tag rest, ¬Placeholder.Marked (c :: text) name tag rest) →
      (later ≠ [] → ¬Placeholder.Opens (c :: text)) → Passed slot text later pieces →
      Passed slot (c :: text) later (.char c :: pieces)
  | named {slot : Nat} {text name rest : List Char} {tag : Option (List Char)}
      {later : List (τ × List Char)} {pieces : List Piece} :
      Placeholder.Marked text name tag rest → Passed slot rest later pieces →
      Passed slot text later (.mark (.named name tag) :: pieces)
  | forged {slot : Nat} {text digits rest : List Char} {later : List (τ × List Char)}
      {pieces : List Piece} : text = Placeholder.slotOpening ++ (digits ++ '\x00' :: rest) →
      Passed slot rest later pieces → Passed slot text later (.mark (.slot digits) :: pieces)
  | stolen {slot : Nat} {compute : τ} {text digits after : List Char}
      {later : List (τ × List Char)} {pieces : List Piece} : Placeholder.Opens text →
      Passed (slot + 1) (Placeholder.slotRemnant slot ++ after) later pieces →
      Passed slot text ((compute, after) :: later) (.mark (.slot digits) :: pieces)

theorem read?_of_opens {slot : Nat} {text after : List Char} {compute : τ}
    {later : List (τ × List Char)} (opens : Placeholder.Opens text) :
    ∃ digits out, Placeholder.read? (slotted slot text ((compute, after) :: later)) =
      some (.slot digits, out) := by
  obtain ⟨digits, rfl, filled, inside⟩ := opens
  refine ⟨digits, Placeholder.slotRemnant slot ++ slotted (slot + 1) after later,
    read?_eq_slot_iff.mpr ⟨?_, filled, inside⟩⟩
  simp [slotted, Placeholder.slotRemnant, Placeholder.slotText, Placeholder.slotOpening_eq]

theorem passed_split (slot : Nat) (text : List Char) (later : List (τ × List Char)) :
    Passed slot text later (Piece.split (slotted slot text later)) := by
  induction length : (slotted slot text later).length using Nat.strongRecOn
    generalizing slot text later with
  | ind n ih =>
      subst length
      cases text with
      | nil =>
          cases later with
          | nil =>
              rw [slotted, Piece.split_nil]
              exact .done
          | cons first later =>
              obtain ⟨compute, after⟩ := first
              have found := read?_slotText slot (slotted (slot + 1) after later)
              rw [slotted, List.nil_append, Piece.split_of_read? found]
              refine .whole (ih _ ?_ _ _ _ rfl)
              exact Placeholder.length_lt_of_read? found
      | cons c text =>
          have whole : slotted slot (c :: text) later = c :: slotted slot text later :=
            slotted_append slot [c] text later
          cases found : Placeholder.read? (slotted slot (c :: text) later) with
          | none =>
              rw [whole] at found
              rw [whole, Piece.split_cons found]
              have shorter : (slotted slot text later).length <
                  (slotted slot (c :: text) later).length := by
                rw [whole, List.length_cons]
                omega
              refine .char ?_ ?_ (ih _ shorter _ _ _ rfl)
              · intro name tag rest marked
                have read := Placeholder.marked_iff_read?.mp
                  (marked.append (stops_slotted slot later))
                rw [← slotted_eq_append, whole, found] at read
                cases read
              · intro filled opens
                obtain ⟨⟨compute, after⟩, later, rfl⟩ := List.exists_cons_of_ne_nil filled
                obtain ⟨digits, out, read⟩ := read?_of_opens opens
                rw [whole, found] at read
                cases read
          | some result =>
              obtain ⟨placeholder, out⟩ := result
              have shorter := Placeholder.length_lt_of_read? found
              rw [Piece.split_of_read? found]
              cases placeholder with
              | named name tag =>
                  have marked := Placeholder.marked_iff_read?.mpr found
                  rw [slotted_eq_append] at marked
                  obtain ⟨rest, rfl, inStretch⟩ := marked.of_append (stops_slotted slot later)
                  rw [← slotted_eq_append] at shorter ⊢
                  exact .named inStretch (ih _ shorter _ _ _ rfl)
              | slot digits =>
                  rcases read?_slot_in_stretch found with
                    ⟨rest, same, rfl⟩ | ⟨compute, after, more, rfl, opens, rfl⟩
                  · exact .forged same (ih _ shorter _ _ _ rfl)
                  · exact .stolen opens (ih _ shorter _ _ _ rfl)

theorem Passed.length_le {slot : Nat} {text : List Char} {later : List (τ × List Char)}
    {pieces : List Piece} (passed : Passed slot text later pieces) :
    later.length ≤ slotCount pieces := by
  induction passed with
  | done => exact Nat.zero_le _
  | whole _ ih =>
      simp only [List.length_cons, slotCount]
      omega
  | char _ _ _ ih => exact ih
  | named _ _ ih => exact ih
  | forged _ _ ih =>
      rw [slotCount]
      omega
  | stolen _ _ ih =>
      simp only [List.length_cons, slotCount]
      omega

theorem reads_nil : Reads ([] : List Char) ([] : List (τ × List Char)) [] :=
  .last .done

theorem reads_computed {after : List Char} {compute : τ} {later : List (τ × List Char)}
    {items : List (Item τ)} (reads : Reads after later items) :
    Reads [] ((compute, after) :: later) (.computed compute :: items) :=
  .next .done reads

theorem reads_named {text name rest : List Char} {tag : Option (List Char)}
    {later : List (τ × List Char)} {items : List (Item τ)}
    (marked : Placeholder.Marked text name tag rest) (reads : Reads rest later items) :
    Reads text later (.named name tag :: items) := by
  cases reads with
  | last scanned => exact .last (.mark marked scanned)
  | next scanned reads => exact .next (.mark marked scanned) reads

theorem reads_char {c : Char} {text : List Char} {later : List (τ × List Char)}
    {items : List (Item τ)}
    (unmarked : ∀ name tag rest, ¬Placeholder.Marked (c :: text) name tag rest)
    (reads : Reads text later items) : Reads (c :: text) later (.char c :: items) := by
  cases reads with
  | last scanned => exact .last (.char unmarked scanned)
  | next scanned reads => exact .next (.char unmarked scanned) reads

theorem exists_char_of_reads_nul {text : List Char} {later : List (τ × List Char)}
    {items : List (Item τ)} (reads : Reads ('\x00' :: text) later items) :
    ∃ rest, items = .char '\x00' :: rest := by
  have unmarked : ∀ name tag rest, ¬Placeholder.Marked ('\x00' :: text) name tag rest := by
    intro name tag rest marked
    obtain ⟨after, opening⟩ := marked.opens
    cases opening
  obtain ⟨rest, tail⟩ := exists_reads text later
  exact ⟨rest, (reads_char unmarked tail).unique reads⟩

theorem Passed.reads {slot : Nat} {text : List Char} {later : List (τ × List Char)}
    {pieces : List Piece} (passed : Passed slot text later pieces)
    (exact : slotCount pieces ≤ later.length) (noneOpen : NoneOpen text later) :
    ∃ items, Reads text later items ∧ pieces = piecesOf slot items := by
  induction passed with
  | done => exact ⟨[], reads_nil, rfl⟩
  | whole _ ih =>
      have fewer : slotCount _ ≤ _ := Nat.le_of_succ_le_succ exact
      obtain ⟨items, reads, rfl⟩ := ih fewer noneOpen.2
      exact ⟨_, reads_computed reads, rfl⟩
  | char unmarked _ _ ih =>
      obtain ⟨items, reads, rfl⟩ := ih exact (noneOpen.of_suffix (List.suffix_cons _ _))
      exact ⟨_, reads_char unmarked reads, rfl⟩
  | named marked _ ih =>
      obtain ⟨opening, same, _⟩ := exists_opening_of_marked marked
      obtain ⟨items, reads, rfl⟩ := ih exact (noneOpen.of_suffix ⟨opening, same.symm⟩)
      exact ⟨_, reads_named marked reads, rfl⟩
  | forged _ passed _ =>
      have enough := passed.length_le
      rw [slotCount] at exact
      omega
  | stolen opens _ _ => exact absurd ⟨_, List.suffix_refl _, opens⟩ noneOpen.1

/-- If no more slots are read than were put and the text is what the stretches give on their own,
none is stolen: a stolen slot has its marker where the stretch has a NUL. -/
theorem Passed.noneOpen {slot : Nat} {text : List Char} {later : List (τ × List Char)}
    {pieces : List Piece} (passed : Passed slot text later pieces)
    (exact : slotCount pieces ≤ later.length) {items : List (Item τ)}
    (reads : Reads text later items) {next : Nat}
    (same : textOfPieces next pieces = textOf next items) : NoneOpen text later := by
  induction passed generalizing items next with
  | done => trivial
  | whole passed ih =>
      obtain ⟨rest, tail⟩ := exists_reads _ _
      have unique := (reads_computed tail).unique reads
      subst unique
      simp only [textOfPieces, textOf, Statement.marker, List.cons_append, List.cons.injEq,
        List.append_cancel_left_eq, true_and] at same
      exact ⟨not_endsOpen_nil, ih (Nat.le_of_succ_le_succ exact) tail same⟩
  | @char slot c text later pieces unmarked notOpen passed ih =>
      obtain ⟨rest, tail⟩ := exists_reads text later
      have unique := (reads_char unmarked tail).unique reads
      subst unique
      simp only [textOfPieces, textOf, List.cons.injEq, true_and] at same
      apply (ih exact tail same).of_endsOpen_imp
      intro filled ends
      rcases opens_or_of_endsOpen_cons ends with opens | endsLater
      · exact absurd opens (notOpen filled)
      · exact endsLater
  | @named slot text name rest tag later pieces marked passed ih =>
      obtain ⟨others, tail⟩ := exists_reads rest later
      have unique := (reads_named marked tail).unique reads
      subst unique
      simp only [textOfPieces, textOf, Statement.marker, List.cons_append, List.cons.injEq,
        List.append_cancel_left_eq, true_and] at same
      obtain ⟨opening, rfl, clean⟩ := exists_opening_of_marked marked
      apply (ih exact tail same).of_endsOpen_imp
      intro _ ends
      exact ends.of_append clean
  | forged _ passed _ =>
      have enough := passed.length_le
      rw [slotCount] at exact
      omega
  | stolen opens passed _ =>
      obtain ⟨digits, rfl, _⟩ := opens
      rw [Placeholder.slotOpening_eq, List.cons_append] at reads
      obtain ⟨rest, rfl⟩ := exists_char_of_reads_nul reads
      simp [textOfPieces, textOf, Statement.marker] at same

theorem passed_compile {fragments : List String} {embedded : List (Embedded τ)}
    {statement : Statement τ} (compiled : compile fragments embedded = .ok statement) :
    Passed 0 (stretches fragments embedded).1 (stretches fragments embedded).2
        (Piece.split (splice 0 fragments embedded).1) ∧
      slotCount (Piece.split (splice 0 fragments embedded).1) ≤
        (stretches fragments embedded).2.length := by
  have taken := slotCount_of_compile compiled
  rw [splice_eq] at taken ⊢
  rw [List.length_map] at taken
  exact ⟨passed_split 0 _ _, Nat.le_of_eq taken⟩

theorem inPlace_of_noneOpen {fragments : List String} {embedded : List (Embedded τ)}
    {statement : Statement τ} (compiled : compile fragments embedded = .ok statement)
    (noneOpen : NoneOpen (stretches fragments embedded).1 (stretches fragments embedded).2) :
    InPlace fragments embedded statement := by
  obtain ⟨passed, exact⟩ := passed_compile compiled
  obtain ⟨items, reads, split⟩ := passed.reads exact noneOpen
  refine ⟨items, reads, ?_⟩
  rw [← compile_of_split (exists_resolved compiled).1 reads split, compiled]

theorem noneOpen_of_inPlace {fragments : List String} {embedded : List (Embedded τ)}
    {statement : Statement τ} (compiled : compile fragments embedded = .ok statement)
    (inPlace : InPlace fragments embedded statement) :
    NoneOpen (stretches fragments embedded).1 (stretches fragments embedded).2 := by
  obtain ⟨passed, exact⟩ := passed_compile compiled
  obtain ⟨items, reads, assembled⟩ := inPlace
  obtain ⟨_, segments, left, resolved, _, rfl⟩ := exists_resolved compiled
  obtain ⟨params, _, same⟩ := Result.map_eq_ok_iff.mp assembled
  have texts : Statement.textOf 1 segments = textOf 1 items :=
    (String.ofList_inj.mp (congrArg Statement.text same)).symm
  rw [resolved.text] at texts
  exact passed.noneOpen exact reads texts

/-- On texts with any characters, a template that compiles has its computations in place exactly
when no stretch of text before one of them ends with an open slot. -/
theorem inPlace_iff_noneOpen {fragments : List String} {embedded : List (Embedded τ)}
    {statement : Statement τ} (compiled : compile fragments embedded = .ok statement) :
    InPlace fragments embedded statement ↔
      NoneOpen (stretches fragments embedded).1 (stretches fragments embedded).2 :=
  ⟨noneOpen_of_inPlace compiled, inPlace_of_noneOpen compiled⟩

theorem inPlace_beside_nul :
    let fragments := ["\x00sqlify:0 \x00$(n):integer", "\x00sqlify:0"]
    let statement : Statement Nat := ⟨"\x00sqlify:0 \x00$1$2\x00sqlify:0",
      [⟨"n", .integer, .named⟩, ⟨"__transform_0__", .string, .computed 7⟩]⟩
    compile fragments [.computed 7] = .ok statement ∧
      InPlace fragments [.computed 7] statement := by
  intro fragments statement
  have compiled : compile fragments [.computed 7] = .ok statement :=
    Result.eq_ok_of_toOption (by decide +kernel)
  refine ⟨compiled, (inPlace_iff_noneOpen compiled).mpr ⟨?_, trivial⟩⟩
  intro ends
  obtain ⟨c, last, digit⟩ := exists_digit_of_endsOpen ends
  have letter : "\x00sqlify:0 \x00$(n):integer".toList.getLast? = some 'r' := by decide +kernel
  rw [← Option.some.inj (letter.symm.trans last)] at digit
  revert digit
  decide +kernel

/-- Two open slots before two computations exchange their markers, and leave the rest of each slot
in the text. -/
theorem exchanged_computations :
    let fragments := ["\x00sqlify:1", "\x00sqlify:0", ""]
    let statement : Statement Nat := ⟨"$1sqlify:0\x00$2sqlify:1\x00",
      [⟨"__transform_1__", .string, .computed 20⟩, ⟨"__transform_0__", .string, .computed 10⟩]⟩
    compile fragments [.computed 10, .computed 20] = .ok statement ∧
      ¬InPlace fragments [.computed 10, .computed 20] statement := by
  intro fragments statement
  have compiled : compile fragments [.computed 10, .computed 20] = .ok statement :=
    Result.eq_ok_of_toOption (by decide +kernel)
  refine ⟨compiled, ?_⟩
  intro inPlace
  have notOpen := (noneOpen_of_inPlace compiled inPlace).1
  have digits : ∀ c ∈ ['1'], Text.isDecimalDigit c := List.forall_mem_singleton.mpr (by decide)
  have opened : Placeholder.Opens "\x00sqlify:1".toList :=
    ⟨['1'], by decide +kernel, by decide, digits⟩
  exact notOpen ⟨_, List.suffix_refl _, opened⟩

end Template

end SqlTemplate
