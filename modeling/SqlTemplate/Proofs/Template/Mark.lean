import SqlTemplate.Proofs.Text.Run
import SqlTemplate.Template.Placeholder

/-!
The grammar of named placeholders, apart from how they are read: `$(name)`, where the name is made
of word characters and dots, and `:tag` where a colon and a word follow. Reading accepts exactly
this grammar.
-/

namespace SqlTemplate.Placeholder

/-- A text is a named placeholder and a rest. A word after a colon is a tag, as long as it goes. -/
inductive Marked : List Char → List Char → Option (List Char) → List Char → Prop
  | plain {name rest : List Char} : name ≠ [] → (∀ c ∈ name, Text.isWord c ∨ c = '.') →
      (∀ c after, rest = ':' :: c :: after → Text.isWord c = false) →
      Marked ('$' :: '(' :: (name ++ ')' :: rest)) name none rest
  | tagged {name tag rest : List Char} : name ≠ [] → (∀ c ∈ name, Text.isWord c ∨ c = '.') →
      tag ≠ [] → (∀ c ∈ tag, Text.isWord c) → Text.Stops Text.isWord rest →
      Marked ('$' :: '(' :: (name ++ ')' :: ':' :: (tag ++ rest))) name (some tag) rest

theorem isNameChar_iff {c : Char} : isNameChar c ↔ Text.isWord c ∨ c = '.' := by
  simp [isNameChar]

theorem readTag_eq_none_iff {text rest : List Char} :
    readTag text = (none, rest) ↔
      rest = text ∧ ∀ c after, text = ':' :: c :: after → Text.isWord c = false := by
  unfold readTag
  split
  · rename_i word
    cases word with
    | nil => simp [@eq_comm _ rest]
    | cons c after =>
        by_cases inside : Text.isWord c
        · simp [inside]
        · simp [inside, @eq_comm _ rest]
  · rename_i noColon
    simp only [Prod.mk.injEq, true_and]
    constructor
    · rintro rfl
      refine ⟨rfl, ?_⟩
      intro c after same
      exact absurd same (noColon _)
    · rintro ⟨rfl, _⟩
      rfl

theorem readTag_eq_some_iff {text tag rest : List Char} :
    readTag text = (some tag, rest) ↔
      text = ':' :: (tag ++ rest) ∧ tag ≠ [] ∧ (∀ c ∈ tag, Text.isWord c) ∧
        Text.Stops Text.isWord rest := by
  constructor
  · intro found
    unfold readTag at found
    split at found
    · rename_i word
      simp only at found
      split at found
      · simp at found
      · rename_i filled
        simp only [Prod.mk.injEq, Option.some.injEq] at found
        obtain ⟨rfl, rfl⟩ := found
        refine ⟨by simp, by simpa using filled, ?_, Text.stops_dropWhile _ _⟩
        intro c member
        exact List.all_eq_true.mp List.all_takeWhile c member
    · simp at found
  · rintro ⟨rfl, filled, inside, stops⟩
    simp [readTag, Text.takeWhile_append_of_stops inside stops,
      Text.dropWhile_append_of_stops inside stops, filled]

theorem readNamed?_eq_some_iff {text rest : List Char} {placeholder : Placeholder} :
    readNamed? text = some (placeholder, rest) ↔
      ∃ name tag, placeholder = .named name tag ∧ Marked ('$' :: '(' :: text) name tag rest := by
  constructor
  · intro found
    unfold readNamed? at found
    simp only at found
    split at found
    · rename_i after closed
      split at found
      · simp at found
      · rename_i filled
        simp only [Option.some.injEq, Prod.mk.injEq] at found
        obtain ⟨rfl, rfl⟩ := found
        refine ⟨_, _, rfl, ?_⟩
        have parts : text = text.takeWhile isNameChar ++ ')' :: after := by
          rw [← closed, List.takeWhile_append_dropWhile]
        have inside : ∀ c ∈ text.takeWhile isNameChar, Text.isWord c ∨ c = '.' := by
          intro c member
          exact isNameChar_iff.mp (List.all_eq_true.mp List.all_takeWhile c member)
        generalize text.takeWhile isNameChar = name at *
        subst parts
        cases tagged : readTag after with
        | mk tag rest =>
            cases tag with
            | none =>
                obtain ⟨rfl, untagged⟩ := readTag_eq_none_iff.mp tagged
                exact .plain (by simpa using filled) inside untagged
            | some tag =>
                obtain ⟨rfl, tagFilled, tagInside, stops⟩ := readTag_eq_some_iff.mp tagged
                exact .tagged (by simpa using filled) inside tagFilled tagInside stops
    · simp at found
  · rintro ⟨name, tag, rfl, marked⟩
    have closing : isNameChar ')' = false := by decide
    cases marked with
    | plain filled inside untagged =>
        have run : ∀ c ∈ name, isNameChar c := fun c member => isNameChar_iff.mpr (inside c member)
        simp only [readNamed?, Text.takeWhile_append_of_stops run (Text.stops_cons_iff.mpr closing),
          Text.dropWhile_append_of_stops run (Text.stops_cons_iff.mpr closing)]
        rw [readTag_eq_none_iff.mpr ⟨rfl, untagged⟩]
        simp [filled]
    | tagged filled inside tagFilled tagInside stops =>
        have run : ∀ c ∈ name, isNameChar c := fun c member => isNameChar_iff.mpr (inside c member)
        simp only [readNamed?, Text.takeWhile_append_of_stops run (Text.stops_cons_iff.mpr closing),
          Text.dropWhile_append_of_stops run (Text.stops_cons_iff.mpr closing)]
        rw [readTag_eq_some_iff.mpr ⟨rfl, tagFilled, tagInside, stops⟩]
        simp [filled]

@[simp] theorem read?_opened (text : List Char) : read? ('$' :: '(' :: text) = readNamed? text := by
  rw [read?]

theorem exists_slot_of_readSlot? {text rest : List Char} {placeholder : Placeholder}
    (found : readSlot? text = some (placeholder, rest)) :
    ∃ digits, placeholder = .slot digits := by
  unfold readSlot? at found
  simp only at found
  split at found
  · split at found
    · cases found
    · cases found
      exact ⟨_, rfl⟩
  · cases found

theorem Marked.opens {text name rest : List Char} {tag : Option (List Char)}
    (marked : Marked text name tag rest) : ∃ after, text = '$' :: '(' :: after := by
  cases marked <;> exact ⟨_, rfl⟩

theorem marked_iff_read? {text name rest : List Char} {tag : Option (List Char)} :
    Marked text name tag rest ↔ read? text = some (.named name tag, rest) := by
  constructor
  · intro marked
    obtain ⟨after, rfl⟩ := marked.opens
    rw [read?_opened]
    exact readNamed?_eq_some_iff.mpr ⟨name, tag, rfl, marked⟩
  · intro found
    unfold read? at found
    split at found
    · obtain ⟨_, _, same, marked⟩ := readNamed?_eq_some_iff.mp found
      cases same
      exact marked
    · split at found
      · obtain ⟨_, same⟩ := exists_slot_of_readSlot? found
        cases same
      · cases found

theorem eq_nul_of_read?_slot {c : Char} {text digits rest : List Char}
    (found : read? (c :: text) = some (.slot digits, rest)) : c = '\x00' := by
  unfold read? at found
  split at found
  · obtain ⟨_, _, same, _⟩ := readNamed?_eq_some_iff.mp found
    cases same
  · split at found
    · rename_i opened
      rw [Text.after?_eq_some_iff, slotOpening_eq] at opened
      simp only [List.cons_append, List.cons.injEq] at opened
      exact opened.1
    · cases found

theorem Marked.length_lt {text name rest : List Char} {tag : Option (List Char)}
    (marked : Marked text name tag rest) : rest.length < text.length := by
  cases marked <;> simp only [List.length_cons, List.length_append] <;> omega

theorem Marked.rest_subset {text name rest : List Char} {tag : Option (List Char)}
    (marked : Marked text name tag rest) : rest ⊆ text := by
  intro c member
  cases marked <;> simp [member]

/-! Marks do not depend on what follows a NUL. -/

theorem Marked.append {text name rest more : List Char} {tag : Option (List Char)}
    (marked : Marked text name tag rest) (ends : Text.Stops (· != '\x00') more) :
    Marked (text ++ more) name tag (rest ++ more) := by
  have noWord : Text.Stops Text.isWord more := by
    intro c after same
    have nul : c = '\x00' := by simpa using ends c after same
    rw [nul]
    decide
  cases marked with
  | plain filled inside untagged =>
      simp only [List.cons_append, List.append_assoc]
      refine .plain filled inside ?_
      intro c after same
      cases rest with
      | nil =>
          have nul : ':' = '\x00' := by simpa using ends ':' (c :: after) (by simpa using same)
          exact absurd nul (by decide)
      | cons first rest =>
          simp only [List.cons_append, List.cons.injEq] at same
          cases rest with
          | nil => exact noWord c after same.2
          | cons second rest =>
              simp only [List.cons_append, List.cons.injEq] at same
              exact untagged c rest (by rw [same.1, same.2.1])
  | tagged filled inside tagFilled tagInside stops =>
      simp only [List.cons_append, List.append_assoc]
      exact .tagged filled inside tagFilled tagInside (stops.append noWord)

theorem notNul_of_isNameChar {c : Char} (inside : Text.isWord c ∨ c = '.') :
    (c != '\x00') = true := by
  rw [bne_iff_ne]
  rintro rfl
  revert inside
  decide

theorem Marked.of_append {text name out more : List Char} {tag : Option (List Char)}
    (marked : Marked (text ++ more) name tag out) (ends : Text.Stops (· != '\x00') more) :
    ∃ rest, out = rest ++ more ∧ Marked text name tag rest := by
  generalize whole : text ++ more = joined at marked
  cases marked with
  | plain filled inside untagged =>
      have clean : ∀ c ∈ '$' :: '(' :: (name ++ [')']), (c != '\x00') = true := by
        intro c member
        simp only [List.mem_cons, List.mem_append, List.not_mem_nil, or_false] at member
        rcases member with rfl | rfl | named | rfl
        · decide
        · decide
        · exact notNul_of_isNameChar (inside c named)
        · decide
      obtain ⟨rest, rfl, rfl⟩ := Text.append_of_stops ('$' :: '(' :: (name ++ [')']))
        (by simpa using whole) clean ends
      refine ⟨rest, rfl, ?_⟩
      simp only [List.cons_append, List.append_assoc, List.nil_append]
      refine .plain filled inside ?_
      intro c after same
      exact untagged c (after ++ more) (by simp [same])
  | @tagged _ word _ filled inside tagFilled tagInside stops =>
      have clean : ∀ c ∈ '$' :: '(' :: (name ++ ')' :: ':' :: word), (c != '\x00') = true := by
        intro c member
        simp only [List.mem_cons, List.mem_append] at member
        rcases member with rfl | rfl | named | rfl | rfl | inWord
        · decide
        · decide
        · exact notNul_of_isNameChar (inside c named)
        · decide
        · decide
        · exact notNul_of_isNameChar (Or.inl (tagInside c inWord))
      obtain ⟨rest, rfl, rfl⟩ := Text.append_of_stops
        ('$' :: '(' :: (name ++ ')' :: ':' :: word)) (by simpa using whole) clean ends
      refine ⟨rest, rfl, ?_⟩
      simp only [List.cons_append, List.append_assoc]
      exact .tagged filled inside tagFilled tagInside stops.of_append

end SqlTemplate.Placeholder
