import SqlTemplate.Proofs.Ident

/-!
The grammar of identifiers, apart from how they are read. Reading accepts exactly the texts of the
grammar that hold no NUL, and gives the one identifier that is written so.
-/

namespace SqlTemplate.Ident

def IsLetter (c : Char) : Prop :=
  ('A' ≤ c ∧ c ≤ 'Z') ∨ ('a' ≤ c ∧ c ≤ 'z')

/-- A letter or an underscore, then letters, digits, underscores and dollar signs. -/
inductive BareWord : List Char → Prop
  | mk {first : Char} {rest : List Char} : IsLetter first ∨ first = '_' →
      (∀ c ∈ rest, IsLetter c ∨ ('0' ≤ c ∧ c ≤ '9') ∨ c = '_' ∨ c = '$') →
      BareWord (first :: rest)

inductive Doubled : List Char → Prop
  | nil : Doubled []
  | pair {rest : List Char} : Doubled rest → Doubled ('"' :: '"' :: rest)
  | other {c : Char} {rest : List Char} : c ≠ '"' → Doubled rest → Doubled (c :: rest)

/-- A part is a bare word, or any text but the empty one in quotes, with each quote in it
doubled. -/
inductive PartText : List Char → Prop
  | bare {word : List Char} : BareWord word → PartText word
  | quoted {inner : List Char} : inner ≠ [] → Doubled inner → PartText ('"' :: (inner ++ ['"']))

inductive Qualified : List Char → Prop
  | name {part : List Char} : PartText part → Qualified part
  | dot {part rest : List Char} : PartText part → Qualified rest → Qualified (part ++ '.' :: rest)

def Part.WellFormed : Part → Prop
  | .bare name => BareWord name
  | .quoted name => name ≠ [] ∧ '\x00' ∉ name

theorem isAlpha_iff {c : Char} : c.isAlpha ↔ IsLetter c := by
  unfold Char.isAlpha Char.isUpper Char.isLower IsLetter
  simp only [Bool.or_eq_true, Bool.and_eq_true, decide_eq_true_eq, Char.le_def]

theorem isBareStart_iff {c : Char} : Text.isBareStart c ↔ IsLetter c ∨ c = '_' := by
  simp only [Text.isBareStart, Bool.or_eq_true, isAlpha_iff, beq_iff_eq]

theorem isBareLater_iff {c : Char} :
    Text.isBareLater c ↔ IsLetter c ∨ ('0' ≤ c ∧ c ≤ '9') ∨ c = '_' ∨ c = '$' := by
  have digit : c.isDigit ↔ '0' ≤ c ∧ c ≤ '9' := by
    simp only [Char.isDigit, Bool.and_eq_true, decide_eq_true_eq, Char.le_def]
  simp only [Text.isBareLater, Text.isAsciiWord, Char.isAlphanum, Bool.or_eq_true, isAlpha_iff,
    digit, beq_iff_eq, or_assoc]

theorem bareWord_cons_iff {first : Char} {rest : List Char} :
    BareWord (first :: rest) ↔ Text.isBareStart first ∧ rest.all Text.isBareLater := by
  rw [List.all_eq_true, isBareStart_iff]
  constructor
  · intro word
    cases word with
    | mk start later => exact ⟨start, fun c member => isBareLater_iff.mpr (later c member)⟩
  · rintro ⟨start, later⟩
    exact .mk start fun c member => isBareLater_iff.mp (later c member)

theorem BareWord.plain {word : List Char} (bare : BareWord word) {c : Char} (member : c ∈ word) :
    c ≠ '.' ∧ c ≠ '"' ∧ c ≠ '\x00' := by
  have inside : Text.isBareLater c := by
    cases word with
    | nil => cases member
    | cons first rest =>
        obtain ⟨start, later⟩ := bareWord_cons_iff.mp bare
        rcases List.mem_cons.mp member with rfl | inRest
        · exact Text.isBareLater_of_isBareStart start
        · exact List.all_eq_true.mp later c inRest
  refine ⟨?_, ?_, ?_⟩ <;> rintro rfl <;> revert inside <;> decide

theorem doubled_double (name : List Char) : Doubled (double name) := by
  induction name with
  | nil => exact .nil
  | cons c rest ih =>
      by_cases quote : c = '"'
      · simp only [double, quote, if_true]
        exact .pair ih
      · simp only [double, quote, if_false]
        exact .other quote ih

theorem Doubled.hasLoneQuote {text : List Char} (doubled : Doubled text) :
    hasLoneQuote text = false := by
  induction doubled with
  | nil => rfl
  | pair _ ih => simpa only [Ident.hasLoneQuote] using ih
  | @other c rest noQuote _ ih =>
      rw [Ident.hasLoneQuote]
      · simp [noQuote, ih]
      · rintro after rfl
        exact absurd rfl noQuote

@[simp] theorem undouble_double (name : List Char) : undouble (double name) = name := by
  induction name with
  | nil => rfl
  | cons c rest ih =>
      by_cases quote : c = '"'
      · simp only [double, quote, if_true, undouble, ih]
      · simp only [double, quote, if_false]
        rw [undouble]
        · rw [ih]
        · rintro after rfl
          exact absurd rfl quote

/-- Between quotes, a doubled quote closes one stretch of quoted text and opens the next. What holds
of a text, and before it of any such stretch, holds before it of a whole name. -/
theorem double_stretches {P : List Char → Prop}
    (stretch : ∀ inner text, '"' ∉ inner → P text → P ('"' :: (inner ++ '"' :: text)))
    {text : List Char} (holds : P text) (name : List Char) :
    P ('"' :: (double name ++ '"' :: text)) := by
  have behind : ∀ before, '"' ∉ before → P ('"' :: (before ++ (double name ++ '"' :: text))) := by
    induction name with
    | nil => exact fun before noQuote => stretch before text noQuote holds
    | cons c name ih =>
        intro before noQuote
        by_cases quote : c = '"'
        · simpa [double, quote] using stretch before _ noQuote (ih [] List.not_mem_nil)
        · have longer : '"' ∉ before ++ [c] := by
            simp [noQuote, Ne.symm quote]
          simpa [double, quote] using ih (before ++ [c]) longer
  exact behind [] List.not_mem_nil

@[simp] theorem double_eq_nil_iff {name : List Char} : double name = [] ↔ name = [] := by
  cases name with
  | nil => simp [double]
  | cons c rest =>
      by_cases quote : c = '"' <;> simp [double, quote]

@[simp] theorem mem_double_iff {c : Char} {name : List Char} : c ∈ double name ↔ c ∈ name := by
  induction name with
  | nil => rfl
  | cons first rest ih =>
      by_cases quote : first = '"' <;> simp [double, quote, ih]

@[simp] theorem betweenQuotes?_quoted (inner : List Char) :
    betweenQuotes? ('"' :: (inner ++ ['"'])) = some inner := by
  simp [betweenQuotes?]

theorem readPart_text {part : Part} (wellFormed : part.WellFormed) :
    readPart part.text = .ok part := by
  cases part with
  | bare name =>
      cases name with
      | nil => cases wellFormed
      | cons first rest =>
          have noQuote : first ≠ '"' := (BareWord.plain wellFormed List.mem_cons_self).2.1
          have inside := bareWord_cons_iff.mp wellFormed
          rw [Part.text, readPart]
          · rw [if_pos inside]
          · rintro rfl
            exact absurd rfl noQuote
  | quoted name =>
      have filled : double name ≠ [] := fun empty => wellFormed.1 (double_eq_nil_iff.mp empty)
      rw [Part.text, readPart, betweenQuotes?_quoted]
      split
      next absent => cases absent
      next empty => exact absurd (Option.some.inj empty) filled
      next inner _ same =>
        cases same
        rw [(doubled_double name).hasLoneQuote, undouble_double]
        rfl

theorem wellFormed_of_readPart {text : List Char} {part : Part}
    (accepted : readPart text = .ok part) (noNul : '\x00' ∉ text) : part.WellFormed := by
  have written := text_of_readPart accepted
  unfold readPart at accepted
  split at accepted
  next => cases accepted
  next rest =>
    split at accepted
    next => cases accepted
    next => cases accepted
    next inner filled between =>
      split at accepted
      next => cases accepted
      next =>
        cases accepted
        rw [← written] at noNul
        simp only [Part.text, List.mem_cons, List.mem_append, mem_double_iff, not_or] at noNul
        refine ⟨?_, noNul.2.1⟩
        intro empty
        have nothing : double (undouble inner) = [] := double_eq_nil_iff.mpr empty
        have quoted : '"' :: (double (undouble inner) ++ ['"']) = '"' :: rest := written
        rw [between_of_betweenQuotes? between, nothing, List.cons_inj_right,
          List.append_left_inj] at quoted
        exact filled quoted.symm
  next first rest _ =>
    split at accepted
    next inside =>
      cases accepted
      exact bareWord_cons_iff.mpr inside
    next => cases accepted

theorem nul_not_mem_text {part : Part} (wellFormed : part.WellFormed) : '\x00' ∉ part.text := by
  cases part with
  | bare name =>
      intro member
      exact (BareWord.plain wellFormed member).2.2 rfl
  | quoted name =>
      simp only [Part.text, List.mem_cons, List.mem_append, mem_double_iff, List.not_mem_nil,
        or_false, not_or]
      exact ⟨by decide, wellFormed.2, by decide⟩

theorem splitParts?_append_dot {inQuotes : Bool} {part : List Char}
    (whole : splitParts? inQuotes part = some [part]) (rest : List Char) :
    splitParts? inQuotes (part ++ '.' :: rest) =
      (splitParts? false rest).map (part :: ·) := by
  induction part generalizing inQuotes with
  | nil =>
      cases inQuotes with
      | true => cases whole
      | false => simp [splitParts?]
  | cons c part ih =>
      simp only [splitParts?] at whole
      split at whole
      next =>
        obtain ⟨others, _, same⟩ := Option.map_eq_some_iff.mp whole
        cases same
      next inside =>
        split at whole
        next first others later =>
          simp only [Option.some.injEq, List.cons.injEq, true_and] at whole
          obtain ⟨rfl, rfl⟩ := whole
          rw [List.cons_append, splitParts?, if_neg inside, ih later]
          cases splitParts? false rest <;> rfl
        next => cases whole

@[simp] theorem splitParts?_quoted (name : List Char) :
    splitParts? true (double name ++ ['"']) = some [double name ++ ['"']] := by
  induction name with
  | nil => rfl
  | cons c rest ih =>
      by_cases quote : c = '"' <;> simp [double, quote, splitParts?, ih]

theorem splitParts?_text {part : Part} (wellFormed : part.WellFormed) :
    splitParts? false part.text = some [part.text] := by
  cases part with
  | bare name =>
      apply splitParts?_of_plain
      intro c member
      have plain := BareWord.plain wellFormed member
      exact ⟨plain.1, plain.2.1⟩
  | quoted name => simp [Part.text, splitParts?]

theorem splitParts?_textOf_of_whole {part : Part} {parts : List Part}
    (whole : ∀ other ∈ part :: parts, splitParts? false other.text = some [other.text]) :
    splitParts? false (textOf (part :: parts)) = some ((part :: parts).map Part.text) := by
  induction parts generalizing part with
  | nil => exact whole part List.mem_cons_self
  | cons next rest ih =>
      obtain ⟨here, later⟩ := List.forall_mem_cons.mp whole
      rw [textOf, splitParts?_append_dot here, ih later]
      · rfl
      · exact List.cons_ne_nil next rest

theorem splitParts?_textOf {part : Part} {parts : List Part}
    (wellFormed : ∀ other ∈ part :: parts, other.WellFormed) :
    splitParts? false (textOf (part :: parts)) = some ((part :: parts).map Part.text) :=
  splitParts?_textOf_of_whole fun other member => splitParts?_text (wellFormed other member)

theorem mapM_readPart_texts {parts : List Part} (wellFormed : ∀ part ∈ parts, part.WellFormed) :
    (parts.map Part.text).mapM readPart = .ok parts := by
  induction parts with
  | nil => rfl
  | cons part rest ih =>
      obtain ⟨here, later⟩ := List.forall_mem_cons.mp wellFormed
      rw [List.map_cons, List.mapM_cons, readPart_text here, ih later]
      rfl

theorem wellFormed_of_mapM_readPart {texts : List (List Char)} {parts : List Part}
    (accepted : texts.mapM readPart = .ok parts) (noNul : ∀ text ∈ texts, '\x00' ∉ text) :
    ∀ part ∈ parts, part.WellFormed := by
  induction texts generalizing parts with
  | nil =>
      cases accepted
      intro part member
      cases member
  | cons text rest ih =>
      rw [List.mapM_cons] at accepted
      obtain ⟨part, first, accepted⟩ := Result.bind_eq_ok_iff.mp accepted
      obtain ⟨others, later, accepted⟩ := Result.bind_eq_ok_iff.mp accepted
      cases accepted
      obtain ⟨noNulHere, noNulLater⟩ := List.forall_mem_cons.mp noNul
      exact List.forall_mem_cons.mpr ⟨wellFormed_of_readPart first noNulHere, ih later noNulLater⟩

theorem mem_dotted_of_mem {c : Char} {texts : List (List Char)} {text : List Char}
    (inTexts : text ∈ texts) (inText : c ∈ text) : c ∈ dotted texts := by
  induction texts with
  | nil => cases inTexts
  | cons first rest ih =>
      cases rest with
      | nil =>
          rw [List.mem_singleton] at inTexts
          exact inTexts ▸ inText
      | cons next rest =>
          rw [dotted_cons_cons]
          rcases List.mem_cons.mp inTexts with here | later
          · exact List.mem_append_left _ (here ▸ inText)
          · exact List.mem_append_right _ (List.mem_cons_of_mem _ (ih later))

theorem nul_not_mem_textOf {parts : List Part} (wellFormed : ∀ part ∈ parts, part.WellFormed) :
    '\x00' ∉ textOf parts := by
  induction parts with
  | nil => exact List.not_mem_nil
  | cons part rest ih =>
      obtain ⟨here, later⟩ := List.forall_mem_cons.mp wellFormed
      cases rest with
      | nil => exact nul_not_mem_text here
      | cons next rest =>
          rw [textOf]
          · simp only [List.mem_append, List.mem_cons, not_or]
            exact ⟨nul_not_mem_text here, by decide, ih later⟩
          · exact List.cons_ne_nil next rest

theorem read_text {parts : List Part} (filled : parts ≠ [])
    (wellFormed : ∀ part ∈ parts, part.WellFormed) : read (textOf parts) = .ok ⟨parts⟩ := by
  obtain ⟨part, rest, rfl⟩ := List.exists_cons_of_ne_nil filled
  have noNul : ¬(textOf (part :: rest)).contains '\x00' := by
    simpa using nul_not_mem_textOf wellFormed
  have notEmpty : ¬(textOf (part :: rest)).isEmpty := by
    intro empty
    have split := splitParts?_textOf wellFormed
    rw [List.isEmpty_iff.mp empty] at split
    have parts : [] = part.text ∧ rest = [] := by
      simpa [splitParts?] using split
    have nothing := readPart_text (wellFormed part List.mem_cons_self)
    rw [← parts.1] at nothing
    cases nothing
  unfold read
  rw [if_neg notEmpty, if_neg noNul, splitParts?_textOf wellFormed]
  simp only [mapM_readPart_texts wellFormed]
  rfl

theorem read_eq_ok_iff {text : List Char} {ident : Ident} :
    read text = .ok ident ↔
      ident.text = text ∧ ident.parts ≠ [] ∧ ∀ part ∈ ident.parts, part.WellFormed := by
  constructor
  · intro accepted
    refine ⟨text_of_read accepted, ?_⟩
    unfold read at accepted
    split at accepted
    next => cases accepted
    next =>
      split at accepted
      next => cases accepted
      next noNul =>
        split at accepted
        next => cases accepted
        next texts split =>
          obtain ⟨parts, read, accepted⟩ := Result.bind_eq_ok_iff.mp accepted
          cases accepted
          constructor
          · obtain ⟨first, rest, rfl⟩ := exists_cons_of_splitParts? split
            rintro rfl
            have texts := texts_of_mapM_readPart read
            cases texts
          · apply wellFormed_of_mapM_readPart read
            intro part member inPart
            apply noNul
            rw [List.contains_iff_mem, ← dotted_of_splitParts? split]
            exact mem_dotted_of_mem member inPart
  · rintro ⟨rfl, filled, wellFormed⟩
    exact read_text filled wellFormed

theorem partText_text {part : Part} (wellFormed : part.WellFormed) : PartText part.text := by
  cases part with
  | bare name => exact .bare wellFormed
  | quoted name =>
      apply PartText.quoted
      · intro empty
        exact wellFormed.1 (double_eq_nil_iff.mp empty)
      · exact doubled_double name

theorem exists_part {text : List Char} (inGrammar : PartText text) (noNul : '\x00' ∉ text) :
    ∃ part : Part, part.WellFormed ∧ part.text = text := by
  cases inGrammar with
  | bare word => exact ⟨.bare text, word, rfl⟩
  | @quoted inner filled doubled =>
      have same := double_undouble doubled.hasLoneQuote
      refine ⟨.quoted (undouble inner), ⟨?_, ?_⟩, by rw [Part.text, same]⟩
      · intro empty
        rw [empty] at same
        exact filled same.symm
      · intro member
        apply noNul
        rw [← mem_double_iff, same] at member
        simp [member]

theorem qualified_textOf_of_partText {part : Part} {parts : List Part}
    (inGrammar : ∀ other ∈ part :: parts, PartText other.text) :
    Qualified (textOf (part :: parts)) := by
  induction parts generalizing part with
  | nil => exact .name (inGrammar part List.mem_cons_self)
  | cons next rest ih =>
      obtain ⟨here, later⟩ := List.forall_mem_cons.mp inGrammar
      rw [textOf]
      · exact .dot here (ih later)
      · exact List.cons_ne_nil next rest

theorem qualified_textOf {part : Part} {parts : List Part}
    (wellFormed : ∀ other ∈ part :: parts, other.WellFormed) :
    Qualified (textOf (part :: parts)) :=
  qualified_textOf_of_partText fun other member => partText_text (wellFormed other member)

theorem PartText.whole {text : List Char} (inGrammar : PartText text) :
    splitParts? false text = some [text] := by
  cases inGrammar with
  | bare word =>
      apply splitParts?_of_plain
      intro c member
      have plain := word.plain member
      exact ⟨plain.1, plain.2.1⟩
  | @quoted inner _ doubled =>
      have read := splitParts?_quoted (undouble inner)
      rw [double_undouble doubled.hasLoneQuote] at read
      simp [splitParts?, read]

theorem Qualified.exists_splitParts? {text : List Char} (qualified : Qualified text) :
    ∃ texts, splitParts? false text = some texts ∧ ∀ part ∈ texts, PartText part := by
  induction qualified with
  | name inGrammar => exact ⟨_, inGrammar.whole, by simpa using inGrammar⟩
  | dot inGrammar _ ih =>
      obtain ⟨texts, split, others⟩ := ih
      exact ⟨_, by rw [splitParts?_append_dot inGrammar.whole, split, Option.map_some],
        List.forall_mem_cons.mpr ⟨inGrammar, others⟩⟩

theorem exists_parts {text : List Char} (qualified : Qualified text) (noNul : '\x00' ∉ text) :
    ∃ parts, parts ≠ [] ∧ (∀ part ∈ parts, part.WellFormed) ∧ textOf parts = text := by
  induction qualified with
  | name inGrammar =>
      obtain ⟨part, wellFormed, rfl⟩ := exists_part inGrammar noNul
      exact ⟨[part], List.cons_ne_nil _ _, by simpa using wellFormed, rfl⟩
  | @dot first rest inGrammar _ ih =>
      simp only [List.mem_append, List.mem_cons, not_or] at noNul
      obtain ⟨part, here, rfl⟩ := exists_part inGrammar noNul.1
      obtain ⟨parts, filled, later, rfl⟩ := ih noNul.2.2
      obtain ⟨next, others, rfl⟩ := List.exists_cons_of_ne_nil filled
      exact ⟨part :: next :: others, List.cons_ne_nil _ _,
        List.forall_mem_cons.mpr ⟨here, later⟩, rfl⟩

/-- The texts that are read are those of the grammar without a NUL. What is read is written as the
same text, and every identifier of well-formed parts is what its text is read as. -/
theorem read_exactly_grammar (text : List Char) :
    ((∃ ident, read text = .ok ident) ↔ '\x00' ∉ text ∧ Qualified text) ∧
      ∀ ident, read text = .ok ident ↔
        ident.text = text ∧ ident.parts ≠ [] ∧ ∀ part ∈ ident.parts, part.WellFormed := by
  refine ⟨?_, fun ident => read_eq_ok_iff⟩
  constructor
  · rintro ⟨⟨parts⟩, accepted⟩
    obtain ⟨rfl, filled, wellFormed⟩ := read_eq_ok_iff.mp accepted
    obtain ⟨part, rest, rfl⟩ := List.exists_cons_of_ne_nil filled
    exact ⟨nul_not_mem_textOf wellFormed, qualified_textOf wellFormed⟩
  · rintro ⟨noNul, qualified⟩
    obtain ⟨parts, filled, wellFormed, rfl⟩ := exists_parts qualified noNul
    exact ⟨⟨parts⟩, read_text filled wellFormed⟩

end SqlTemplate.Ident
