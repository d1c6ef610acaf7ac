import Mathlib.Data.List.Chain
import SqlTemplate.Proofs.Text.Blank

/-!
Texts with the same words. Neither the kind nor the length of the white space between words shows in
them, and with single spaces they have one form.
-/

namespace SqlTemplate.Text

/-- Two texts that differ in the kind and length of runs of white space only. -/
inductive Respaced : List Char → List Char → Prop
  | nil : Respaced [] []
  | char (c : Char) {text other : List Char} : Respaced text other →
      Respaced (c :: text) (c :: other)
  | run {gap gap' text other : List Char} : gap ≠ [] → (∀ c ∈ gap, isBlank c) → gap' ≠ [] →
      (∀ c ∈ gap', isBlank c) → Respaced text other → Respaced (gap ++ text) (gap' ++ other)

theorem Respaced.refl (text : List Char) : Respaced text text := by
  induction text with
  | nil => exact .nil
  | cons c text ih => exact .char c ih

theorem Respaced.append {text other more more' : List Char} (respaced : Respaced text other)
    (respaced' : Respaced more more') : Respaced (text ++ more) (other ++ more') := by
  induction respaced with
  | nil => exact respaced'
  | char c _ ih => exact .char c ih
  | run filled blank filled' blank' _ ih =>
      rw [List.append_assoc, List.append_assoc]
      exact .run filled blank filled' blank' ih

theorem Respaced.split {text other : List Char} (respaced : Respaced text other) {mark : Char}
    (solid : isBlank mark = false) : (mark ∉ text ∧ mark ∉ other) ∨
      ∃ before after before' after', text = before ++ mark :: after ∧
        other = before' ++ mark :: after' ∧ mark ∉ before ∧ mark ∉ before' ∧
        Respaced before before' ∧ Respaced after after' := by
  have outside : ∀ gap : List Char, (∀ c ∈ gap, isBlank c) → mark ∉ gap :=
    fun gap blank member => ne_of_isBlank (blank mark member) solid rfl
  induction respaced with
  | nil => exact Or.inl ⟨List.not_mem_nil, List.not_mem_nil⟩
  | @char c text other respaced ih =>
      by_cases here : c = mark
      · subst here
        exact Or.inr ⟨[], text, [], other, rfl, rfl, List.not_mem_nil, List.not_mem_nil, .nil,
          respaced⟩
      · rcases ih with ⟨absent, absent'⟩ |
          ⟨before, after, before', after', rfl, rfl, first, first', start, rest⟩
        · exact Or.inl ⟨by simp [Ne.symm here, absent], by simp [Ne.symm here, absent']⟩
        · exact Or.inr ⟨c :: before, after, c :: before', after', rfl, rfl,
            by simp [Ne.symm here, first], by simp [Ne.symm here, first'], .char c start, rest⟩
  | @run gap gap' text other filled blank filled' blank' _ ih =>
      have absentGap := outside gap blank
      have absentGap' := outside gap' blank'
      rcases ih with ⟨absent, absent'⟩ |
        ⟨before, after, before', after', rfl, rfl, first, first', start, rest⟩
      · exact Or.inl ⟨by simp [absentGap, absent], by simp [absentGap', absent']⟩
      · refine Or.inr ⟨gap ++ before, after, gap' ++ before', after', ?_, ?_, ?_, ?_, ?_, rest⟩
        · rw [List.append_assoc]
        · rw [List.append_assoc]
        · simp [absentGap, first]
        · simp [absentGap', first']
        · exact .run filled blank filled' blank' start

theorem words_blanks_append {blanks : List Char} (blank : ∀ c ∈ blanks, isBlank c)
    (text : List Char) : words (blanks ++ text) = words text := by
  induction blanks with
  | nil => rfl
  | cons c blanks ih =>
      obtain ⟨first, later⟩ := List.forall_mem_cons.mp blank
      rw [List.cons_append, words_blank_cons first, ih later]

theorem go_gap {gap : List Char} (filled : gap ≠ []) (blank : ∀ c ∈ gap, isBlank c)
    (current text : List Char) :
    words.go current (gap ++ text) = words.go current [] ++ words text := by
  obtain ⟨c, gap, rfl⟩ := List.exists_cons_of_ne_nil filled
  obtain ⟨first, later⟩ := List.forall_mem_cons.mp blank
  have behind := words_blanks_append later text
  rw [words, words] at behind
  by_cases empty : current = [] <;> simp [words.go, first, empty, behind, words]

theorem Respaced.words_eq {text other : List Char} (respaced : Respaced text other) :
    words text = words other := by
  have general : ∀ current, words.go current text = words.go current other := by
    induction respaced with
    | nil => exact fun _ => rfl
    | char c _ ih =>
        intro current
        simp only [words.go, ih]
    | run filled blank filled' blank' _ ih =>
        intro current
        rw [go_gap filled blank, go_gap filled' blank', words, words, ih]
  exact general []

theorem words_append_gap {gap rest : List Char} (blank : ∀ c ∈ gap, isBlank c)
    (stops : Stops isSolid rest) (text : List Char) :
    words (text ++ (gap ++ rest)) = words (text ++ rest) := by
  cases rest with
  | nil => rw [List.append_nil, List.append_nil, words_append_blanks blank]
  | cons c rest =>
      have first : isBlank c := by simpa [isSolid] using stops_cons_iff.mp stops
      have respaced : Respaced ((gap ++ [c]) ++ rest) ([c] ++ rest) :=
        .run (by simp) (List.forall_mem_append.mpr ⟨blank, by simpa using first⟩) (by simp)
          (by simpa using first) (.refl rest)
      rw [List.append_cons gap c rest]
      exact ((Respaced.refl text).append respaced).words_eq

@[simp] theorem flatten_words (text : List Char) : (words text).flatten = text.filter isSolid := by
  have general : ∀ current, (words.go current text).flatten =
      current.reverse ++ text.filter isSolid := by
    induction text with
    | nil =>
        intro current
        by_cases empty : current = [] <;> simp [words.go, empty]
    | cons c text ih =>
        intro current
        by_cases blank : isBlank c <;> by_cases empty : current = [] <;>
          simp [words.go, isSolid, blank, empty, ih]
  exact general []

theorem words_intersperse {parts : List (List Char)}
    (solid : ∀ word ∈ parts, word ≠ [] ∧ ∀ c ∈ word, isSolid c) :
    words (parts.intersperse [' ']).flatten = parts := by
  by_cases filled : parts = []
  · rw [filled]
    rfl
  · have whole := words_intersperse_append filled solid stops_nil
    have nothing : words [] = [] := rfl
    rwa [List.append_nil, nothing, List.append_nil] at whole

@[simp] theorem words_unwords (text : List Char) : words (unwords text) = words text :=
  words_intersperse fun _ member => solid_of_mem_words member

@[simp] theorem unwords_unwords (text : List Char) : unwords (unwords text) = unwords text := by
  rw [unwords, words_unwords, ← unwords]

@[simp]
theorem filter_unwords (text : List Char) :
    (unwords text).filter isSolid = text.filter isSolid := by
  rw [← flatten_words, words_unwords, flatten_words]

structure SingleSpaced (text : List Char) : Prop where
  starts : Stops isBlank text
  ends : Stops isBlank text.reverse
  spaces : ∀ c ∈ text, isBlank c → c = ' '
  apart : text.IsChain fun c d => ¬(isBlank c ∧ isBlank d)

theorem singleSpaced_nil : SingleSpaced [] :=
  ⟨stops_nil, stops_nil, List.forall_mem_nil _, .nil⟩

theorem isBlank_of_isSolid {c : Char} (solid : isSolid c) : isBlank c = false := by
  simpa [isSolid] using solid

theorem singleSpaced_word {word : List Char} (solid : ∀ c ∈ word, isSolid c) :
    SingleSpaced word := by
  have outside : ∀ c ∈ word, isBlank c = false := fun c member =>
    isBlank_of_isSolid (solid c member)
  refine ⟨stops_of_outside outside, ?_, ?_, ?_⟩
  · exact stops_of_outside fun c member => outside c (List.mem_reverse.mp member)
  · intro c member blank
    rw [outside c member] at blank
    contradiction
  · refine (List.pairwise_of_forall_mem_list ?_).isChain
    rintro c member _ _ ⟨blank, _⟩
    rw [outside c member] at blank
    contradiction

theorem SingleSpaced.word_space {word text : List Char} (filled : word ≠ [])
    (solid : ∀ c ∈ word, isSolid c) (filled' : text ≠ []) (spaced : SingleSpaced text) :
    SingleSpaced (word ++ ' ' :: text) := by
  have alone := singleSpaced_word solid
  obtain ⟨c, rest, rfl⟩ := List.exists_cons_of_ne_nil filled'
  have first : isBlank c = false := stops_cons_iff.mp spaced.starts
  refine ⟨alone.starts.append_of_ne_nil filled _, ?_, ?_, ?_⟩
  · rw [List.append_cons, List.reverse_append]
    exact spaced.ends.append_of_ne_nil (by simp) _
  · intro d member blank
    rw [List.mem_append, List.mem_cons] at member
    rcases member with inWord | same | inText
    · exact alone.spaces d inWord blank
    · exact same
    · exact spaced.spaces d inText blank
  · refine List.isChain_append.mpr ⟨alone.apart, ?_, ?_⟩
    · exact List.isChain_cons_cons.mpr ⟨by simp [first], spaced.apart⟩
    · rintro d last _ _ ⟨blank, _⟩
      rw [isBlank_of_isSolid (solid d (List.mem_of_getLast? last))] at blank
      contradiction

theorem singleSpaced_intersperse {parts : List (List Char)}
    (solid : ∀ word ∈ parts, word ≠ [] ∧ ∀ c ∈ word, isSolid c) :
    SingleSpaced (parts.intersperse [' ']).flatten := by
  induction parts with
  | nil => exact singleSpaced_nil
  | cons first others ih =>
      obtain ⟨⟨filled, inside⟩, later⟩ := List.forall_mem_cons.mp solid
      cases others with
      | nil => simpa using singleSpaced_word inside
      | cons second others =>
          have more : ((second :: others).intersperse [' ']).flatten ≠ [] := by
            intro empty
            have none := words_intersperse later
            rw [empty] at none
            simp [words, words.go] at none
          simpa using (ih later).word_space filled inside more

theorem singleSpaced_unwords (text : List Char) : SingleSpaced (unwords text) :=
  singleSpaced_intersperse fun _ member => solid_of_mem_words member

theorem mem_unwords {text : List Char} {c : Char} (member : c ∈ unwords text) :
    c = ' ' ∨ c ∈ text := by
  by_cases blank : isBlank c
  · exact Or.inl ((singleSpaced_unwords text).spaces c member blank)
  · right
    have inside : c ∈ (unwords text).filter isSolid :=
      List.mem_filter.mpr ⟨member, by simp [isSolid, blank]⟩
    rw [filter_unwords] at inside
    exact (List.mem_filter.mp inside).1

end SqlTemplate.Text
