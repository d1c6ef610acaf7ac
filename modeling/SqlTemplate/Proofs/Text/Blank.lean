import SqlTemplate.Proofs.Text.Run
import SqlTemplate.Text.Blank
import SqlTemplate.Text.WordChar

/-! White space: against the characters of words, at the ends of texts and between words. -/

namespace SqlTemplate.Text

theorem isWord_of_isAsciiWord {c : Char} (word : isAsciiWord c) : isWord c := by
  have ascii : c.toNat < 128 := by
    unfold isAsciiWord Char.isAlphanum Char.isAlpha Char.isUpper Char.isLower Char.isDigit at word
    simp only [Bool.or_eq_true, Bool.and_eq_true, decide_eq_true_eq, beq_iff_eq] at word
    rcases word with ((upper | lower) | digit) | rfl
    · exact Nat.lt_of_le_of_lt (UInt32.le_iff_toNat_le.mp upper.2) (by decide)
    · exact Nat.lt_of_le_of_lt (UInt32.le_iff_toNat_le.mp lower.2) (by decide)
    · exact Nat.lt_of_le_of_lt (UInt32.le_iff_toNat_le.mp digit.2) (by decide)
    · decide
  rw [isWord, if_pos ascii]
  exact word

def blankCodes : List Nat :=
  [0x20, 0x09, 0x0A, 0x0B, 0x0C, 0x0D, 0x85, 0xA0, 0x1680, 0x2000, 0x2001, 0x2002, 0x2003, 0x2004,
    0x2005, 0x2006, 0x2007, 0x2008, 0x2009, 0x200A, 0x2028, 0x2029, 0x202F, 0x205F, 0x3000]

theorem toNat_mem_blankCodes {c : Char} (blank : isBlank c) : c.toNat ∈ blankCodes := by
  simp only [isBlank, Bool.or_eq_true, Bool.and_eq_true, beq_iff_eq, decide_eq_true_eq] at blank
  simp only [blankCodes, List.mem_cons, List.not_mem_nil, or_false]
  omega

theorem isWord_of_isBlank {c : Char} (blank : isBlank c) : isWord c = false := by
  have none : ∀ code ∈ blankCodes, isWord (Char.ofNat code) = false := by decide +kernel
  have here := none c.toNat (toNat_mem_blankCodes blank)
  rwa [Char.ofNat_toNat] at here

theorem ne_of_isBlank {c d : Char} (blank : isBlank c) (solid : isBlank d = false) : c ≠ d := by
  rintro rfl
  rw [solid] at blank
  contradiction

theorem isBlank_of_isWord {c : Char} (word : isWord c) : isBlank c = false := by
  cases blank : isBlank c with
  | false => rfl
  | true =>
      rw [isWord_of_isBlank blank] at word
      contradiction

def isSolid (c : Char) : Bool :=
  !isBlank c

theorem stops_isSolid_of_blanks {blanks : List Char} (blank : ∀ c ∈ blanks, isBlank c) :
    Stops isSolid blanks := by
  rintro c rest rfl
  simp [isSolid, blank c List.mem_cons_self]

theorem trimLeft_blanks_append {blanks text : List Char} (blank : ∀ c ∈ blanks, isBlank c)
    (stops : Stops isBlank text) : trimLeft (blanks ++ text) = text :=
  dropWhile_append_of_stops blank stops

theorem trimLeft_eq_self {text : List Char} (starts : Stops isBlank text) : trimLeft text = text :=
  trimLeft_blanks_append (List.forall_mem_nil _) starts

theorem exists_trimRight_append (text : List Char) :
    ∃ blanks, (∀ c ∈ blanks, isBlank c) ∧ text = trimRight text ++ blanks := by
  refine ⟨(text.reverse.takeWhile isBlank).reverse, ?_, ?_⟩
  · intro c member
    exact List.all_eq_true.mp List.all_takeWhile c (List.mem_reverse.mp member)
  · rw [trimRight, ← List.reverse_append, List.takeWhile_append_dropWhile, List.reverse_reverse]

theorem exists_trim_append (text : List Char) :
    ∃ blanks blanks', (∀ c ∈ blanks, isBlank c) ∧ (∀ c ∈ blanks', isBlank c) ∧
      text = blanks ++ (trim text ++ blanks') := by
  obtain ⟨blanks', blank', ends⟩ := exists_trimRight_append (trimLeft text)
  refine ⟨text.takeWhile isBlank, blanks', fun c => List.all_eq_true.mp List.all_takeWhile c,
    blank', ?_⟩
  rw [trim, ← ends, trimLeft, List.takeWhile_append_dropWhile]

theorem trimRight_eq_self {text : List Char} (ends : Stops isBlank text.reverse) :
    trimRight text = text := by
  rw [trimRight, ← trimLeft, trimLeft_eq_self ends, List.reverse_reverse]

theorem trim_eq_self {text : List Char} (starts : Stops isBlank text)
    (ends : Stops isBlank text.reverse) : trim text = text := by
  rw [trim, trimLeft_eq_self starts, trimRight_eq_self ends]

theorem trim_around {before text after : List Char} (blank : ∀ c ∈ before, isBlank c)
    (blank' : ∀ c ∈ after, isBlank c) (filled : text ≠ []) (starts : Stops isBlank text)
    (ends : Stops isBlank text.reverse) : trim (before ++ (text ++ after)) = text := by
  have trailing : ∀ c ∈ after.reverse, isBlank c :=
    fun c member => blank' c (List.mem_reverse.mp member)
  rw [trim, trimLeft_blanks_append blank (starts.append_of_ne_nil filled after), trimRight,
    List.reverse_append, dropWhile_append_of_stops trailing ends, List.reverse_reverse]

theorem words_blank_cons {c : Char} (blank : isBlank c) (rest : List Char) :
    words (c :: rest) = words rest := by
  simp [words, words.go, blank]

theorem go_append (current run rest : List Char) (solid : ∀ c ∈ run, isSolid c) :
    words.go current (run ++ rest) = words.go (run.reverse ++ current) rest := by
  induction run generalizing current with
  | nil => rfl
  | cons c run ih =>
      obtain ⟨first, later⟩ := List.forall_mem_cons.mp solid
      have notBlank : isBlank c = false := by simpa [isSolid] using first
      simp [words.go, notBlank, ih _ later]

theorem words_append {word rest : List Char} (filled : word ≠ []) (solid : ∀ c ∈ word, isSolid c)
    (stops : Stops isSolid rest) : words (word ++ rest) = word :: words rest := by
  rw [words, go_append [] word rest solid]
  cases rest with
  | nil => simp [words, words.go, filled]
  | cons c rest =>
      have blank : isBlank c := by simpa [isSolid] using stops_cons_iff.mp stops
      simp [words, words.go, filled, blank]

theorem words_intersperse_append {parts : List (List Char)} (filled : parts ≠ [])
    (solid : ∀ word ∈ parts, word ≠ [] ∧ ∀ c ∈ word, isSolid c) {rest : List Char}
    (stops : Stops isSolid rest) :
    words ((parts.intersperse [' ']).flatten ++ rest) = parts ++ words rest := by
  induction parts with
  | nil => exact absurd rfl filled
  | cons first others ih =>
      obtain ⟨⟨here, inside⟩, later⟩ := List.forall_mem_cons.mp solid
      cases others with
      | nil => simpa using words_append here inside stops
      | cons second others =>
          have space : Stops isSolid
              (' ' :: (((second :: others).intersperse [' ']).flatten ++ rest)) :=
            stops_cons_iff.mpr (by decide)
          have whole := words_append here inside space
          rw [words_blank_cons (by decide), ih (List.cons_ne_nil _ _) later] at whole
          simpa using whole

theorem go_ne_nil {current : List Char} (filled : current ≠ []) (text : List Char) :
    words.go current text ≠ [] := by
  induction text generalizing current with
  | nil => simp [words.go, filled]
  | cons c rest ih =>
      by_cases blank : isBlank c
      · simp [words.go, blank, filled]
      · simpa [words.go, blank] using ih (List.cons_ne_nil c current)

theorem words_ne_nil_iff {text : List Char} : words text ≠ [] ↔ ∃ c ∈ text, isSolid c := by
  induction text with
  | nil => simp [words, words.go]
  | cons c rest ih =>
      by_cases blank : isBlank c
      · rw [words_blank_cons blank, ih]
        simp [isSolid, blank]
      · have first : words (c :: rest) = words.go [c] rest := by
          simp [words, words.go, blank]
        rw [first]
        exact iff_of_true (go_ne_nil (List.cons_ne_nil c []) rest)
          ⟨c, List.mem_cons_self, by simp [isSolid, blank]⟩

theorem words_append_blanks {blanks : List Char} (blank : ∀ c ∈ blanks, isBlank c)
    (text : List Char) : words (text ++ blanks) = words text := by
  have trailing : ∀ current, words.go current blanks = words.go current [] := by
    induction blanks with
    | nil => exact fun _ => rfl
    | cons c blanks ih =>
        obtain ⟨first, later⟩ := List.forall_mem_cons.mp blank
        intro current
        simp [words.go, first, ih later]
  have general : ∀ current, words.go current (text ++ blanks) = words.go current text := by
    induction text with
    | nil => exact trailing
    | cons c text ih =>
        intro current
        simp only [List.cons_append, words.go, ih]
  exact general []

theorem words_append_blank_cons (text : List Char) {c : Char} (blank : isBlank c)
    (rest : List Char) : words (text ++ c :: rest) = words text ++ words rest := by
  have general : ∀ current, words.go current (text ++ c :: rest) =
      words.go current text ++ words rest := by
    induction text with
    | nil =>
        intro current
        by_cases empty : current = [] <;> simp [words.go, blank, empty, words]
    | cons d text ih =>
        intro current
        by_cases blank' : isBlank d <;> by_cases empty : current = [] <;>
          simp [words.go, blank', empty, ih]
  exact general []

theorem solid_of_mem_go {current text word : List Char} (solid : ∀ c ∈ current, isSolid c)
    (member : word ∈ words.go current text) : word ≠ [] ∧ ∀ c ∈ word, isSolid c := by
  induction text generalizing current with
  | nil =>
      by_cases empty : current = []
      · simp [words.go, empty] at member
      · obtain rfl : word = current.reverse := by simpa [words.go, empty] using member
        exact ⟨by simpa using empty, fun c inWord => solid c (List.mem_reverse.mp inWord)⟩
  | cons d text ih =>
      by_cases blank : isBlank d
      · by_cases empty : current = []
        · exact ih (List.forall_mem_nil _) (by simpa [words.go, blank, empty] using member)
        · simp only [words.go, blank, if_true, List.isEmpty_iff, empty, if_false,
            List.mem_cons] at member
          rcases member with rfl | later
          · exact ⟨by simpa using empty, fun c inWord => solid c (List.mem_reverse.mp inWord)⟩
          · exact ih (List.forall_mem_nil _) later
      · have first : isSolid d := by simpa [isSolid] using blank
        exact ih (List.forall_mem_cons.mpr ⟨first, solid⟩) (by simpa [words.go, blank] using member)

theorem solid_of_mem_words {text word : List Char} (member : word ∈ words text) :
    word ≠ [] ∧ ∀ c ∈ word, isSolid c :=
  solid_of_mem_go (by simp) member

theorem exists_last_word {start : List Char} {c : Char} (solid : isSolid c) :
    ∃ before word earlier, start ++ [c] = before ++ word ∧ c ∈ word ∧ (∀ d ∈ word, isSolid d) ∧
      ∀ more, words (before ++ more) = earlier ++ words more := by
  have first : (start ++ [c]).reverse = c :: start.reverse := by simp
  have parts := List.takeWhile_append_dropWhile (p := isSolid) (l := c :: start.reverse)
  refine ⟨((c :: start.reverse).dropWhile isSolid).reverse,
    ((c :: start.reverse).takeWhile isSolid).reverse, ?_⟩
  have stops := stops_dropWhile isSolid (c :: start.reverse)
  have inside : ∀ d ∈ ((c :: start.reverse).takeWhile isSolid).reverse, isSolid d := fun d member =>
    List.all_eq_true.mp List.all_takeWhile d (List.mem_reverse.mp member)
  have last : c ∈ ((c :: start.reverse).takeWhile isSolid).reverse := by
    simp [List.takeWhile_cons_of_pos solid]
  have whole : start ++ [c] = ((c :: start.reverse).dropWhile isSolid).reverse ++
      ((c :: start.reverse).takeWhile isSolid).reverse := by
    rw [← List.reverse_append, parts, ← first, List.reverse_reverse]
  generalize (c :: start.reverse).dropWhile isSolid = rest at stops whole
  cases rest with
  | nil => exact ⟨[], whole, last, inside, fun more => rfl⟩
  | cons gap rest =>
      refine ⟨words rest.reverse, whole, last, inside, ?_⟩
      intro more
      have blank : isBlank gap := by simpa [isSolid] using stops_cons_iff.mp stops
      rw [List.reverse_cons, List.append_assoc]
      exact words_append_blank_cons rest.reverse blank more

end SqlTemplate.Text
