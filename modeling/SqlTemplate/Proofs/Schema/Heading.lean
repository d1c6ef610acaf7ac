import SqlTemplate.Proofs.Text.Blank
import SqlTemplate.Schema.Entity

/-!
The grammar of the words that define a table or a view, apart from how they are looked for:
`create`, `or replace` if wanted, a modifier if wanted, and `table` or `view` as a whole word. A
head is found in a text exactly when such words stand somewhere in it where a word may begin.
-/

namespace SqlTemplate.Schema

/-! ## Words in any case -/

/-- A word in any case of its letters. -/
inductive Spelled : List Char → List Char → Prop
  | nil : Spelled [] []
  | cons {letter c : Char} {word text : List Char} : isLetter letter c → Spelled word text →
      Spelled (letter :: word) (c :: text)

def FirstWord (word : String) (text : List Char) : Prop :=
  ∃ spelled rest, text = spelled ++ rest ∧ Spelled word.toList spelled ∧
    Text.Stops Text.isWord rest

inductive Phrase : List String → List Char → Prop
  | nil : Phrase [] []
  | cons {word : String} {words : List String} {spelled blanks text : List Char} :
      Spelled word.toList spelled → blanks ≠ [] → (∀ c ∈ blanks, Text.isBlank c) →
      Phrase words text → Phrase (word :: words) (spelled ++ (blanks ++ text))

inductive Replacing : List String → Prop
  | no : Replacing []
  | yes : Replacing ["or", "replace"]

inductive Modifying : List String → Prop
  | no : Modifying []
  | yes {word : String} : word ∈ modifiers → Modifying [word]

/-- A text starts with the words that define a table or a view. -/
def Defines (text : List Char) : Prop :=
  ∃ replacing modifying phrase kind, Replacing replacing ∧ Modifying modifying ∧
    Phrase ("create" :: (replacing ++ modifying)) phrase ∧ text = phrase ++ kind ∧
    (FirstWord "table" kind ∨ FirstWord "view" kind)

/-! ## Letters -/

theorem isAlpha_of_toLower {letter c : Char} (lower : letter.isLower) (same : c.toLower = letter) :
    c.isAlpha := by
  unfold Char.toLower at same
  split at same
  next upper =>
    unfold Char.isAlpha Char.isUpper
    rw [Bool.or_eq_true]
    left
    simpa using upper
  next =>
    unfold Char.isAlpha
    rw [same, lower, Bool.or_true]

theorem isWord_of_isLetter {letter c : Char} (lower : letter.isLower) (read : isLetter letter c) :
    Text.isWord c := by
  simp only [isLetter, Bool.or_eq_true, Bool.and_eq_true, beq_iff_eq] at read
  rcases read with same | ⟨_, rfl⟩
  · apply Text.isWord_of_isAsciiWord
    simp [Text.isAsciiWord, Char.isAlphanum, isAlpha_of_toLower lower same]
  · decide

theorem letter_unique {first second c : Char} (lower : first.isLower) (lower' : second.isLower)
    (read : isLetter first c) (read' : isLetter second c) : first = second := by
  simp only [isLetter, Bool.or_eq_true, Bool.and_eq_true, beq_iff_eq] at read read'
  have long : 'ſ'.toLower.isLower = false := by decide
  rcases read with same | ⟨rfl, rfl⟩
  · rcases read' with same' | ⟨rfl, rfl⟩
    · exact same.symm.trans same'
    · rw [← same, long] at lower
      contradiction
  · rcases read' with same' | ⟨rfl, _⟩
    · rw [← same', long] at lower'
      contradiction
    · rfl

def Keyword (word : String) : Prop :=
  word.toList ≠ [] ∧ ∀ letter ∈ word.toList, letter.isLower

instance (word : String) : Decidable (Keyword word) :=
  inferInstanceAs (Decidable (_ ∧ _))

theorem keyword_modifiers : ∀ word ∈ modifiers, Keyword word := by
  decide

theorem Spelled.isWord {word text : List Char} (spelled : Spelled word text)
    (lower : ∀ letter ∈ word, letter.isLower) : ∀ c ∈ text, Text.isWord c := by
  induction spelled with
  | nil => simp
  | cons read _ ih =>
      obtain ⟨first, later⟩ := List.forall_mem_cons.mp lower
      exact List.forall_mem_cons.mpr ⟨isWord_of_isLetter first read, ih later⟩

theorem Spelled.unique {word other text : List Char} (spelled : Spelled word text)
    (spelled' : Spelled other text) (lower : ∀ letter ∈ word, letter.isLower)
    (lower' : ∀ letter ∈ other, letter.isLower) : word = other := by
  induction spelled generalizing other with
  | nil =>
      cases spelled'
      rfl
  | cons read _ ih =>
      cases spelled' with
      | cons read' rest' =>
          obtain ⟨first, later⟩ := List.forall_mem_cons.mp lower
          obtain ⟨first', later'⟩ := List.forall_mem_cons.mp lower'
          rw [letter_unique first first' read read', ih rest' later later']

theorem FirstWord.unique {word other : String} {text : List Char} (first : FirstWord word text)
    (first' : FirstWord other text) (keyword : Keyword word) (keyword' : Keyword other) :
    word = other := by
  obtain ⟨spelled, rest, rfl, spells, stops⟩ := first
  obtain ⟨spelled', rest', same, spells', stops'⟩ := first'
  have run := Text.takeWhile_append_of_stops (spells.isWord keyword.2) stops
  rw [same, Text.takeWhile_append_of_stops (spells'.isWord keyword'.2) stops'] at run
  subst run
  exact String.toList_inj.mp (spells.unique spells' keyword.2 keyword'.2)

theorem Spelled.ne_nil {word text : List Char} (spelled : Spelled word text) (filled : word ≠ []) :
    text ≠ [] := by
  cases spelled with
  | nil => exact absurd rfl filled
  | cons _ _ => exact List.cons_ne_nil _ _

theorem FirstWord.exists_cons {word : String} {text : List Char} (first : FirstWord word text)
    (keyword : Keyword word) : ∃ c rest, text = c :: rest ∧ Text.isWord c := by
  obtain ⟨spelled, rest, rfl, spells, _⟩ := first
  obtain ⟨c, later, rfl⟩ := List.exists_cons_of_ne_nil (spells.ne_nil keyword.1)
  exact ⟨c, later ++ rest, rfl, spells.isWord keyword.2 c List.mem_cons_self⟩

theorem FirstWord.stops_isBlank {word : String} {text : List Char} (first : FirstWord word text)
    (keyword : Keyword word) : Text.Stops Text.isBlank text := by
  obtain ⟨c, rest, rfl, word⟩ := first.exists_cons keyword
  exact Text.stops_cons_iff.mpr (Text.isBlank_of_isWord word)

/-! ## Reading words -/

theorem afterWord?_eq_some_iff {word text rest : List Char} :
    afterWord? word text = some rest ↔
      ∃ spelled, text = spelled ++ rest ∧ Spelled word spelled := by
  induction word generalizing text with
  | nil =>
      rw [afterWord?, Option.some.injEq]
      constructor
      · rintro rfl
        exact ⟨[], rfl, .nil⟩
      · rintro ⟨spelled, rfl, spells⟩
        cases spells
        rfl
  | cons letter word ih =>
      cases text with
      | nil =>
          rw [afterWord?]
          constructor
          · intro found
            cases found
          · rintro ⟨spelled, same, spells⟩
            cases spells
            cases same
      | cons c text =>
          rw [afterWord?]
          split
          next read =>
            rw [ih]
            constructor
            · rintro ⟨spelled, rfl, spells⟩
              exact ⟨c :: spelled, rfl, .cons read spells⟩
            · rintro ⟨spelled, same, spells⟩
              cases spells with
              | cons _ spells =>
                  cases same
                  exact ⟨_, rfl, spells⟩
          next unread =>
            constructor
            · intro found
              cases found
            · rintro ⟨spelled, same, spells⟩
              cases spells with
              | cons read _ =>
                  cases same
                  exact absurd read unread

theorem afterBlanks?_eq_some_iff {text rest : List Char} :
    afterBlanks? text = some rest ↔ ∃ blanks, blanks ≠ [] ∧ (∀ c ∈ blanks, Text.isBlank c) ∧
      text = blanks ++ rest ∧ Text.Stops Text.isBlank rest := by
  constructor
  · intro found
    cases text with
    | nil => cases found
    | cons c text =>
        rw [afterBlanks?] at found
        split at found
        next blank =>
          cases found
          refine ⟨c :: text.takeWhile Text.isBlank, List.cons_ne_nil _ _, ?_, ?_,
            Text.stops_dropWhile _ _⟩
          · refine List.forall_mem_cons.mpr ⟨blank, ?_⟩
            intro d member
            exact List.all_eq_true.mp List.all_takeWhile d member
          · rw [List.cons_append, Text.trimLeft, List.takeWhile_append_dropWhile]
        next => cases found
  · rintro ⟨blanks, filled, inside, rfl, stops⟩
    cases blanks with
    | nil => exact absurd rfl filled
    | cons c blanks =>
        obtain ⟨blank, later⟩ := List.forall_mem_cons.mp inside
        rw [List.cons_append, afterBlanks?, if_pos blank, Text.trimLeft,
          Text.dropWhile_append_of_stops later stops]

theorem stops_isWord_of_blanks {blanks rest : List Char} (filled : blanks ≠ [])
    (inside : ∀ c ∈ blanks, Text.isBlank c) : Text.Stops Text.isWord (blanks ++ rest) := by
  have stops : Text.Stops Text.isWord blanks :=
    Text.stops_of_outside fun c member => Text.isWord_of_isBlank (inside c member)
  exact stops.append_of_ne_nil filled rest

theorem afterWordAndBlanks?_eq_some_iff {word : String} {text rest : List Char} :
    afterWordAndBlanks? word text = some rest ↔
      ∃ phrase, Phrase [word] phrase ∧ text = phrase ++ rest ∧ Text.Stops Text.isBlank rest := by
  rw [afterWordAndBlanks?, Option.bind_eq_some_iff]
  constructor
  · rintro ⟨after, read, blank⟩
    obtain ⟨spelled, rfl, spells⟩ := afterWord?_eq_some_iff.mp read
    obtain ⟨blanks, filled, inside, rfl, stops⟩ := afterBlanks?_eq_some_iff.mp blank
    exact ⟨_, .cons spells filled inside .nil, by simp, stops⟩
  · rintro ⟨phrase, one, rfl, stops⟩
    cases one with
    | @cons _ _ spelled blanks _ spells filled inside none =>
        cases none
        refine ⟨blanks ++ rest, afterWord?_eq_some_iff.mpr ⟨spelled, by simp, spells⟩, ?_⟩
        exact afterBlanks?_eq_some_iff.mpr ⟨blanks, filled, inside, rfl, stops⟩

theorem Phrase.firstWord {word : String} {words : List String} {phrase : List Char}
    (whole : Phrase (word :: words) phrase) (more : List Char) :
    FirstWord word (phrase ++ more) := by
  cases whole with
  | @cons _ _ spelled blanks text spells filled inside _ =>
      refine ⟨spelled, blanks ++ (text ++ more), by simp, spells, ?_⟩
      exact stops_isWord_of_blanks filled inside

theorem afterWordAndBlanks?_eq_none {word first : String} {text : List Char}
    (starts : FirstWord first text) (keyword : Keyword word) (keyword' : Keyword first)
    (different : word ≠ first) : afterWordAndBlanks? word text = none := by
  cases read : afterWordAndBlanks? word text with
  | none => rfl
  | some rest =>
      obtain ⟨phrase, whole, rfl, _⟩ := afterWordAndBlanks?_eq_some_iff.mp read
      exact absurd ((whole.firstWord rest).unique starts keyword keyword') different

theorem phrase_append_iff {first second : List String} {phrase : List Char} :
    Phrase (first ++ second) phrase ↔
      ∃ start rest, phrase = start ++ rest ∧ Phrase first start ∧ Phrase second rest := by
  induction first generalizing phrase with
  | nil =>
      constructor
      · intro whole
        exact ⟨[], phrase, rfl, .nil, whole⟩
      · rintro ⟨start, rest, rfl, none, whole⟩
        cases none
        exact whole
  | cons word words ih =>
      constructor
      · intro whole
        cases whole with
        | cons spells filled inside later =>
            obtain ⟨start, rest, rfl, left, right⟩ := ih.mp later
            exact ⟨_, rest, by simp, .cons spells filled inside left, right⟩
      · rintro ⟨start, rest, rfl, left, right⟩
        cases left with
        | cons spells filled inside left =>
            rw [List.append_assoc, List.append_assoc]
            exact .cons spells filled inside (ih.mpr ⟨_, rest, rfl, left, right⟩)

/-! Text behind the place where words and white space stop is not read. -/

theorem afterWord?_append {word text more : List Char}
    (lower : ∀ letter ∈ word, letter.isLower) (stops : Text.Stops Text.isWord more) :
    afterWord? word (text ++ more) = (afterWord? word text).map (· ++ more) := by
  induction word generalizing text with
  | nil => rfl
  | cons letter word ih =>
      obtain ⟨first, later⟩ := List.forall_mem_cons.mp lower
      cases text with
      | nil =>
          cases more with
          | nil => rfl
          | cons c rest =>
              have unread : isLetter letter c = false := by
                cases read : isLetter letter c with
                | false => rfl
                | true =>
                    have inside := isWord_of_isLetter first read
                    rw [Text.stops_cons_iff.mp stops] at inside
                    contradiction
              simp [afterWord?, unread]
      | cons c text =>
          rw [List.cons_append, afterWord?, afterWord?]
          split
          next => exact ih later
          next => rfl

theorem afterBlanks?_append {text more : List Char} (stops : Text.Stops Text.isBlank more) :
    afterBlanks? (text ++ more) = (afterBlanks? text).map (· ++ more) := by
  cases text with
  | nil =>
      cases more with
      | nil => rfl
      | cons c rest => simp [afterBlanks?, Text.stops_cons_iff.mp stops]
  | cons c text =>
      rw [List.cons_append, afterBlanks?, afterBlanks?]
      split
      next => rw [Text.trimLeft, stops.dropWhile_append, Option.map_some, Text.trimLeft]
      next => rfl

theorem afterWordAndBlanks?_append {word : String} {text more : List Char}
    (keyword : Keyword word) (words : Text.Stops Text.isWord more)
    (blanks : Text.Stops Text.isBlank more) :
    afterWordAndBlanks? word (text ++ more) = (afterWordAndBlanks? word text).map (· ++ more) := by
  rw [afterWordAndBlanks?, afterWordAndBlanks?, afterWord?_append keyword.2 words]
  cases afterWord? word.toList text with
  | none => rfl
  | some rest => exact afterBlanks?_append blanks

/-! ## What is skipped -/

theorem skipExists_eq_self {gap text : List Char} (filled : gap ≠ [])
    (blank : ∀ c ∈ gap, Text.isBlank c) (stops : Text.Stops Text.isBlank text)
    (other : ∀ after, afterWordAndBlanks? "if" text = some after →
      afterWordAndBlanks? "not" after = none) : skipExists (gap ++ text) = gap ++ text := by
  have read : afterBlanks? (gap ++ text) = some text :=
    afterBlanks?_eq_some_iff.mpr ⟨gap, filled, blank, rfl, stops⟩
  have none : (afterWordAndBlanks? "if" text).bind (afterWordAndBlanks? "not") = none :=
    Option.bind_eq_none_iff.mpr other
  rw [skipExists, read, Option.bind_some, none]
  rfl

theorem skipExists_append {text more : List Char} (words : Text.Stops Text.isWord more)
    (blanks : Text.Stops Text.isBlank more) :
    skipExists (text ++ more) = skipExists text ++ more := by
  have keyword : Keyword "if" ∧ Keyword "not" ∧ Keyword "exists" := by decide
  rw [skipExists, skipExists, afterBlanks?_append blanks]
  cases afterBlanks? text with
  | none => rfl
  | some first =>
      simp only [Option.map_some, Option.bind_some,
        afterWordAndBlanks?_append keyword.1 words blanks]
      cases afterWordAndBlanks? "if" first with
      | none => rfl
      | some second =>
          simp only [Option.map_some, Option.bind_some,
            afterWordAndBlanks?_append keyword.2.1 words blanks]
          cases afterWordAndBlanks? "not" second with
          | none => rfl
          | some third =>
              simp only [Option.bind_some, Option.map_some,
                afterWord?_append keyword.2.2.2 words]
              cases afterWord? "exists".toList third <;> rfl

theorem skipReplace_append {text more : List Char} (words : Text.Stops Text.isWord more)
    (blanks : Text.Stops Text.isBlank more) :
    skipReplace (text ++ more) = skipReplace text ++ more := by
  have keyword : Keyword "or" ∧ Keyword "replace" := by decide
  rw [skipReplace, skipReplace, afterWordAndBlanks?_append keyword.1 words blanks]
  cases afterWordAndBlanks? "or" text with
  | none => rfl
  | some first =>
      simp only [Option.map_some, Option.bind_some,
        afterWordAndBlanks?_append keyword.2 words blanks]
      cases afterWordAndBlanks? "replace" first <;> rfl

theorem skipModifier_append {text more : List Char} (words : Text.Stops Text.isWord more)
    (blanks : Text.Stops Text.isBlank more) :
    skipModifier (text ++ more) = skipModifier text ++ more := by
  have read : ∀ among : List String, (∀ word ∈ among, Keyword word) →
      (among.findSome? fun word => afterWordAndBlanks? word (text ++ more)) =
        (among.findSome? fun word => afterWordAndBlanks? word text).map (· ++ more) := by
    intro among keywords
    induction among with
    | nil => rfl
    | cons word among ih =>
        obtain ⟨first, later⟩ := List.forall_mem_cons.mp keywords
        rw [List.findSome?_cons, List.findSome?_cons,
          afterWordAndBlanks?_append first words blanks, ih later]
        cases afterWordAndBlanks? word text <;> rfl
  rw [skipModifier, skipModifier, read modifiers keyword_modifiers]
  cases modifiers.findSome? fun word => afterWordAndBlanks? word text <;> rfl

theorem readName_eq {gap text : List Char} (filled : gap ≠ [])
    (blank : ∀ c ∈ gap, Text.isBlank c) (stops : Text.Stops Text.isBlank text)
    (named : text.takeWhile isNameChar ≠ []) :
    readName (gap ++ text) = (text.takeWhile isNameChar, text.dropWhile isNameChar) := by
  have read : afterBlanks? (gap ++ text) = some text :=
    afterBlanks?_eq_some_iff.mpr ⟨gap, filled, blank, rfl, stops⟩
  rw [readName, read]
  simp [named]

theorem readName_append {text more : List Char} (names : Text.Stops isNameChar more)
    (blanks : Text.Stops Text.isBlank more) :
    readName (text ++ more) = ((readName text).1, (readName text).2 ++ more) := by
  rw [readName, readName, afterBlanks?_append blanks]
  cases afterBlanks? text with
  | none => rfl
  | some rest =>
      simp only [Option.map_some, names.takeWhile_append, names.dropWhile_append]
      split <;> rfl

theorem skipReplace_eq (text : List Char) :
    ∃ words phrase, Replacing words ∧ Phrase words phrase ∧ text = phrase ++ skipReplace text := by
  rw [skipReplace]
  cases read : (afterWordAndBlanks? "or" text).bind (afterWordAndBlanks? "replace") with
  | none => exact ⟨[], [], .no, .nil, rfl⟩
  | some rest =>
      obtain ⟨after, first, second⟩ := Option.bind_eq_some_iff.mp read
      obtain ⟨start, whole, rfl, _⟩ := afterWordAndBlanks?_eq_some_iff.mp first
      obtain ⟨later, whole', rfl, _⟩ := afterWordAndBlanks?_eq_some_iff.mp second
      refine ⟨["or", "replace"], start ++ later, .yes, ?_, by simp⟩
      exact phrase_append_iff.mpr ⟨start, later, rfl, whole, whole'⟩

theorem skipModifier_eq (text : List Char) :
    ∃ words phrase, Modifying words ∧ Phrase words phrase ∧ text = phrase ++ skipModifier text := by
  rw [skipModifier]
  cases read : modifiers.findSome? fun word => afterWordAndBlanks? word text with
  | none => exact ⟨[], [], .no, .nil, rfl⟩
  | some rest =>
      obtain ⟨word, member, first⟩ := List.exists_of_findSome?_eq_some read
      obtain ⟨phrase, whole, same, _⟩ := afterWordAndBlanks?_eq_some_iff.mp first
      exact ⟨[word], phrase, .yes member, whole, same⟩

theorem skipReplace_phrase {words : List String} {phrase text : List Char} {first : String}
    (replacing : Replacing words) (whole : Phrase words phrase) (starts : FirstWord first text)
    (keyword : Keyword first) (different : "or" ≠ first) :
    skipReplace (phrase ++ text) = text := by
  cases replacing with
  | no =>
      cases whole
      rw [List.nil_append, skipReplace,
        afterWordAndBlanks?_eq_none starts (by decide) keyword different]
      rfl
  | yes =>
      obtain ⟨start, rest, rfl, left, right⟩ :=
        phrase_append_iff.mp (show Phrase (["or"] ++ ["replace"]) phrase from whole)
      have second : afterWordAndBlanks? "replace" (rest ++ text) = some text :=
        afterWordAndBlanks?_eq_some_iff.mpr ⟨rest, right, rfl, starts.stops_isBlank keyword⟩
      have stops := (right.firstWord text).stops_isBlank (by decide)
      have first : afterWordAndBlanks? "or" (start ++ (rest ++ text)) = some (rest ++ text) :=
        afterWordAndBlanks?_eq_some_iff.mpr ⟨start, left, rfl, stops⟩
      rw [List.append_assoc, skipReplace, first, Option.bind_some, second]
      rfl

theorem skipModifier_phrase {words : List String} {phrase text : List Char} {first : String}
    (modifying : Modifying words) (whole : Phrase words phrase) (starts : FirstWord first text)
    (keyword : Keyword first) (different : ∀ word ∈ modifiers, word ≠ first) :
    skipModifier (phrase ++ text) = text := by
  cases modifying with
  | no =>
      cases whole
      have none : (modifiers.findSome? fun word => afterWordAndBlanks? word text) = none := by
        rw [List.findSome?_eq_none_iff]
        intro word member
        exact afterWordAndBlanks?_eq_none starts (keyword_modifiers word member) keyword
          (different word member)
      rw [List.nil_append, skipModifier, none]
      rfl
  | @yes word member =>
      have here : afterWordAndBlanks? word (phrase ++ text) = some text :=
        afterWordAndBlanks?_eq_some_iff.mpr ⟨phrase, whole, rfl, starts.stops_isBlank keyword⟩
      have found : (modifiers.findSome? fun other =>
          afterWordAndBlanks? other (phrase ++ text)) = some text := by
        cases read : modifiers.findSome? fun other =>
            afterWordAndBlanks? other (phrase ++ text) with
        | none =>
            have absent := List.findSome?_eq_none_iff.mp read word member
            rw [here] at absent
            cases absent
        | some rest =>
            obtain ⟨other, among, other'⟩ := List.exists_of_findSome?_eq_some read
            -- One modifier may begin another, but only one of them is the first word.
            by_cases same : other = word
            · rw [← other', same, here]
            · rw [afterWordAndBlanks?_eq_none (whole.firstWord text)
                (keyword_modifiers other among) (keyword_modifiers word member) same] at other'
              cases other'
      rw [skipModifier, found]
      rfl

/-! ## The kind -/

theorem stops_iff_head? {text : List Char} :
    (text.head?.map Text.isWord).getD false = false ↔ Text.Stops Text.isWord text := by
  cases text with
  | nil => exact iff_of_true rfl Text.stops_nil
  | cons c rest =>
      rw [Text.stops_cons_iff]
      rfl

theorem afterWord?_of_firstWord {word : String} {text : List Char} (first : FirstWord word text) :
    ∃ rest, afterWord? word.toList text = some rest ∧ Text.Stops Text.isWord rest := by
  obtain ⟨spelled, rest, rfl, spells, stops⟩ := first
  exact ⟨rest, afterWord?_eq_some_iff.mpr ⟨spelled, rfl, spells⟩, stops⟩

theorem afterWord?_table_of_view {text : List Char} (first : FirstWord "view" text) :
    afterWord? "table".toList text = none := by
  obtain ⟨spelled, rest, rfl, spells, _⟩ := first
  have letters : "view".toList = 'v' :: "iew".toList := rfl
  have letters' : "table".toList = 't' :: "able".toList := rfl
  rw [letters] at spells
  cases spells with
  | @cons _ c _ text read _ =>
      have different : isLetter 't' c = false := by
        cases read' : isLetter 't' c with
        | false => rfl
        | true => exact absurd (letter_unique (by decide) (by decide) read read') (by decide)
      rw [letters', List.cons_append, afterWord?, different]
      rfl

theorem readKind?_table {spelled rest : List Char} (spells : Spelled "table".toList spelled)
    (stops : Text.Stops Text.isWord rest) : readKind? (spelled ++ rest) = some (.table, rest) := by
  have read : afterWord? "table".toList (spelled ++ rest) = some rest :=
    afterWord?_eq_some_iff.mpr ⟨spelled, rfl, spells⟩
  simp only [readKind?, read, Option.bind_eq_bind, Option.bind_some, stops_iff_head?.mpr stops,
    Bool.false_eq_true, if_false]

theorem readKind?_append {text more : List Char} (words : Text.Stops Text.isWord more) :
    readKind? (text ++ more) =
      (readKind? text).map fun (kind, rest) => (kind, rest ++ more) := by
  have keyword : Keyword "table" ∧ Keyword "view" := by decide
  have goesOn : ∀ rest : List Char, ((rest ++ more).head?.map Text.isWord).getD false =
      (rest.head?.map Text.isWord).getD false := by
    intro rest
    cases rest with
    | nil => exact stops_iff_head?.mpr words
    | cons c rest => rfl
  rw [readKind?, readKind?, afterWord?_append keyword.1.2 words,
    afterWord?_append keyword.2.2 words]
  cases afterWord? "table".toList text with
  | some rest =>
      simp only [Option.map_some, Option.bind_eq_bind, Option.bind_some, goesOn]
      split <;> rfl
  | none =>
      cases afterWord? "view".toList text with
      | some rest =>
          simp only [Option.map_some, Option.map_none, Option.bind_eq_bind, Option.bind_some,
            goesOn]
          split <;> rfl
      | none => rfl

theorem exists_readKind?_iff {text : List Char} :
    (∃ read, readKind? text = some read) ↔ FirstWord "table" text ∨ FirstWord "view" text := by
  constructor
  · rintro ⟨read, found⟩
    unfold readKind? at found
    split at found
    next rest table =>
      obtain ⟨_, same, found⟩ := Option.bind_eq_some_iff.mp found
      cases same
      dsimp only at found
      split at found
      next => cases found
      next stops =>
        obtain ⟨spelled, rfl, spells⟩ := afterWord?_eq_some_iff.mp table
        exact Or.inl ⟨spelled, rest, rfl, spells, stops_iff_head?.mp (by simpa using stops)⟩
    next =>
      obtain ⟨_, matched, found⟩ := Option.bind_eq_some_iff.mp found
      obtain ⟨rest, view, rfl⟩ := Option.map_eq_some_iff.mp matched
      dsimp only at found
      split at found
      next => cases found
      next stops =>
        obtain ⟨spelled, rfl, spells⟩ := afterWord?_eq_some_iff.mp view
        exact Or.inr ⟨spelled, rest, rfl, spells, stops_iff_head?.mp (by simpa using stops)⟩
  · rintro (table | view)
    · obtain ⟨spelled, rest, rfl, spells, stops⟩ := table
      exact ⟨(.table, rest), readKind?_table spells stops⟩
    · obtain ⟨rest, read, stops⟩ := afterWord?_of_firstWord view
      refine ⟨(.view, rest), ?_⟩
      simp only [readKind?, afterWord?_table_of_view view, read, Option.map_some,
        Option.bind_eq_bind, Option.bind_some, stops_iff_head?.mpr stops, Bool.false_eq_true,
        if_false]

/-! ## Heads -/

theorem exists_readHead?_iff {text : List Char} :
    (∃ head, readHead? text = some head) ↔ ∃ after, afterWordAndBlanks? "create" text = some after ∧
      ∃ read, readKind? (skipModifier (skipReplace after)) = some read := by
  constructor
  · rintro ⟨head, found⟩
    obtain ⟨after, create, found⟩ := Option.bind_eq_some_iff.mp found
    obtain ⟨read, kind, _⟩ := Option.bind_eq_some_iff.mp found
    exact ⟨after, create, read, kind⟩
  · rintro ⟨after, create, read, kind⟩
    refine ⟨_, Option.bind_eq_some_iff.mpr ⟨after, create, Option.bind_eq_some_iff.mpr
      ⟨read, kind, rfl⟩⟩⟩

def Head.followedBy (head : Head) (more : List Char) : Head :=
  { head with rest := head.rest ++ more }

theorem readHead?_append {text more : List Char} (words : Text.Stops Text.isWord more)
    (blanks : Text.Stops Text.isBlank more) (names : Text.Stops isNameChar more) :
    readHead? (text ++ more) = (readHead? text).map fun head => head.followedBy more := by
  rw [readHead?, readHead?, afterWordAndBlanks?_append (by decide) words blanks]
  cases afterWordAndBlanks? "create" text with
  | none => rfl
  | some after =>
      simp only [Option.map_some, Option.bind_eq_bind, Option.bind_some,
        skipReplace_append words blanks, skipModifier_append words blanks, readKind?_append words]
      cases readKind? (skipModifier (skipReplace after)) with
      | none => rfl
      | some kind =>
          simp only [Option.map_some, Option.bind_some, skipExists_append words blanks,
            readName_append names blanks]
          rfl

theorem exists_keyword_of_kind {kind : List Char}
    (named : FirstWord "table" kind ∨ FirstWord "view" kind) :
    ∃ word, FirstWord word kind ∧ Keyword word ∧ "or" ≠ word ∧
      ∀ modifier ∈ modifiers, modifier ≠ word := by
  rcases named with table | view
  · exact ⟨"table", table, by decide, by decide, by decide⟩
  · exact ⟨"view", view, by decide, by decide, by decide⟩

theorem exists_keyword_of_modifying {words : List String} {phrase kind : List Char}
    (modifying : Modifying words) (whole : Phrase words phrase)
    (named : FirstWord "table" kind ∨ FirstWord "view" kind) :
    ∃ word, FirstWord word (phrase ++ kind) ∧ Keyword word ∧ "or" ≠ word := by
  cases modifying with
  | no =>
      cases whole
      obtain ⟨word, first, keyword, different, _⟩ := exists_keyword_of_kind named
      exact ⟨word, first, keyword, different⟩
  | @yes word member =>
      have different : ∀ word ∈ modifiers, "or" ≠ word := by decide
      exact ⟨word, whole.firstWord kind, keyword_modifiers word member, different word member⟩

theorem stops_isBlank_of_replacing {words : List String} {phrase text : List Char} {first : String}
    (replacing : Replacing words) (whole : Phrase words phrase) (starts : FirstWord first text)
    (keyword : Keyword first) : Text.Stops Text.isBlank (phrase ++ text) := by
  cases replacing with
  | no =>
      cases whole
      exact starts.stops_isBlank keyword
  | yes => exact (whole.firstWord text).stops_isBlank (by decide)

theorem skips_phrase {replacing modifying : List String} {phrase kind : List Char}
    (replaces : Replacing replacing) (modifies : Modifying modifying)
    (whole : Phrase ("create" :: (replacing ++ modifying)) phrase)
    (named : FirstWord "table" kind ∨ FirstWord "view" kind) :
    ∃ after, afterWordAndBlanks? "create" (phrase ++ kind) = some after ∧
      skipModifier (skipReplace after) = kind := by
  obtain ⟨start, rest, rfl, first, later⟩ := phrase_append_iff.mp
    (show Phrase (["create"] ++ (replacing ++ modifying)) phrase from whole)
  obtain ⟨second, third, rfl, whole, whole'⟩ := phrase_append_iff.mp later
  obtain ⟨word, starts, keyword, different⟩ := exists_keyword_of_modifying modifies whole' named
  obtain ⟨word', starts', keyword', _, different'⟩ := exists_keyword_of_kind named
  refine ⟨second ++ (third ++ kind), ?_, ?_⟩
  · rw [afterWordAndBlanks?_eq_some_iff, List.append_assoc, List.append_assoc]
    exact ⟨start, first, rfl, stops_isBlank_of_replacing replaces whole starts keyword⟩
  · rw [skipReplace_phrase replaces whole starts keyword different,
      skipModifier_phrase modifies whole' starts' keyword' different']

theorem readHead?_phrase {replacing modifying : List String} {phrase words after : List Char}
    {kind : EntityKind} (replaces : Replacing replacing) (modifies : Modifying modifying)
    (whole : Phrase ("create" :: (replacing ++ modifying)) phrase)
    (named : FirstWord "table" words ∨ FirstWord "view" words)
    (read : readKind? words = some (kind, after)) :
    readHead? (phrase ++ words) =
      some ⟨kind, (readName (skipExists after)).1, (readName (skipExists after)).2⟩ := by
  obtain ⟨start, create, skipped⟩ := skips_phrase replaces modifies whole named
  rw [readHead?, create]
  simp only [Option.bind_eq_bind, Option.bind_some, skipped, read]

theorem exists_readHead?_iff_defines {text : List Char} :
    (∃ head, readHead? text = some head) ↔ Defines text := by
  rw [exists_readHead?_iff]
  constructor
  · rintro ⟨after, create, kind⟩
    obtain ⟨start, first, rfl, _⟩ := afterWordAndBlanks?_eq_some_iff.mp create
    obtain ⟨replacing, second, replaces, whole, same⟩ := skipReplace_eq after
    obtain ⟨modifying, third, modifies, whole', same'⟩ := skipModifier_eq (skipReplace after)
    refine ⟨replacing, modifying, start ++ (second ++ third), _, replaces, modifies, ?_, ?_,
      exists_readKind?_iff.mp kind⟩
    · exact phrase_append_iff.mpr ⟨start, _, rfl, first, phrase_append_iff.mpr
        ⟨second, third, rfl, whole, whole'⟩⟩
    · rw [List.append_assoc, List.append_assoc, ← same', ← same]
  · rintro ⟨replacing, modifying, phrase, kind, replaces, modifies, whole, rfl, named⟩
    obtain ⟨after, create, skipped⟩ := skips_phrase replaces modifies whole named
    exact ⟨after, create, skipped ▸ exists_readKind?_iff.mpr named⟩

/-! ## Heads anywhere in a text -/

/-- Whether a word character stands before the end of a text; before the text itself one does if
`inWord` says so. -/
def endsInWord (inWord : Bool) : List Char → Bool
  | [] => inWord
  | c :: rest => endsInWord (Text.isWord c) rest

@[simp] theorem endsInWord_append (inWord : Bool) (first second : List Char) :
    endsInWord inWord (first ++ second) = endsInWord (endsInWord inWord first) second := by
  induction first generalizing inWord with
  | nil => rfl
  | cons c first ih => exact ih (Text.isWord c)

theorem Defines.firstWord {text : List Char} (defines : Defines text) :
    FirstWord "create" text := by
  obtain ⟨_, _, phrase, kind, _, _, whole, rfl, _⟩ := defines
  exact whole.firstWord kind

theorem Defines.exists_cons {text : List Char} (defines : Defines text) :
    ∃ c rest, text = c :: rest ∧ Text.isWord c :=
  defines.firstWord.exists_cons (by decide)

theorem findHead?_of_readHead? {text : List Char} {head : Head}
    (read : readHead? text = some head) : findHead? false text = some head := by
  cases text with
  | nil => cases read
  | cons c rest => rw [findHead?, if_neg Bool.false_ne_true, read]

theorem exists_findHead?_cons_iff {inWord : Bool} {c : Char} {rest : List Char} :
    (∃ head, findHead? inWord (c :: rest) = some head) ↔
      (inWord = false ∧ Defines (c :: rest)) ∨
        ∃ head, findHead? (Text.isWord c) rest = some head := by
  rw [findHead?, ← exists_readHead?_iff_defines]
  cases inWord with
  | true => simp
  | false => cases readHead? (c :: rest) <;> simp

theorem exists_findHead?_iff {inWord : Bool} {text : List Char} :
    (∃ head, findHead? inWord text = some head) ↔
      ∃ before opened, text = before ++ opened ∧ endsInWord inWord before = false ∧
        Defines opened := by
  induction text generalizing inWord with
  | nil =>
      constructor
      · rintro ⟨head, found⟩
        cases found
      · rintro ⟨before, opened, same, _, defines⟩
        obtain ⟨c, rest, rfl, _⟩ := defines.exists_cons
        simp at same
  | cons c rest ih =>
      rw [exists_findHead?_cons_iff, ih]
      constructor
      · rintro (⟨outside, defines⟩ | ⟨before, opened, rfl, outside, defines⟩)
        · exact ⟨[], c :: rest, rfl, outside, defines⟩
        · exact ⟨c :: before, opened, rfl, outside, defines⟩
      · rintro ⟨before, opened, same, outside, defines⟩
        cases before with
        | nil =>
            rw [List.nil_append] at same
            exact Or.inl ⟨outside, same ▸ defines⟩
        | cons d before =>
            rw [List.cons_append, List.cons.injEq] at same
            obtain ⟨rfl, rfl⟩ := same
            exact Or.inr ⟨before, opened, rfl, outside, defines⟩

/-- Text in which nothing is defined does not change what is defined before it. -/
theorem findHead?_followed {more : List Char} (words : Text.Stops Text.isWord more)
    (blanks : Text.Stops Text.isBlank more) (names : Text.Stops isNameChar more)
    (nothing : ∀ inWord, findHead? inWord more = none) (inWord : Bool) (text : List Char) :
    findHead? inWord (text ++ more) =
      (findHead? inWord text).map fun head => head.followedBy more := by
  induction text generalizing inWord with
  | nil => exact nothing inWord
  | cons c text ih =>
      have here := @readHead?_append (c :: text) more words blanks names
      rw [List.cons_append] at here
      rw [List.cons_append, findHead?, findHead?, here, ih]
      cases inWord with
      | true => rfl
      | false => cases readHead? (c :: text) <;> rfl

end SqlTemplate.Schema
