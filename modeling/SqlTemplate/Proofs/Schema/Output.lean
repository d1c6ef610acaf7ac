import SqlTemplate.Proofs.Schema.Constraints
import SqlTemplate.Proofs.Schema.Keyword

/-!
The items of a select list: which name each of them has. An item has the alias behind its last `as`,
or the last part of the reference it consists of, and never both.
-/

namespace SqlTemplate.Schema

/-! ## Segments -/

/-- A run of word characters and dollar signs, or any text but the empty one in quotes. -/
inductive FitsSegment : Ident.Part → Prop
  | bare {run : List Char} : run ≠ [] → (∀ c ∈ run, Text.isWord c || c == '$') →
      FitsSegment (.bare run)
  | quoted {name : List Char} : name ≠ [] → FitsSegment (.quoted name)

theorem outside_segments {c : Char} (inside : Text.isWord c || c == '$') :
    c ∉ ['\'', '"', ',', '(', ')', '.'] := by
  have outside : ∀ d ∈ ['\'', '"', ',', '(', ')', '.'], (Text.isWord d || d == '$') = false := by
    decide
  exact @Text.not_mem_of_outside (fun c => Text.isWord c || c == '$') c _ inside outside

theorem isSolid_of_segment {c : Char} (inside : Text.isWord c || c == '$') : Text.isSolid c := by
  rw [Bool.or_eq_true, beq_iff_eq] at inside
  rcases inside with word | rfl
  · exact isSolid_of_isWord word
  · decide

theorem FitsSegment.token {part : Ident.Part} (fits : FitsSegment part) : FitsToken part := by
  cases fits with
  | bare filled inside =>
      refine .bare filled ?_
      intro c member
      have outside := outside_segments (inside c member)
      simp only [List.mem_cons, List.not_mem_nil, or_false, not_or] at outside
      obtain ⟨single, double, comma, opening, closing, _⟩ := outside
      exact ⟨isSolid_of_segment (inside c member), single, double, comma, opening, closing⟩
  | quoted => exact .quoted

theorem FitsSegment.whole {part : Ident.Part} (fits : FitsSegment part) :
    Ident.splitParts? false part.text = some [part.text] := by
  cases fits with
  | bare _ inside =>
      apply Ident.splitParts?_of_plain
      intro c member
      have outside := outside_segments (inside c member)
      simp only [List.mem_cons, List.not_mem_nil, or_false, not_or] at outside
      exact ⟨outside.2.2.2.2.2, outside.2.1⟩
  | quoted => simp [Ident.Part.text, Ident.splitParts?]

theorem isReferencePart_text {part : Ident.Part} (fits : FitsSegment part) :
    isReferencePart part.text := by
  cases fits with
  | @bare run filled inside =>
      obtain ⟨c, rest, rfl⟩ := List.exists_cons_of_ne_nil filled
      have noQuote : c ≠ '"' := by
        rintro rfl
        exact outside_segments (inside '"' List.mem_cons_self) (by decide)
      have unquoted : Ident.betweenQuotes? (c :: rest) = none := by
        rw [Ident.betweenQuotes?]
        rintro after same
        exact absurd (List.cons.inj same).1 noQuote
      rw [Ident.Part.text, isReferencePart, unquoted]
      simpa using inside
  | @quoted name filled =>
      rw [Ident.Part.text, isReferencePart, Ident.betweenQuotes?_quoted]
      simp [filled, (Ident.doubled_double name).hasLoneQuote]

theorem exists_segment {text : List Char} (segment : isReferencePart text) :
    ∃ part, FitsSegment part ∧ part.text = text := by
  unfold isReferencePart at segment
  split at segment
  next inner between =>
    rw [Bool.and_eq_true, Bool.not_eq_true', Bool.not_eq_true'] at segment
    obtain ⟨filled, paired⟩ := segment
    refine ⟨.quoted (Ident.undouble inner), .quoted ?_, ?_⟩
    · intro empty
      have same := Ident.double_undouble paired
      rw [empty] at same
      rw [← same] at filled
      cases filled
    · cases text with
      | nil => cases between
      | cons c rest =>
          have quote : c = '"' := by
            by_cases quote : c = '"'
            · exact quote
            · rw [Ident.betweenQuotes?] at between
              · cases between
              · rintro after same
                exact absurd (List.cons.inj same).1 quote
          subst quote
          rw [Ident.Part.text, Ident.double_undouble paired,
            Ident.between_of_betweenQuotes? between]
  next =>
    rw [Bool.and_eq_true, Bool.not_eq_true', List.all_eq_true] at segment
    obtain ⟨filled, inside⟩ := segment
    exact ⟨.bare text, .bare (by simpa using filled) inside, rfl⟩

/-! ## References -/

structure Refers (item : List Char) (ident : Ident) : Prop where
  written : ident.text = item
  filled : ident.parts ≠ []
  fits : ∀ part ∈ ident.parts, FitsSegment part

theorem splitParts?_of_refers {item : List Char} {ident : Ident} (refers : Refers item ident) :
    Ident.splitParts? false item = some (ident.parts.map Ident.Part.text) := by
  obtain ⟨rfl, filled, fits⟩ := refers
  obtain ⟨part, rest, parts⟩ := List.exists_cons_of_ne_nil filled
  rw [Ident.text, parts]
  rw [parts] at fits
  exact Ident.splitParts?_textOf_of_whole fun other member => (fits other member).whole

theorem exists_segments {texts : List (List Char)} (segments : texts.all isReferencePart) :
    ∃ parts : List Ident.Part, parts.map Ident.Part.text = texts ∧
      ∀ part ∈ parts, FitsSegment part := by
  induction texts with
  | nil => exact ⟨[], rfl, by simp⟩
  | cons text texts ih =>
      rw [List.all_cons, Bool.and_eq_true] at segments
      obtain ⟨part, fits, rfl⟩ := exists_segment segments.1
      obtain ⟨parts, rfl, others⟩ := ih segments.2
      exact ⟨part :: parts, rfl, List.forall_mem_cons.mpr ⟨fits, others⟩⟩

theorem unquote_referenceName? {item : List Char} {ident : Ident} (refers : Refers item ident) :
    (referenceName? item).map Ident.unquote = some ident.name := by
  have last := List.getLast?_eq_some_getLast refers.filled
  generalize ident.parts.getLast refers.filled = part at last
  have fits := refers.fits part (List.mem_of_getLast? last)
  have segments : (ident.parts.map Ident.Part.text).all isReferencePart := by
    rw [List.all_map, List.all_eq_true]
    exact fun other member => isReferencePart_text (refers.fits other member)
  rw [referenceName?, splitParts?_of_refers refers]
  simp only [Option.bind_eq_bind, Option.bind_some, segments, if_true, List.getLast?_map, last,
    Option.map_some, unquote_text fits.token, Ident.name, Option.getD_some]

theorem exists_refers {item text : List Char} (read : referenceName? item = some text) :
    ∃ ident, Refers item ident := by
  obtain ⟨texts, split, read⟩ := Option.bind_eq_some_iff.mp read
  split at read
  next segments =>
    obtain ⟨parts, rfl, fits⟩ := exists_segments segments
    obtain ⟨first, rest, filled⟩ := Ident.exists_cons_of_splitParts? split
    refine ⟨⟨parts⟩, ?_, ?_, fits⟩
    · rw [Ident.text, Ident.textOf_eq_dotted, Ident.dotted_of_splitParts? split]
    · rintro rfl
      cases filled
  next => cases read

/-! ## White space in references -/

theorem count_double (name : List Char) : (Ident.double name).count '"' % 2 = 0 := by
  induction name with
  | nil => rfl
  | cons c name ih =>
      by_cases quote : c = '"'
      · simp only [Ident.double, quote, if_true, List.count_cons_self]
        omega
      · simpa [Ident.double, quote] using ih

theorem count_text {part : Ident.Part} (fits : FitsSegment part) :
    part.text.count '"' % 2 = 0 := by
  cases fits with
  | bare _ inside =>
      rw [Ident.Part.text, List.count_eq_zero.mpr]
      intro member
      exact outside_segments (inside '"' member) (by decide)
  | @quoted name _ =>
      have even := count_double name
      simp only [Ident.Part.text, List.count_cons_self, List.count_append, List.count_nil]
      omega

theorem count_textOf {parts : List Ident.Part} (fits : ∀ part ∈ parts, FitsSegment part) :
    (Ident.textOf parts).count '"' % 2 = 0 := by
  induction parts with
  | nil => rfl
  | cons part rest ih =>
      obtain ⟨here, later⟩ := List.forall_mem_cons.mp fits
      have even := count_text here
      cases rest with
      | nil => exact even
      | cons next rest =>
          have evenRest := ih later
          change (part.text ++ '.' :: Ident.textOf (next :: rest)).count '"' % 2 = 0
          rw [List.count_append, List.count_cons_of_ne (by decide)]
          omega

theorem count_before_double {name before after : List Char} {c : Char} (noQuote : c ≠ '"')
    (same : Ident.double name ++ ['"'] = before ++ c :: after) : before.count '"' % 2 = 0 := by
  induction name generalizing before with
  | nil =>
      cases before with
      | nil => exact absurd (List.cons.inj same).1.symm noQuote
      | cons d before => simp [Ident.double] at same
  | cons d name ih =>
      by_cases quote : d = '"'
      · simp only [Ident.double, quote, if_true, List.cons_append] at same
        cases before with
        | nil => rfl
        | cons first before =>
            cases before with
            | nil =>
                rw [List.cons_append, List.nil_append, List.cons.injEq, List.cons.injEq] at same
                exact absurd same.2.1.symm noQuote
            | cons second before =>
                simp only [List.cons_append, List.cons.injEq] at same
                obtain ⟨rfl, rfl, same⟩ := same
                have even := ih same
                simp only [List.count_cons_self]
                omega
      · simp only [Ident.double, quote, if_false, List.cons_append] at same
        cases before with
        | nil => rfl
        | cons first before =>
            rw [List.cons_append, List.cons.injEq] at same
            obtain ⟨rfl, same⟩ := same
            rw [List.count_cons_of_ne quote]
            exact ih same

theorem count_before_blank {part : Ident.Part} (fits : FitsSegment part)
    {before after : List Char} {c : Char} (blank : Text.isBlank c)
    (same : part.text = before ++ c :: after) : before.count '"' % 2 = 1 := by
  have noQuote : c ≠ '"' := Text.ne_of_isBlank blank (by decide)
  cases fits with
  | @bare run _ inside =>
      have member : c ∈ run := by
        rw [show run = before ++ c :: after from same]
        simp
      have solid := isSolid_of_segment (inside c member)
      simp [Text.isSolid, blank] at solid
  | @quoted name _ =>
      rw [Ident.Part.text] at same
      cases before with
      | nil => exact absurd (List.cons.inj same).1.symm noQuote
      | cons d before =>
          rw [List.cons_append, List.cons.injEq] at same
          obtain ⟨rfl, same⟩ := same
          have even := count_before_double noQuote same
          rw [List.count_cons_self]
          omega

theorem count_before_blank_textOf {parts : List Ident.Part}
    (fits : ∀ part ∈ parts, FitsSegment part) {before after : List Char} {c : Char}
    (blank : Text.isBlank c) (same : Ident.textOf parts = before ++ c :: after) :
    before.count '"' % 2 = 1 := by
  induction parts generalizing before with
  | nil => simp [Ident.textOf] at same
  | cons part rest ih =>
      obtain ⟨here, later⟩ := List.forall_mem_cons.mp fits
      cases rest with
      | nil => exact count_before_blank here blank same
      | cons next rest =>
          change part.text ++ '.' :: Ident.textOf (next :: rest) = _ at same
          rcases List.append_eq_append_iff.mp same with ⟨more, rfl, behind⟩ | ⟨more, inside, behind⟩
          · cases more with
            | nil =>
                have dot : '.' = c := (List.cons.inj behind).1
                exact absurd blank (by rw [← dot]; decide)
            | cons d more =>
                rw [List.cons_append, List.cons.injEq] at behind
                obtain ⟨rfl, behind⟩ := behind
                have even := count_text here
                have odd := ih later behind
                rw [List.count_append, List.count_cons_of_ne (by decide)]
                omega
          · cases more with
            | nil =>
                have dot : c = '.' := (List.cons.inj behind).1
                exact absurd blank (by rw [dot]; decide)
            | cons d more =>
                rw [List.cons_append, List.cons.injEq] at behind
                obtain ⟨rfl, _⟩ := behind
                exact count_before_blank here blank inside

/-- No reference ends with white space and a segment. -/
theorem not_segment_behind_blank {parts : List Ident.Part} {part : Ident.Part}
    (fits : ∀ other ∈ parts, FitsSegment other) (fits' : FitsSegment part) {before : List Char}
    {c : Char} (blank : Text.isBlank c) : Ident.textOf parts ≠ before ++ c :: part.text := by
  intro same
  have even := count_textOf fits
  have odd := count_before_blank_textOf fits blank same
  have evenPart := count_text fits'
  have noQuote : c ≠ '"' := Text.ne_of_isBlank blank (by decide)
  rw [same, List.count_append, List.count_cons_of_ne noQuote] at even
  omega

/-! ## Aliases -/

structure EndsInAlias (item expression : List Char) (label : Ident.Part) : Prop where
  fits : FitsSegment label
  written : ∃ gap phrase, gap ≠ [] ∧ (∀ c ∈ gap, Text.isBlank c) ∧ Phrase ["as"] phrase ∧
    item = expression ++ (gap ++ (phrase ++ label.text))

/-- An item has an alias: the `as` before it stands outside quotes and parentheses. -/
def Aliased (item : List Char) (label : Ident.Part) : Prop :=
  ∃ expression, Balanced true expression ∧ EndsInAlias item expression label

def Gives (item name : List Char) : Prop :=
  (∃ label, Aliased item label ∧ label.name = name) ∨
    ∃ ident, Refers item ident ∧ ident.name = name

theorem exists_blank_of_phrase {word : String} {phrase : List Char}
    (whole : Phrase [word] phrase) : ∃ start c, phrase = start ++ [c] ∧ Text.isBlank c := by
  cases whole with
  | @cons _ _ spelled blanks _ _ filled blank nothing =>
      cases nothing
      refine ⟨spelled ++ blanks.dropLast, blanks.getLast filled, ?_,
        blank _ (List.getLast_mem filled)⟩
      rw [List.append_nil, List.append_assoc, List.dropLast_concat_getLast]

theorem EndsInAlias.exists_blank {item expression : List Char} {label : Ident.Part}
    (ends : EndsInAlias item expression label) :
    ∃ before c, item = before ++ c :: label.text ∧ Text.isBlank c := by
  obtain ⟨_, gap, phrase, _, _, whole, rfl⟩ := ends
  obtain ⟨start, c, rfl, blank⟩ := exists_blank_of_phrase whole
  exact ⟨expression ++ (gap ++ start), c, by simp, blank⟩

theorem EndsInAlias.unique {item expression expression' : List Char} {label label' : Ident.Part}
    (ends : EndsInAlias item expression label) (ends' : EndsInAlias item expression' label') :
    label.text = label'.text := by
  -- The longer one of two would have white space in it, and the other one behind that.
  obtain ⟨before, c, same, blank⟩ := ends.exists_blank
  obtain ⟨before', c', same', blank'⟩ := ends'.exists_blank
  rw [same] at same'
  rcases List.append_eq_append_iff.mp same' with ⟨more, _, text⟩ | ⟨more, _, text⟩
  · cases more with
    | nil => exact (List.cons.inj text).2
    | cons d more =>
        have one : ∀ part ∈ [label], FitsSegment part := by simpa using ends.fits
        exact absurd (List.cons.inj text).2 (not_segment_behind_blank one ends'.fits blank')
  · cases more with
    | nil => exact (List.cons.inj text).2.symm
    | cons d more =>
        have one : ∀ part ∈ [label'], FitsSegment part := by simpa using ends'.fits
        exact absurd (List.cons.inj text).2 (not_segment_behind_blank one ends.fits blank)

theorem EndsInAlias.not_refers {item expression : List Char} {label : Ident.Part} {ident : Ident}
    (ends : EndsInAlias item expression label) : ¬Refers item ident := by
  intro refers
  obtain ⟨before, c, same, blank⟩ := ends.exists_blank
  exact not_segment_behind_blank refers.fits ends.fits blank (refers.written.trans same)

theorem FitsSegment.stops_isBlank {part : Ident.Part} (fits : FitsSegment part) :
    Text.Stops Text.isBlank part.text := by
  obtain ⟨c, later, same, solid⟩ := fits.token.exists_cons
  rw [same]
  exact Text.stops_cons_iff.mpr solid

theorem keyword_as : Keyword "as" := by
  decide

theorem aliasHere?_eq_some_iff {text name : List Char}
    (trimmed : Text.Stops Text.isBlank text.reverse) :
    aliasHere? text = some name ↔ ∃ label, label.text = name ∧ EndsInAlias text [] label := by
  constructor
  · intro found
    obtain ⟨after, read, named⟩ := Option.bind_eq_some_iff.mp found
    obtain ⟨rest, blanks, word⟩ := Option.bind_eq_some_iff.mp read
    obtain ⟨gap, filled, blank, rfl, _⟩ := afterBlanks?_eq_some_iff.mp blanks
    obtain ⟨phrase, whole, rfl, _⟩ := afterWordAndBlanks?_eq_some_iff.mp word
    have ends : Text.Stops Text.isBlank after.reverse :=
      trimmed.of_reverse_append.of_reverse_append
    simp only [Text.trimRight_eq_self ends] at named
    split at named
    next segment =>
      cases named
      obtain ⟨label, fits, rfl⟩ := exists_segment segment
      exact ⟨label, rfl, fits, gap, phrase, filled, blank, whole, rfl⟩
    next => cases named
  · rintro ⟨label, rfl, fits, gap, phrase, filled, blank, whole, rfl⟩
    rw [List.nil_append] at trimmed ⊢
    have ends : Text.Stops Text.isBlank label.text.reverse :=
      trimmed.of_reverse_append.of_reverse_append
    have word : afterWordAndBlanks? "as" (phrase ++ label.text) = some label.text :=
      afterWordAndBlanks?_eq_some_iff.mpr ⟨phrase, whole, rfl, fits.stops_isBlank⟩
    have blanks : afterBlanks? (gap ++ (phrase ++ label.text)) = some (phrase ++ label.text) :=
      afterBlanks?_eq_some_iff.mpr ⟨gap, filled, blank, rfl,
        (whole.firstWord label.text).stops_isBlank keyword_as⟩
    rw [aliasHere?, blanks, Option.bind_some, word]
    simp only [Option.bind_eq_bind, Option.bind_some, Text.trimRight_eq_self ends,
      isReferencePart_text fits, if_true]

theorem exists_aliasHere? {item name : List Char} (found : alias? item = some name) :
    ∃ before rest, item = before ++ rest ∧ aliasHere? rest = some name := by
  induction item with
  | nil => cases found
  | cons c item ih =>
      rw [alias?] at found
      cases here : aliasHere? (c :: item) with
      | some other =>
          rw [here] at found
          cases found
          exact ⟨[], c :: item, rfl, here⟩
      | none =>
          rw [here] at found
          obtain ⟨before, rest, rfl, read⟩ := ih found
          exact ⟨c :: before, rest, rfl, read⟩

theorem exists_alias? {rest name : List Char} (read : aliasHere? rest = some name)
    (before : List Char) :
    ∃ found, alias? (before ++ rest) = some found := by
  induction before with
  | nil =>
      cases rest with
      | nil => cases read
      | cons c rest => exact ⟨name, by rw [List.nil_append, alias?, read]; rfl⟩
  | cons c before ih =>
      obtain ⟨found, later⟩ := ih
      rw [List.cons_append, alias?, later]
      cases aliasHere? (c :: (before ++ rest)) <;> exact ⟨_, rfl⟩

theorem alias?_eq_some_iff {item name : List Char}
    (trimmed : Text.Stops Text.isBlank item.reverse) :
    alias? item = some name ↔
      ∃ expression label, label.text = name ∧ EndsInAlias item expression label := by
  have sound : ∀ found, alias? item = some found →
      ∃ expression label, label.text = found ∧ EndsInAlias item expression label := by
    intro found leftmost
    obtain ⟨before, rest, rfl, read⟩ := exists_aliasHere? leftmost
    obtain ⟨label, rfl, fits, gap, phrase, filled, blank, whole, rfl⟩ :=
      (aliasHere?_eq_some_iff trimmed.of_reverse_append).mp read
    exact ⟨before, label, rfl, fits, gap, phrase, filled, blank, whole, rfl⟩
  refine ⟨sound name, ?_⟩
  rintro ⟨expression, label, rfl, ends⟩
  obtain ⟨fits, gap, phrase, filled, blank, whole, rfl⟩ := ends
  have here : aliasHere? (gap ++ (phrase ++ label.text)) = some label.text :=
    (aliasHere?_eq_some_iff trimmed.of_reverse_append).mpr
      ⟨label, rfl, fits, gap, phrase, filled, blank, whole, rfl⟩
  -- The leftmost alias is the only one.
  obtain ⟨found, leftmost⟩ := exists_alias? here expression
  obtain ⟨_, label', rfl, ends'⟩ := sound found leftmost
  have same := ends'.unique ⟨fits, gap, phrase, filled, blank, whole, rfl⟩
  rw [leftmost, same]

/-! ## The place of an alias -/

theorem Spelled.plain {word : String} {spelled : List Char} {commas : Bool}
    (spells : Spelled word.toList spelled) (keyword : Keyword word) :
    ∀ c ∈ spelled, Plain commas c :=
  fun c member => plain_of_isWord (spells.isWord keyword.2 c member)

theorem Phrase.plain {words : List String} {phrase : List Char} {commas : Bool}
    (whole : Phrase words phrase) (keywords : ∀ word ∈ words, Keyword word) :
    ∀ c ∈ phrase, Plain commas c := by
  induction whole with
  | nil => simp
  | cons spells _ blank _ ih =>
      obtain ⟨first, later⟩ := List.forall_mem_cons.mp keywords
      intro c member
      rcases List.mem_append.mp member with inWord | behind
      · exact spells.plain first c inWord
      · rcases List.mem_append.mp behind with inBlanks | inRest
        · exact plain_of_isBlank (blank c inBlanks)
        · exact ih later c inRest

def Nesting.Quotes (nesting : Nesting) : Prop :=
  ∀ quote, nesting.quote = some quote → quote = '\'' ∨ quote = '"'

theorem Nesting.Quotes.through {nesting : Nesting} (quotes : nesting.Quotes) (text : List Char) :
    (nesting.through text).Quotes := by
  induction text generalizing nesting with
  | nil => exact quotes
  | cons c text ih =>
      apply ih
      intro quote inside
      cases before : nesting.quote with
      | none =>
          rw [quote_step_of_none before] at inside
          split at inside
          next isQuote => exact Option.some.inj inside ▸ isQuote
          next => cases inside
      | some other =>
          rw [quote_step_of_some before] at inside
          split at inside
          next => cases inside
          next => exact Option.some.inj inside ▸ quotes other before

theorem Nesting.Quotes.through_plain {nesting : Nesting} (quotes : nesting.Quotes)
    {text : List Char} (plain : ∀ c ∈ text, Plain true c) : nesting.through text = nesting := by
  induction text with
  | nil => rfl
  | cons c text ih =>
      obtain ⟨first, later⟩ := List.forall_mem_cons.mp plain
      have here : nesting.step c = nesting := by
        cases inside : nesting.quote with
        | none =>
            obtain ⟨quote, depth⟩ := nesting
            cases inside
            exact step_plain first depth
        | some quote =>
            have other : c ≠ quote := by
              rintro rfl
              rcases quotes c inside with rfl | rfl
              · exact first.1 rfl
              · exact first.2.1 rfl
            simp [Nesting.step, inside, other]
      rw [Nesting.through, List.foldl_cons, here]
      exact ih later

theorem step_double_quote {nesting : Nesting} (apart : nesting.quote ≠ some '"') :
    (nesting.step '"').quote ≠ none ∧ (nesting.step '"').step '"' = nesting := by
  obtain ⟨quote, depth⟩ := nesting
  cases quote with
  | none => simp [Nesting.step]
  | some quote =>
      have other : '"' ≠ quote := by
        rintro rfl
        exact apart rfl
      simp [Nesting.step, other]

theorem quote_through_double (name : List Char) {nesting : Nesting}
    (apart : nesting.quote ≠ some '"') :
    (nesting.through (Ident.double name)).quote ≠ some '"' := by
  induction name generalizing nesting with
  | nil => exact apart
  | cons c name ih =>
      by_cases isDouble : c = '"'
      · rw [Ident.double, if_pos isDouble, Nesting.through, List.foldl_cons, List.foldl_cons,
          (step_double_quote apart).2]
        exact ih apart
      · rw [Ident.double, if_neg isDouble, Nesting.through, List.foldl_cons]
        apply ih
        cases inside : nesting.quote with
        | none =>
            rw [quote_step_of_none inside]
            split <;> simp [isDouble]
        | some quote =>
            rw [quote_step_of_some inside]
            rw [inside] at apart
            split <;> simp [apart]

theorem quote_through_segment {nesting : Nesting} (quotes : nesting.Quotes)
    (opened : nesting.quote ≠ none) {part : Ident.Part} (fits : FitsSegment part) :
    (nesting.through part.text).quote ≠ none := by
  cases fits with
  | @bare run _ inside =>
      have plain : ∀ c ∈ run, Plain true c := fun c member =>
        plain_of_class (p := fun c => Text.isWord c || c == '$') (inside c member)
          (by decide)
      rw [Ident.Part.text, quotes.through_plain plain]
      exact opened
  | @quoted name _ =>
      have first : (nesting.step '"').quote ≠ some '"' := by
        obtain ⟨quote, inside⟩ := Option.ne_none_iff_exists'.mp opened
        rcases quotes quote inside with rfl | rfl <;> simp [Nesting.step, inside]
      have last := (step_double_quote (quote_through_double name first)).1
      rw [Ident.Part.text, Nesting.through, List.foldl_cons, List.foldl_append]
      exact last

theorem FitsSegment.balanced {part : Ident.Part} (fits : FitsSegment part) :
    Balanced false part.text := by
  simpa using balanced_name fits.token .nil

/-- The `as` before the alias of a balanced item stands outside its quotes and parentheses. -/
theorem EndsInAlias.balanced {commas : Bool} {item expression : List Char} {label : Ident.Part}
    (ends : EndsInAlias item expression label) (balanced : Balanced commas item) :
    Balanced commas expression := by
  obtain ⟨fits, gap, phrase, _, blank, whole, rfl⟩ := ends
  have gapPlain : ∀ c ∈ gap, Plain true c := fun c member => plain_of_isBlank (blank c member)
  have phrasePlain : ∀ c ∈ phrase, Plain true c :=
    whole.plain (by simpa using keyword_as)
  have start : Nesting.outside.Quotes := fun quote inside => nomatch inside
  have quotes := start.through expression
  have out := balanced.through 0
  rw [Nesting.through_append, Nesting.through_append, Nesting.through_append] at out
  change (((Nesting.outside.through expression).through gap).through phrase).through label.text =
    .outside at out
  rw [quotes.through_plain gapPlain, quotes.through_plain phrasePlain] at out
  apply (balanced.place rfl 0).2
  change Nesting.outside.through expression = .outside
  cases inside : (Nesting.outside.through expression).quote with
  | none =>
      generalize Nesting.outside.through expression = nesting at inside out
      obtain ⟨quote, depth⟩ := nesting
      cases inside
      rwa [fits.balanced.through] at out
  | some quote =>
      -- A quote that is open before the alias would be open at the end.
      have still := quote_through_segment quotes (by simp [inside]) fits
      rw [out] at still
      exact absurd rfl still

/-! ## Names of items -/

theorem itemName?_eq_some_iff {item name : List Char} (balanced : Balanced true item)
    (trimmed : Text.Stops Text.isBlank item.reverse) :
    itemName? item = some (String.ofList name) ↔ Gives item name := by
  rw [itemName?]
  cases found : alias? item with
  | some text =>
      obtain ⟨expression, label, rfl, ends⟩ := (alias?_eq_some_iff trimmed).mp found
      simp only [Option.orElse_some, Option.map_some, Option.some.injEq, String.ofList_inj,
        unquote_text ends.fits.token]
      constructor
      · rintro rfl
        exact Or.inl ⟨label, ⟨expression, ends.balanced balanced, ends⟩, rfl⟩
      · rintro (⟨label', ⟨_, _, ends'⟩, rfl⟩ | ⟨ident, refers, _⟩)
        · have same := congrArg Ident.unquote (ends.unique ends')
          rwa [unquote_text ends.fits.token, unquote_text ends'.fits.token] at same
        · exact absurd refers ends.not_refers
  | none =>
      have unaliased : ∀ label, ¬Aliased item label := by
        rintro label ⟨expression, _, ends⟩
        rw [(alias?_eq_some_iff trimmed).mpr ⟨expression, label, rfl, ends⟩] at found
        cases found
      simp only [Option.orElse_none]
      constructor
      · intro read
        obtain ⟨text, reference, same⟩ := Option.map_eq_some_iff.mp read
        obtain ⟨ident, refers⟩ := exists_refers reference
        have named := unquote_referenceName? refers
        rw [reference, Option.map_some, Option.some.injEq] at named
        rw [String.ofList_inj, named] at same
        exact Or.inr ⟨ident, refers, same⟩
      · rintro (⟨label, aliased, _⟩ | ⟨ident, refers, rfl⟩)
        · exact absurd aliased (unaliased label)
        · obtain ⟨text, reference, same⟩ :=
            Option.map_eq_some_iff.mp (unquote_referenceName? refers)
          rw [reference, Option.map_some, same]

end SqlTemplate.Schema
