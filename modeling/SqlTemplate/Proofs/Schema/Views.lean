import SqlTemplate.Proofs.Schema.Output

/-!
Views as they are written, and the entities that are read from them. The select list reaches from
`select`, or from `distinct` behind it, to the first `from` outside quotes and parentheses, and its
items give the columns, the first of each name.
-/

namespace SqlTemplate.Schema

/-! ## Select lists -/

structure SelectItem where
  before : List Char
  body : List Char
  after : List Char
  blank : ∀ c ∈ before, Text.isBlank c
  blank' : ∀ c ∈ after, Text.isBlank c
  filled : body ≠ []
  starts : Text.Stops Text.isBlank body
  ends : Text.Stops Text.isBlank body.reverse
  balanced : Balanced false body
  unended : ¬Mentions "from" body

def SelectItem.text (item : SelectItem) : List Char :=
  item.before ++ (item.body ++ item.after)

def listed (items : List SelectItem) : List Char :=
  ((items.map SelectItem.text).intersperse [',']).flatten

/-- What may stand between `select` and the list. The first item must not begin with `distinct`
itself. -/
inductive Quantifier : List SelectItem → List Char → Prop
  | all {first : SelectItem} {rest : List SelectItem} : ¬Opens "distinct" first.body →
      Quantifier (first :: rest) []
  | distinct {items : List SelectItem} {blanks word : List Char} : blanks ≠ [] →
      (∀ c ∈ blanks, Text.isBlank c) → word.map Char.toLower = "distinct".toList →
      Quantifier items (blanks ++ word)

/-- What may stand behind the list: nothing, or `from` and any text. -/
inductive Ending : List Char → Prop
  | nothing : Ending []
  | source {gap : Char} {word tail : List Char} : Text.isBlank gap →
      word.map Char.toLower = "from".toList → Text.Stops Text.isBareLater tail →
      Ending (gap :: (word ++ tail))

/-- A text selects some items; it is what stands behind `select`. -/
structure Selects (items : List SelectItem) (text : List Char) : Prop where
  apart : Text.Stops Text.isBareLater (listed items)
  written : ∃ quantifier ending, Quantifier items quantifier ∧ Ending ending ∧
    text = quantifier ++ (listed items ++ ending)

structure ViewHead where
  replacing : List String
  modifying : List String
  phrase : List Char
  view : List Char
  before : List Char
  name : List Char
  gap : List Char
  as : List Char
  gap' : List Char
  select : List Char
  replaces : Replacing replacing
  modifies : Modifying modifying
  creates : Phrase ("create" :: (replacing ++ modifying)) phrase
  spellsView : Spelled "view".toList view
  spellsAs : Spelled "as".toList as
  spellsSelect : select.map Char.toLower = "select".toList
  blanks : ∀ blanks ∈ [before, gap, gap'], blanks ≠ [] ∧ ∀ c ∈ blanks, Text.isBlank c
  filled : name ≠ []
  word : ∀ c ∈ name, Text.isWord c

def ViewHead.source (head : ViewHead) (text : List Char) : String :=
  String.ofList (head.phrase ++ (head.view ++ (head.before ++ (head.name ++
    (head.gap ++ (head.as ++ (head.gap' ++ (head.select ++ text))))))))

/-! ## White space and keywords -/

theorem not_isBareLater_of_isBlank {c : Char} (blank : Text.isBlank c) :
    Text.isBareLater c = false := by
  cases bare : Text.isBareLater c with
  | false => rfl
  | true =>
      rw [Text.isBareLater, Bool.or_eq_true, beq_iff_eq] at bare
      rcases bare with word | rfl
      · rw [Text.isBlank_of_isWord (Text.isWord_of_isAsciiWord word)] at blank
        contradiction
      · revert blank
        decide

theorem stops_isBareLater_of_blanks {blanks : List Char} (blank : ∀ c ∈ blanks, Text.isBlank c) :
    Text.Stops Text.isBareLater blanks :=
  Text.stops_of_outside fun c member => not_isBareLater_of_isBlank (blank c member)

theorem step_blank {c : Char} (blank : Text.isBlank c) : Nesting.outside.step c = .outside :=
  step_plain (show Plain false c from plain_of_isBlank blank) 0

theorem splitAtKeyword?_blanks {keyword : String} (word : Keyword keyword) {blanks : List Char}
    (blank : ∀ c ∈ blanks, Text.isBlank c) (more : List Char) :
    splitAtKeyword? keyword.toList false .outside (blanks ++ more) =
      (splitAtKeyword? keyword.toList false .outside more).map (behind blanks) :=
  splitAtKeyword?_run word (fun c member => not_isBareLater_of_isBlank (blank c member))
    (fun c member => step_blank (blank c member)) more

theorem blank_of_trim_eq_nil {text : List Char} (empty : Text.trim text = []) :
    ∀ c ∈ text, Text.isBlank c := by
  obtain ⟨blanks, blank, same⟩ := Text.exists_trimRight_append (Text.trimLeft text)
  change Text.trimLeft text = Text.trim text ++ blanks at same
  rw [empty, List.nil_append] at same
  have nothing : Text.trimLeft text = [] := by
    cases blanks with
    | nil => exact same
    | cons c blanks =>
        have stops := Text.stops_dropWhile Text.isBlank text
        rw [← Text.trimLeft, same, Text.stops_cons_iff, blank c List.mem_cons_self] at stops
        contradiction
  have run := List.takeWhile_append_dropWhile (p := Text.isBlank) (l := text)
  rw [← Text.trimLeft, nothing, List.append_nil] at run
  rw [← run]
  exact fun c member => List.all_eq_true.mp List.all_takeWhile c member

theorem trim_blanks {blanks : List Char} (blank : ∀ c ∈ blanks, Text.isBlank c) :
    Text.trim blanks = [] := by
  have nothing : Text.trimLeft blanks = [] := by
    simpa using Text.trimLeft_blanks_append blank Text.stops_nil
  rw [Text.trim, nothing]
  rfl

theorem Opens.stops_isBlank {keyword : String} (word : Keyword keyword) {text : List Char}
    (opens : Opens keyword text) : Text.Stops Text.isBlank text := by
  obtain ⟨spelled, after, rfl, spells, _⟩ := opens
  obtain ⟨c, later, rfl⟩ := List.exists_cons_of_ne_nil (ne_nil_of_spelled word spells)
  rw [List.cons_append, Text.stops_cons_iff]
  cases blank : Text.isBlank c with
  | false => rfl
  | true =>
      have bare := isBareLater_of_spelled word spells c List.mem_cons_self
      rw [not_isBareLater_of_isBlank blank] at bare
      contradiction

/-! ## Items in a list -/

theorem keyword_from : Keyword "from" := by
  decide

@[simp] theorem listed_cons_cons (first second : SelectItem) (rest : List SelectItem) :
    listed (first :: second :: rest) = first.text ++ ',' :: listed (second :: rest) := by
  simp [listed]

@[simp] theorem listed_singleton (item : SelectItem) : listed [item] = item.text := by
  simp [listed]

namespace SelectItem

theorem balanced_text (item : SelectItem) : Balanced false item.text :=
  (balanced_of_blanks item.blank).append (item.balanced.append (balanced_of_blanks item.blank'))

theorem trim_text (item : SelectItem) {blanks : List Char}
    (blank : ∀ c ∈ blanks, Text.isBlank c) : Text.trim (item.text ++ blanks) = item.body := by
  have trailing : ∀ c ∈ item.after ++ blanks, Text.isBlank c := by
    intro c member
    rcases List.mem_append.mp member with inAfter | inBlanks
    · exact item.blank' c inAfter
    · exact blank c inBlanks
  rw [text, List.append_assoc, List.append_assoc]
  exact Text.trim_around item.blank trailing item.filled item.starts item.ends

theorem splitAtKeyword?_text (item : SelectItem) {more : List Char}
    (stops : Text.Stops Text.isBareLater more) :
    splitAtKeyword? "from".toList false .outside (item.text ++ more) =
      (splitAtKeyword? "from".toList false .outside more).map (behind item.text) := by
  have stopsAfter : Text.Stops Text.isBareLater (item.after ++ more) :=
    (stops_isBareLater_of_blanks item.blank').append stops
  rw [text, List.append_assoc, List.append_assoc,
    splitAtKeyword?_blanks keyword_from item.blank,
    item.balanced.splitAtKeyword?_append keyword_from item.unended stopsAfter,
    splitAtKeyword?_blanks keyword_from item.blank', map_behind_behind, map_behind_behind,
    List.append_assoc]

end SelectItem

theorem splitAtKeyword?_listed {more : List Char} (stops : Text.Stops Text.isBareLater more)
    (items : List SelectItem) :
    splitAtKeyword? "from".toList false .outside (listed items ++ more) =
      (splitAtKeyword? "from".toList false .outside more).map (behind (listed items)) := by
  induction items with
  | nil => exact (map_behind_nil _).symm
  | cons item rest ih =>
      cases rest with
      | nil =>
          rw [listed_singleton]
          exact item.splitAtKeyword?_text stops
      | cons next rest =>
          have comma : Text.Stops Text.isBareLater (',' :: (listed (next :: rest) ++ more)) :=
            Text.stops_cons_iff.mpr (by decide)
          have still : Nesting.outside.step ',' = .outside := rfl
          rw [listed_cons_cons, List.append_assoc, List.cons_append,
            item.splitAtKeyword?_text comma, splitAtKeyword?_cons keyword_from (by decide), still,
            ih, map_behind_behind, map_behind_behind, List.append_assoc]
          rfl

theorem items_listed {blanks : List Char} (blank : ∀ c ∈ blanks, Text.isBlank c)
    (list : List SelectItem) : items (listed list ++ blanks) = list.map SelectItem.body := by
  have filled : ∀ item : SelectItem, item.body.isEmpty = false := fun item => by
    simpa using item.filled
  rw [items]
  induction list with
  | nil =>
      rw [listed, List.map_nil, List.intersperse_nil, List.flatten_nil, List.nil_append,
        (balanced_of_blanks blank).pieces_last]
      simp [trim_blanks blank]
  | cons item rest ih =>
      cases rest with
      | nil =>
          have balanced := item.balanced_text.append (balanced_of_blanks blank)
          rw [listed_singleton, balanced.pieces_last]
          simp [item.trim_text blank, filled item]
      | cons next rest =>
          have trimmed := item.trim_text (List.forall_mem_nil _)
          rw [List.append_nil] at trimmed
          rw [listed_cons_cons, List.append_assoc, List.cons_append,
            item.balanced_text.pieces_comma, List.map_cons, List.filter_cons, trimmed, filled item,
            ih]
          rfl

/-! ## The select list -/

theorem exists_listed_cons {ending : List Char} (stops : Text.Stops Text.isBareLater ending)
    (first : SelectItem) (rest : List SelectItem) :
    ∃ more, listed (first :: rest) ++ ending = first.before ++ (first.body ++ more) ∧
      Text.Stops Text.isBareLater more := by
  have after := stops_isBareLater_of_blanks first.blank'
  cases rest with
  | nil =>
      refine ⟨first.after ++ ending, ?_, after.append stops⟩
      simp [SelectItem.text]
  | cons next rest =>
      refine ⟨first.after ++ ',' :: (listed (next :: rest) ++ ending), ?_,
        after.append (Text.stops_cons_iff.mpr (by decide))⟩
      simp [SelectItem.text]

theorem Ending.stops {ending : List Char} (ends : Ending ending) :
    Text.Stops Text.isBareLater ending := by
  cases ends with
  | nothing => exact Text.stops_nil
  | source blank _ _ => exact Text.stops_cons_iff.mpr (not_isBareLater_of_isBlank blank)

theorem Quantifier.skipDistinct_eq {items : List SelectItem} {quantifier ending : List Char}
    (quantifies : Quantifier items quantifier) (ends : Ending ending)
    (apart : Text.Stops Text.isBareLater (listed items)) :
    skipDistinct (quantifier ++ (listed items ++ ending)) = listed items ++ ending := by
  have word : Keyword "distinct" := by decide
  cases quantifies with
  | @all first rest other =>
      rw [List.nil_append, skipDistinct]
      split
      next before after found =>
        split
        next empty =>
          -- The word would be the first one of the first item.
          obtain ⟨later, same, opens⟩ := splitAtKeyword?_sound found
          obtain ⟨more, text, stops⟩ := exists_listed_cons ends.stops first rest
          have blank := blank_of_trim_eq_nil (List.isEmpty_iff.mp empty)
          have trimmed := congrArg Text.trimLeft (same.symm.trans text)
          have starts := first.starts.append_of_ne_nil first.filled more
          rw [Text.trimLeft_blanks_append blank (opens.stops_isBlank word),
            Text.trimLeft_blanks_append first.blank starts] at trimmed
          exact absurd ((trimmed ▸ opens).of_append word stops) other
        next => rfl
      next => rfl
  | @distinct _ blanks spelled filled blank spells =>
      have found : splitAtKeyword? "distinct".toList false .outside
          ((blanks ++ spelled) ++ (listed items ++ ending)) =
            some (blanks, listed items ++ ending) := by
        rw [List.append_assoc, splitAtKeyword?_blanks word blank,
          splitAtKeyword?_spelled word spells (apart.append ends.stops)]
        simp [behind]
      rw [skipDistinct, found]
      simp [trim_blanks blank]

theorem Ending.cutFrom_eq {ending : List Char} (ends : Ending ending) (items : List SelectItem) :
    ∃ blanks, (∀ c ∈ blanks, Text.isBlank c) ∧
      cutFrom (listed items ++ ending) = listed items ++ blanks := by
  cases ends with
  | nothing =>
      refine ⟨[], List.forall_mem_nil _, ?_⟩
      rw [cutFrom, splitAtKeyword?_listed Text.stops_nil]
      rfl
  | @source gap word tail blank spells stops =>
      have space := not_isBareLater_of_isBlank blank
      have still : Nesting.outside.step gap = .outside := step_blank blank
      refine ⟨[gap], by simpa using blank, ?_⟩
      rw [cutFrom, splitAtKeyword?_listed (Text.stops_cons_iff.mpr space),
        splitAtKeyword?_cons keyword_from space, still,
        splitAtKeyword?_spelled keyword_from spells stops]
      rfl

/-! ## Heads of views -/

theorem Spelled.exists_letter {word text : List Char} (spelled : Spelled word text) {c : Char}
    (member : c ∈ text) : ∃ letter ∈ word, isLetter letter c := by
  induction spelled with
  | nil => cases member
  | cons read _ ih =>
      rcases List.mem_cons.mp member with rfl | later
      · exact ⟨_, List.mem_cons_self, read⟩
      · obtain ⟨letter, inWord, read⟩ := ih later
        exact ⟨letter, List.mem_cons_of_mem _ inWord, read⟩

theorem readKind?_view {spelled rest : List Char} (spells : Spelled "view".toList spelled)
    (stops : Text.Stops Text.isWord rest) : readKind? (spelled ++ rest) = some (.view, rest) := by
  have table : afterWord? "table".toList (spelled ++ rest) = none :=
    afterWord?_table_of_view ⟨spelled, rest, rfl, spells, stops⟩
  have read : afterWord? "view".toList (spelled ++ rest) = some rest :=
    afterWord?_eq_some_iff.mpr ⟨spelled, rfl, spells⟩
  simp only [readKind?, table, read, Option.map_some, Option.bind_eq_bind, Option.bind_some,
    stops_iff_head?.mpr stops, Bool.false_eq_true, if_false]

namespace ViewHead

variable (head : ViewHead) (text : List Char)

def rest : List Char :=
  head.gap ++ (head.as ++ (head.gap' ++ (head.select ++ text)))

theorem not_mentions_select : ¬Mentions "select" head.as := by
  intro mentions
  obtain ⟨c, member, lower⟩ := mem_of_mentions mentions 'l' (by decide)
  obtain ⟨letter, inWord, read⟩ := head.spellsAs.exists_letter member
  have same := letter_unique (keyword_as.2 letter inWord) (by decide : 'l'.isLower) read
    (by simp [isLetter, lower])
  subst same
  exact absurd inWord (by decide)

theorem splitAtKeyword?_select (apart : Text.Stops Text.isBareLater text) :
    splitAtKeyword? "select".toList false .outside (head.rest text) =
      some (head.gap ++ (head.as ++ head.gap'), text) := by
  have word : Keyword "select" := by decide +kernel
  obtain ⟨_, gap, gap'⟩ : _ ∧ _ ∧ _ := by simpa using head.blanks
  have balanced : Balanced false head.as :=
    balanced_of_plain (head.spellsAs.plain keyword_as)
  have stops := (stops_isBareLater_of_blanks gap'.2).append_of_ne_nil gap'.1 (head.select ++ text)
  rw [rest, splitAtKeyword?_blanks word gap.2,
    balanced.splitAtKeyword?_append word head.not_mentions_select stops,
    splitAtKeyword?_blanks word gap'.2, splitAtKeyword?_spelled word head.spellsSelect apart,
    map_behind_behind, map_behind_behind]
  simp [behind]

theorem stops_isBlank : Text.Stops Text.isBlank (head.name ++ head.rest text) := by
  have stops : Text.Stops Text.isBlank head.name :=
    Text.stops_of_outside fun c member => Text.isBlank_of_isWord (head.word c member)
  exact stops.append_of_ne_nil head.filled _

/-- A view may be called `if`, but `as` follows. -/
theorem skipExists_eq :
    skipExists (head.before ++ (head.name ++ head.rest text)) =
      head.before ++ (head.name ++ head.rest text) := by
  obtain ⟨before, gap, gap'⟩ : _ ∧ _ ∧ _ := by simpa using head.blanks
  have wordGap : Text.Stops Text.isWord (head.rest text) := stops_isWord_of_blanks gap.1 gap.2
  have firstWord : FirstWord "as" (head.as ++ (head.gap' ++ (head.select ++ text))) :=
    ⟨head.as, _, rfl, head.spellsAs, stops_isWord_of_blanks gap'.1 gap'.2⟩
  apply skipExists_eq_self before.1 before.2 (head.stops_isBlank text)
  intro after read
  obtain ⟨phrase, whole, same, stops⟩ := afterWordAndBlanks?_eq_some_iff.mp read
  cases whole with
  | @cons _ _ spelled blanks _ spells filled blank nothing =>
      cases nothing
      rw [List.append_nil, List.append_assoc] at same
      -- The word is the name, so what follows the white space is what follows the gap.
      have letters := spells.isWord (by decide)
      have names := congrArg (List.dropWhile Text.isWord) same
      rw [Text.dropWhile_append_of_stops head.word wordGap, Text.dropWhile_append_of_stops letters
        (stops_isWord_of_blanks filled blank)] at names
      have behind := congrArg Text.trimLeft names
      rw [rest, Text.trimLeft_blanks_append gap.2 (firstWord.stops_isBlank keyword_as),
        Text.trimLeft_blanks_append blank stops] at behind
      rw [← behind]
      exact afterWordAndBlanks?_eq_none firstWord (by decide) keyword_as (by decide)

theorem findHead?_eq :
    findHead? false (head.source text).toList = some ⟨.view, head.name, head.rest text⟩ := by
  obtain ⟨before, gap, _⟩ : _ ∧ _ ∧ _ := by simpa using head.blanks
  have stops : Text.Stops Text.isWord (head.before ++ (head.name ++ head.rest text)) :=
    stops_isWord_of_blanks before.1 before.2
  have read := readHead?_phrase head.replaces head.modifies head.creates
    (Or.inr ⟨head.view, _, rfl, head.spellsView, stops⟩) (readKind?_view head.spellsView stops)
  have nameChars : ∀ c ∈ head.name, isNameChar c :=
    fun c member => isNameChar_of_isWord (head.word c member)
  have nameStops : Text.Stops isNameChar (head.rest text) :=
    (stops_isNameChar_of_blanks gap.2).append_of_ne_nil gap.1 _
  have taken := Text.takeWhile_append_of_stops nameChars nameStops
  have named : readName (head.before ++ (head.name ++ head.rest text)) =
      (head.name, head.rest text) := by
    rw [readName_eq before.1 before.2 (head.stops_isBlank text) (by rw [taken]; exact head.filled),
      taken, Text.dropWhile_append_of_stops nameChars nameStops]
  rw [head.skipExists_eq, named] at read
  rw [source, String.toList_ofList]
  exact findHead?_of_readHead? read

theorem entityOf_eq (fallback : String) :
    entityOf (head.source text) fallback =
      .ok ⟨String.ofList head.name, .view, viewColumns (head.rest text)⟩ := by
  have named : String.ofList head.name ≠ "" := by simpa using head.filled
  rw [entityOf, findHead?_eq]
  simp only [List.isEmpty_iff, head.filled, if_false, String.isEmpty_iff, named]

end ViewHead

/-! ## Columns of views -/

def viewColumn (name : List Char) : Column :=
  ⟨String.ofList name, "", .unknown⟩

section

variable {items : List SelectItem} {text : List Char} (selects : Selects items text)

include selects in
theorem Selects.stops : Text.Stops Text.isBareLater text := by
  obtain ⟨apart, quantifier, ending, quantifies, ends, rfl⟩ := selects
  cases quantifies with
  | all => exact apart.append ends.stops
  | distinct filled blank _ =>
      rw [List.append_assoc]
      exact (stops_isBareLater_of_blanks blank).append_of_ne_nil filled _

include selects in
theorem Selects.selectList?_eq (head : ViewHead) :
    ∃ blanks, (∀ c ∈ blanks, Text.isBlank c) ∧
      selectList? (head.rest text) = some (listed items ++ blanks) := by
  have select := head.splitAtKeyword?_select text selects.stops
  obtain ⟨apart, quantifier, ending, quantifies, ends, rfl⟩ := selects
  obtain ⟨blanks, blank, cut⟩ := ends.cutFrom_eq items
  refine ⟨blanks, blank, ?_⟩
  rw [selectList?, select, Option.map_some, quantifies.skipDistinct_eq ends apart, cut]

include selects in
theorem Selects.viewColumns_eq (head : ViewHead) :
    viewColumns (head.rest text) =
      distinct [] (items.filterMap fun item =>
        (itemName? item.body).map fun name => ⟨name, "", .unknown⟩) := by
  obtain ⟨blanks, blank, list⟩ := selects.selectList?_eq head
  rw [viewColumns, list]
  simp only [items_listed blank, List.filterMap_map]
  rfl

end

/-- What an item of a select list gives: the name of its alias, the last name of its reference, or
nothing if it ends with a parenthesis and has no alias. -/
inductive Output : List Char → Option (List Char) → Prop
  | aliased {item : List Char} {label : Ident.Part} : Aliased item label →
      Output item (some label.name)
  | reference {item : List Char} {ident : Ident} : Refers item ident →
      Output item (some ident.name)
  | computed {start : List Char} : Output (start ++ [')']) none

def EndsNoName (c : Char) : Prop :=
  (Text.isWord c || c == '$') = false ∧ c ∉ ['"', '.']

instance (c : Char) : Decidable (EndsNoName c) :=
  inferInstanceAs (Decidable (_ ∧ _))

section

variable {c : Char} (foreign : EndsNoName c)

include foreign in
theorem FitsSegment.getLast?_ne {part : Ident.Part} (fits : FitsSegment part) :
    part.text.getLast? ≠ some c := by
  cases fits with
  | bare _ inside =>
      intro last
      have member := inside c (List.mem_of_getLast? last)
      rw [foreign.1] at member
      contradiction
  | @quoted name _ =>
      change (('"' :: Ident.double name) ++ ['"']).getLast? ≠ some c
      rw [List.getLast?_concat]
      rintro ⟨rfl⟩
      exact foreign.2 List.mem_cons_self

include foreign in
theorem getLast?_textOf_ne {parts : List Ident.Part} (fits : ∀ part ∈ parts, FitsSegment part) :
    (Ident.textOf parts).getLast? ≠ some c := by
  induction parts with
  | nil => simp [Ident.textOf]
  | cons part rest ih =>
      obtain ⟨here, later⟩ := List.forall_mem_cons.mp fits
      cases rest with
      | nil => exact here.getLast?_ne foreign
      | cons next rest =>
          have last := ih later
          change (part.text ++ '.' :: Ident.textOf (next :: rest)).getLast? ≠ _
          rw [List.getLast?_append, List.getLast?_cons, Option.some_or]
          cases read : (Ident.textOf (next :: rest)).getLast? with
          | none =>
              rintro ⟨rfl⟩
              exact foreign.2 (by simp)
          | some c => rwa [read] at last

include foreign in
theorem Refers.getLast?_ne {item : List Char} {ident : Ident} (refers : Refers item ident) :
    item.getLast? ≠ some c := by
  rw [← refers.written]
  exact getLast?_textOf_ne foreign refers.fits

include foreign in
theorem EndsInAlias.getLast?_ne {item expression : List Char} {label : Ident.Part}
    (ends : EndsInAlias item expression label) : item.getLast? ≠ some c := by
  obtain ⟨before, d, same, _⟩ := ends.exists_blank
  have last := ends.fits.getLast?_ne foreign
  have filled : label.text ≠ [] := by
    obtain ⟨e, later, text, _⟩ := ends.fits.token.exists_cons
    simp [text]
  rw [same, List.append_cons, List.getLast?_append]
  cases read : label.text.getLast? with
  | none => exact absurd (List.getLast?_eq_none_iff.mp read) filled
  | some e => rwa [read] at last

end

theorem not_gives_computed {start name : List Char} : ¬Gives (start ++ [')']) name := by
  have closing : (start ++ [')']).getLast? = some ')' := List.getLast?_concat
  rintro (⟨label, ⟨expression, _, ends⟩, _⟩ | ⟨ident, refers, _⟩)
  · exact ends.getLast?_ne (by decide) closing
  · exact refers.getLast?_ne (by decide) closing

theorem Output.itemName?_eq {item : List Char} {name : Option (List Char)}
    (output : Output item name) (balanced : Balanced true item)
    (trimmed : Text.Stops Text.isBlank item.reverse) :
    itemName? item = name.map String.ofList := by
  cases output with
  | aliased aliased =>
      exact (itemName?_eq_some_iff balanced trimmed).mpr (Or.inl ⟨_, aliased, rfl⟩)
  | reference refers =>
      exact (itemName?_eq_some_iff balanced trimmed).mpr (Or.inr ⟨_, refers, rfl⟩)
  | computed =>
      cases read : itemName? _ with
      | none => rfl
      | some name =>
          rw [← String.ofList_toList (s := name), itemName?_eq_some_iff balanced trimmed] at read
          exact absurd read not_gives_computed

theorem filterMap_outputs {outputs : List (SelectItem × Option (List Char))}
    (gives : ∀ output ∈ outputs, Output output.1.body output.2) :
    ((outputs.map Prod.fst).filterMap fun item =>
        (itemName? item.body).map fun name => (⟨name, "", .unknown⟩ : Column)) =
      (outputs.filterMap Prod.snd).map viewColumn := by
  induction outputs with
  | nil => rfl
  | cons output outputs ih =>
      obtain ⟨item, name⟩ := output
      obtain ⟨here, later⟩ := List.forall_mem_cons.mp gives
      rw [List.map_cons, List.filterMap_cons, here.itemName?_eq item.balanced.allow item.ends,
        ih later]
      cases name <;> rfl

/-- A view has the name that is written for it, and its columns are what the items of its select
list give, in order and of each name the first. -/
theorem entityOf_view {head : ViewHead} {outputs : List (SelectItem × Option (List Char))}
    {text : List Char} (selects : Selects (outputs.map Prod.fst) text)
    (gives : ∀ output ∈ outputs, Output output.1.body output.2) (fallback : String) :
    entityOf (head.source text) fallback =
      .ok ⟨String.ofList head.name, .view,
        ((outputs.filterMap Prod.snd).map viewColumn).eraseDupsBy sameName⟩ := by
  rw [head.entityOf_eq, selects.viewColumns_eq, filterMap_outputs gives, distinct_eq,
    List.filter_eq_self.mpr (by simp)]

/-! A view with names that are hard to read, a call, and a column that is given twice. -/

theorem phrase_createOrReplace :
    Phrase ["create", "or", "replace"] "CREATE OR REPLACE ".toList := by
  have create : Spelled "create".toList "CREATE".toList := spelled_of_afterWord? (by decide)
  have or : Spelled "or".toList "OR".toList := spelled_of_afterWord? (by decide)
  have replace : Spelled "replace".toList "REPLACE".toList := spelled_of_afterWord? (by decide)
  have filled : " ".toList ≠ [] := by decide
  exact .cons create filled blank_space (.cons or filled blank_space
    (.cons replace filled blank_space .nil))

theorem spelled_view : Spelled "view".toList "VIEW".toList :=
  spelled_of_afterWord? (by decide)

theorem spelled_as : Spelled "as".toList "AS".toList :=
  spelled_of_afterWord? (by decide)

def selectView : ViewHead where
  replacing := ["or", "replace"]
  modifying := []
  phrase := "CREATE OR REPLACE ".toList
  view := "VIEW".toList
  before := " ".toList
  name := "days".toList
  gap := "\n".toList
  as := "AS".toList
  gap' := " ".toList
  select := "Select".toList
  replaces := .yes
  modifies := .no
  creates := phrase_createOrReplace
  spellsView := spelled_view
  spellsAs := spelled_as
  spellsSelect := by decide
  blanks := by decide
  filled := by decide
  word := by decide

theorem balanced_id : Balanced false "d.id".toList :=
  balanced_of_plain (by decide)

def selectId : SelectItem where
  before := " ".toList
  body := "d.id".toList
  after := []
  blank := blank_space
  blank' := blank_nil
  filled := by decide
  starts := by decide
  ends := by decide
  balanced := balanced_id
  unended := not_mentions_of_splitAtKeyword? keyword_from (by decide +kernel)

def yearText : List Char :=
  "extract(year from d.at)".toList

theorem balanced_yearText (commas : Bool) : Balanced commas yearText := by
  have parts : yearText = "extract".toList ++ '(' :: ("year from d.at".toList ++ ')' :: []) := by
    decide +kernel
  have word : ∀ c ∈ "extract".toList, Plain false c := by decide +kernel
  have inner : ∀ c ∈ "year from d.at".toList, Plain true c := by decide +kernel
  have balanced : Balanced false yearText := by
    rw [parts]
    exact (balanced_of_plain word).append (.group (balanced_of_plain inner) .nil)
  cases commas with
  | false => exact balanced
  | true => exact balanced.allow

/-- An alias with quotes, a comma and the word `as` in it. -/
def yearAlias : Ident.Part :=
  .quoted "as \"of\", id".toList

theorem fits_yearAlias : FitsSegment yearAlias :=
  .quoted (by decide)

def yearBody : List Char :=
  yearText ++ (" AS ".toList ++ yearAlias.text)

theorem balanced_yearBody : Balanced false yearBody :=
  (balanced_yearText false).append ((balanced_of_plain (by decide)).append fits_yearAlias.balanced)

def selectYear : SelectItem where
  before := "\n  ".toList
  body := yearBody
  after := " ".toList
  blank := by decide
  blank' := blank_space
  filled := by decide
  starts := by decide
  ends := by decide
  balanced := balanced_yearBody
  unended := not_mentions_of_splitAtKeyword? keyword_from (by decide)

theorem balanced_countText : Balanced false "count(*)".toList := by
  have parts : "count(*)".toList = "count".toList ++ '(' :: ("*".toList ++ ')' :: []) := by
    decide
  have word : ∀ c ∈ "count".toList, Plain false c := by decide
  have inner : ∀ c ∈ "*".toList, Plain true c := by decide
  rw [parts]
  exact (balanced_of_plain word).append (.group (balanced_of_plain inner) .nil)

def selectCount : SelectItem where
  before := " ".toList
  body := "count(*)".toList
  after := []
  blank := blank_space
  blank' := blank_nil
  filled := by decide
  starts := by decide
  ends := by decide
  balanced := balanced_countText
  unended := not_mentions_of_splitAtKeyword? keyword_from (by decide)

theorem aliased_selectYear : Aliased selectYear.body yearAlias := by
  have filled : " ".toList ≠ [] := by decide
  exact ⟨yearText, balanced_yearText true, fits_yearAlias, " ".toList, "AS ".toList, filled,
    blank_space, .cons spelled_as filled blank_space .nil, by decide +kernel⟩

theorem refers_selectId : Refers selectId.body ⟨[.bare "d".toList, .bare "id".toList]⟩ where
  written := by decide +kernel
  filled := by decide
  fits := by
    have run : ∀ text : List Char, text ≠ [] → (∀ c ∈ text, Text.isWord c || c == '$') →
        FitsSegment (.bare text) := fun _ => .bare
    simpa using ⟨run "d".toList (by decide) (by decide +kernel),
      run "id".toList (by decide) (by decide +kernel)⟩

theorem entityOf_view_days :
    entityOf ("CREATE OR REPLACE VIEW days\nAS Select DISTINCT d.id,\n  " ++
        "extract(year from d.at) AS \"as \"\"of\"\", id\" , count(*), d.id FROM days d") "other" =
      .ok ⟨"days", .view, [⟨"id", "", .unknown⟩, ⟨"as \"of\", id", "", .unknown⟩]⟩ := by
  let outputs : List (SelectItem × Option (List Char)) :=
    [(selectId, some "id".toList), (selectYear, some yearAlias.name), (selectCount, none),
      (selectId, some "id".toList)]
  have gives : ∀ output ∈ outputs, Output output.1.body output.2 := by
    have id : Output selectId.body (some "id".toList) := .reference refers_selectId
    have year : Output selectYear.body (some yearAlias.name) :=
      .aliased aliased_selectYear
    have count : Output selectCount.body none := @Output.computed "count(*".toList
    simpa [outputs] using ⟨id, year, count, id⟩
  have selects : Selects (outputs.map Prod.fst) (" DISTINCT".toList ++
      (listed (outputs.map Prod.fst) ++ ' ' :: ("FROM".toList ++ " days d".toList))) :=
    ⟨Text.stops_cons_iff.mpr (by decide), " DISTINCT".toList, _,
      @Quantifier.distinct _ " ".toList "DISTINCT".toList (by decide) (by decide) (by decide),
      .source (by decide) (by decide) (Text.stops_cons_iff.mpr (by decide)), rfl⟩
  have read := @entityOf_view selectView outputs _ selects gives "other"
  have columns : ((outputs.filterMap Prod.snd).map viewColumn).eraseDupsBy sameName =
      [⟨"id", "", .unknown⟩, ⟨"as \"of\", id", "", .unknown⟩] := by
    decide +kernel
  have written : selectView.source (" DISTINCT".toList ++
      (listed (outputs.map Prod.fst) ++ ' ' :: ("FROM".toList ++ " days d".toList))) =
        "CREATE OR REPLACE VIEW days\nAS Select DISTINCT d.id,\n  " ++
          "extract(year from d.at) AS \"as \"\"of\"\", id\" , count(*), d.id FROM days d" := by
    decide +kernel
  rw [columns, written] at read
  exact read

end SqlTemplate.Schema
