import SqlTemplate.Proofs.Text.Lowercase
import SqlTemplate.Proofs.Text.Spacing
import SqlTemplate.Schema.ColumnType

/-!
The kind of a SQL type does not depend on the spelling of the type: the case of its letters, the
white space around its words, and modifiers in parentheses behind them. Normalizing a type gives it
one spelling, and leaves that one as it is.
-/

namespace SqlTemplate.ColumnType

theorem dropGroup?_append {before : List Char} (unopened : '(' ∉ before) (text : List Char) :
    dropGroup? (before ++ text) = (dropGroup? text).map (before ++ ·) := by
  have taken : (before ++ text).takeWhile (· != '(') = before ++ text.takeWhile (· != '(') := by
    apply List.takeWhile_append_of_pos
    intro c member
    rw [bne_iff_ne]
    rintro rfl
    exact unopened member
  rw [dropGroup?, dropGroup?, Text.dropWhile_ne_append unopened, taken]
  split
  · rfl
  · split <;> simp

theorem dropGroups_of_none {text : List Char} (none : dropGroup? text = none) :
    dropGroups text = text := by
  rw [dropGroups]
  split
  next found => rw [none] at found; contradiction
  next => rfl

theorem dropGroups_of_some {text rest : List Char} (some : dropGroup? text = some rest) :
    dropGroups text = dropGroups rest := by
  rw [dropGroups]
  split
  next found => rw [Option.some.inj (some.symm.trans found)]
  next found => rw [some] at found; contradiction

theorem dropGroups_append {before : List Char} (unopened : '(' ∉ before) (text : List Char) :
    dropGroups (before ++ text) = before ++ dropGroups text := by
  have dropped := dropGroup?_append unopened text
  fun_induction dropGroups text with
  | case1 text rest found ih =>
      rw [found] at dropped
      rw [dropGroups_of_some dropped]
      exact ih (dropGroup?_append unopened rest)
  | case2 text none =>
      rw [none] at dropped
      exact dropGroups_of_none dropped

theorem dropGroups_plain {text : List Char} (unopened : '(' ∉ text) : dropGroups text = text := by
  have empty : dropGroups [] = [] := dropGroups_of_none rfl
  have whole := dropGroups_append unopened []
  rwa [List.append_nil, empty, List.append_nil] at whole

theorem dropGroups_open {before after : List Char} (unopened : '(' ∉ before)
    (unclosed : ')' ∉ after) :
    dropGroups (before ++ '(' :: after) = before ++ '(' :: after := by
  rw [dropGroups_append unopened, dropGroups_of_none]
  have inside : ')' ∉ '(' :: after := by simpa using unclosed
  have closing := Text.dropWhile_ne_append inside []
  rw [List.append_nil, List.dropWhile_nil] at closing
  rw [dropGroup?, List.dropWhile_cons_of_neg (by decide)]
  simp only [closing]

theorem dropGroups_group {before inner : List Char} (unopened : '(' ∉ before)
    (unclosed : ')' ∉ inner) (after : List Char) :
    dropGroups (before ++ '(' :: (inner ++ ')' :: after)) = before ++ dropGroups after := by
  have inside : ')' ∉ '(' :: inner := by simpa using unclosed
  have closing := Text.dropWhile_ne_append inside (')' :: after)
  rw [List.dropWhile_cons_of_neg (by decide), List.cons_append] at closing
  have dropped : dropGroup? ('(' :: (inner ++ ')' :: after)) = some after := by
    rw [dropGroup?, List.dropWhile_cons_of_neg (by decide)]
    simp only [closing]
    simp
  rw [dropGroups_append unopened, dropGroups_of_some dropped]

/-- A text and what is left of it without its groups. A group ends at the first closing parenthesis,
whatever is open in it, and an opening parenthesis without a closing one stays. -/
inductive Grouped : List Char → List Char → Prop
  | plain {text : List Char} : '(' ∉ text → Grouped text text
  | unclosed {before after : List Char} : '(' ∉ before → ')' ∉ after →
      Grouped (before ++ '(' :: after) (before ++ '(' :: after)
  | group {before inner after left : List Char} : '(' ∉ before → ')' ∉ inner →
      Grouped after left → Grouped (before ++ '(' :: (inner ++ ')' :: after)) (before ++ left)

theorem Grouped.eq {text left : List Char} (grouped : Grouped text left) :
    dropGroups text = left := by
  induction grouped with
  | plain unopened => exact dropGroups_plain unopened
  | unclosed unopened unclosed => exact dropGroups_open unopened unclosed
  | group unopened unclosed _ ih => rw [dropGroups_group unopened unclosed, ih]

theorem exists_grouped {text other : List Char} (respaced : Text.Respaced text other) :
    ∃ left left', Grouped text left ∧ Grouped other left' ∧ Text.Respaced left left' := by
  have solidOpening : Text.isBlank '(' = false := by decide
  have solidClosing : Text.isBlank ')' = false := by decide
  generalize size : text.length = count
  induction count using Nat.strongRecOn generalizing text other with
  | ind count ih =>
      rcases respaced.split solidOpening with ⟨unopened, unopened'⟩ |
        ⟨before, rest, before', rest', rfl, rfl, unopened, unopened', start, more⟩
      · exact ⟨text, other, .plain unopened, .plain unopened', respaced⟩
      rcases more.split solidClosing with ⟨unclosed, unclosed'⟩ |
        ⟨inner, after, inner', after', rfl, rfl, unclosed, unclosed', _, behind⟩
      · exact ⟨_, _, .unclosed unopened unclosed, .unclosed unopened' unclosed', respaced⟩
      · have shorter : after.length < count := by
          simp only [List.length_append, List.length_cons] at size
          omega
        obtain ⟨left, left', grouped, grouped', same⟩ := ih after.length shorter behind rfl
        exact ⟨before ++ left, before' ++ left', .group unopened unclosed grouped,
          .group unopened' unclosed' grouped', start.append same⟩

theorem dropGroups_respaced {text other : List Char} (respaced : Text.Respaced text other) :
    Text.Respaced (dropGroups text) (dropGroups other) := by
  obtain ⟨left, left', grouped, grouped', same⟩ := exists_grouped respaced
  rwa [grouped.eq, grouped'.eq]

theorem grouped_dropGroups (text : List Char) : Grouped text (dropGroups text) := by
  obtain ⟨left, _, grouped, _, _⟩ := exists_grouped (.refl text)
  rwa [grouped.eq]

theorem mem_of_mem_dropGroups {text : List Char} {c : Char} (member : c ∈ dropGroups text) :
    c ∈ text := by
  have grouped := grouped_dropGroups text
  generalize dropGroups text = left at grouped member
  induction grouped with
  | plain => exact member
  | unclosed => exact member
  | group _ _ _ ih =>
      rw [List.mem_append] at member
      rcases member with before | behind
      · simp [before]
      · simp [ih behind]

def Ungrouped (text : List Char) : Prop :=
  ¬['(', ')'].Sublist text

theorem sublist_of_append {before text : List Char} (unopened : '(' ∉ before)
    (pair : ['(', ')'].Sublist (before ++ text)) : ['(', ')'].Sublist text := by
  induction before with
  | nil => exact pair
  | cons c before ih =>
      rw [List.mem_cons, not_or] at unopened
      cases pair with
      | cons _ rest => exact ih unopened.2 rest
      | cons_cons => exact absurd rfl unopened.1

theorem ungrouped_dropGroups (text : List Char) : Ungrouped (dropGroups text) := by
  have grouped := grouped_dropGroups text
  generalize dropGroups text = left at grouped
  induction grouped with
  | plain unopened => exact fun pair => unopened (pair.subset (by simp))
  | unclosed unopened unclosed =>
      intro pair
      cases sublist_of_append unopened pair with
      | cons _ rest => exact unclosed (rest.subset (by simp))
      | cons_cons _ rest => exact unclosed (rest.subset (by simp))
  | group unopened _ _ ih => exact fun pair => ih (sublist_of_append unopened pair)

theorem dropGroups_of_ungrouped {text : List Char} (ungrouped : Ungrouped text) :
    dropGroups text = text := by
  have grouped := grouped_dropGroups text
  generalize dropGroups text = left at grouped
  cases grouped with
  | plain => rfl
  | unclosed => rfl
  | @group before inner after left _ _ _ =>
      refine absurd ?_ ungrouped
      have closing : [')'].Sublist (inner ++ ')' :: after) := List.singleton_sublist.mpr (by simp)
      exact (closing.cons_cons '(').trans (List.sublist_append_right before _)

theorem Ungrouped.unwords {text : List Char} (ungrouped : Ungrouped text) :
    Ungrouped (Text.unwords text) := by
  intro pair
  have solid := pair.filter Text.isSolid
  rw [Text.filter_unwords] at solid
  exact ungrouped (solid.trans List.filter_sublist)

theorem Grouped.append {text left more : List Char} (grouped : Grouped text left)
    (unopened : '(' ∉ more) (unclosed : ')' ∉ more) : Grouped (text ++ more) (left ++ more) := by
  induction grouped with
  | plain unopened' => exact .plain (by simp [unopened', unopened])
  | unclosed unopened' unclosed' =>
      rw [List.append_assoc, List.cons_append]
      exact .unclosed unopened' (by simp [unclosed', unclosed])
  | group unopened' unclosed' _ ih =>
      rw [List.append_assoc, List.cons_append, List.append_assoc, List.cons_append,
        List.append_assoc]
      exact .group unopened' unclosed' ih

theorem dropGroups_append_right {more : List Char} (unopened : '(' ∉ more) (unclosed : ')' ∉ more)
    (text : List Char) : dropGroups (text ++ more) = dropGroups text ++ more :=
  ((grouped_dropGroups text).append unopened unclosed).eq

inductive Closed : List Char → Prop
  | plain {text : List Char} : '(' ∉ text → Closed text
  | group {before inner after : List Char} : '(' ∉ before → ')' ∉ inner → Closed after →
      Closed (before ++ '(' :: (inner ++ ')' :: after))

theorem Closed.dropGroups_append {before : List Char} (closed : Closed before) (text : List Char) :
    dropGroups (before ++ text) = dropGroups before ++ dropGroups text := by
  induction closed with
  | plain unopened => rw [ColumnType.dropGroups_append unopened, dropGroups_plain unopened]
  | group unopened unclosed _ ih =>
      rw [List.append_assoc, List.cons_append, List.append_assoc, List.cons_append,
        dropGroups_group unopened unclosed, dropGroups_group unopened unclosed, ih,
        List.append_assoc]

theorem isFence_opening : Text.isFence '(' := by decide +kernel

theorem isFence_closing : Text.isFence ')' := by decide +kernel

theorem Closed.lowercase {text : List Char} (closed : Closed text) :
    Closed (Text.lowercase text) := by
  induction closed with
  | plain unopened => exact .plain (Text.not_mem_lowercase (Or.inl rfl) unopened)
  | group unopened unclosed _ ih =>
      rw [Text.lowercase_fence isFence_opening, Text.lowercase_fence isFence_closing]
      exact .group (Text.not_mem_lowercase (Or.inl rfl) unopened)
        (Text.not_mem_lowercase (Or.inr rfl) unclosed) ih

/-- A type in lower case, with single spaces, without groups and long synonyms. -/
structure Normal (type : List Char) : Prop where
  low : Text.lowercase type = type
  ungrouped : Ungrouped type
  spaced : Text.unwords type = type
  folded : foldSynonym type = type

theorem unopened_of_blanks {blanks : List Char} (blank : ∀ c ∈ blanks, Text.isBlank c) :
    '(' ∉ blanks :=
  fun member => Text.ne_of_isBlank (blank _ member) (by decide) rfl

theorem unclosed_of_blanks {blanks : List Char} (blank : ∀ c ∈ blanks, Text.isBlank c) :
    ')' ∉ blanks :=
  fun member => Text.ne_of_isBlank (blank _ member) (by decide) rfl

def typeWords (text : List Char) : List (List Char) :=
  Text.words (dropGroups (Text.lowercase text))

theorem typeWords_padded {blanks blanks' : List Char} (blank : ∀ c ∈ blanks, Text.isBlank c)
    (blank' : ∀ c ∈ blanks', Text.isBlank c) (text : List Char) :
    typeWords (blanks ++ (text ++ blanks')) = typeWords text := by
  rw [typeWords, Text.lowercase_blanks_append blank, dropGroups_append (unopened_of_blanks blank),
    Text.words_blanks_append blank, Text.lowercase_append_blanks blank',
    dropGroups_append_right (unopened_of_blanks blank') (unclosed_of_blanks blank'),
    Text.words_append_blanks blank', typeWords]

def typeText (text : List Char) : List Char :=
  ((typeWords text).intersperse [' ']).flatten

theorem normalize_eq (text : List Char) : normalize text = foldSynonym (typeText text) := by
  obtain ⟨blanks, blanks', blank, blank', same⟩ := Text.exists_trim_append text
  have words := typeWords_padded blank blank' (Text.trim text)
  rw [← same] at words
  rw [normalize, Text.unwords, ← typeWords, typeText, words]

theorem ungrouped_typeText (text : List Char) : Ungrouped (typeText text) :=
  (ungrouped_dropGroups _).unwords

@[simp]
theorem unwords_typeText (text : List Char) : Text.unwords (typeText text) = typeText text :=
  Text.unwords_unwords _

@[simp]
theorem lowercase_typeText (text : List Char) : Text.lowercase (typeText text) = typeText text := by
  apply Text.lowercase_eq_self
  intro c member
  rcases Text.mem_unwords member with rfl | inside
  · exact Text.low_of_isFence (Text.isFence_of_isBlank (by decide))
  · exact Text.low_of_mem_lowercase (mem_of_mem_dropGroups inside)

theorem normal_of_known {name : String} (known : ∃ entry ∈ names, name ∈ entry.2) :
    Normal name.toList := by
  have low : ∀ entry ∈ names, ∀ name ∈ entry.2,
      Text.lowercase name.toList = name.toList := by decide +kernel
  have unopened : ∀ entry ∈ names, ∀ name ∈ entry.2, '(' ∉ name.toList := by decide +kernel
  have spaced : ∀ entry ∈ names, ∀ name ∈ entry.2,
      Text.unwords name.toList = name.toList := by decide +kernel
  have folded : ∀ entry ∈ names, ∀ name ∈ entry.2,
      foldSynonym name.toList = name.toList := by decide +kernel
  obtain ⟨entry, among, member⟩ := known
  exact ⟨low entry among name member,
    fun pair => unopened entry among name member (pair.subset List.mem_cons_self),
    spaced entry among name member, folded entry among name member⟩

theorem normal_foldSynonym {type : List Char} (low : Text.lowercase type = type)
    (ungrouped : Ungrouped type) (spaced : Text.unwords type = type) :
    Normal (foldSynonym type) := by
  unfold foldSynonym
  split
  next => exact normal_of_known (by decide)
  next varying =>
    split
    next => exact normal_of_known (by decide)
    next zoned => exact ⟨low, ungrouped, spaced, by rw [foldSynonym, if_neg varying, if_neg zoned]⟩

theorem normal_normalize (text : List Char) : Normal (normalize text) := by
  rw [normalize_eq]
  exact normal_foldSynonym (lowercase_typeText text) (ungrouped_typeText text)
    (unwords_typeText text)

theorem Normal.normalize_eq {type : List Char} (normal : Normal type) : normalize type = type := by
  rw [ColumnType.normalize_eq, typeText, typeWords, normal.low,
    dropGroups_of_ungrouped normal.ungrouped, ← Text.unwords, normal.spaced, normal.folded]

theorem ofSqlType_known {kind : ColumnType} {name : String}
    (known : ∃ entry ∈ names, entry.1 = kind ∧ name ∈ entry.2) : ofSqlType name.toList = kind := by
  have listed : ∀ entry ∈ names, ∀ name ∈ entry.2, ofName name.toList = entry.1 := by
    decide +kernel
  obtain ⟨entry, among, rfl, member⟩ := known
  rw [ofSqlType, (normal_of_known ⟨entry, among, member⟩).normalize_eq]
  exact listed entry among name member

/-- A type in another spelling: with other cases of its ASCII letters, other runs of white space,
white space around it, or one more modifier in parentheses, in front of white space or at the
end. -/
inductive Respelled : List Char → List Char → Prop
  | recased {text other : List Char} : text.map Char.toLower = other.map Char.toLower →
      Respelled text other
  | respaced {text other : List Char} : Text.Respaced text other → Respelled text other
  | padded {blanks blanks' text : List Char} : (∀ c ∈ blanks, Text.isBlank c) →
      (∀ c ∈ blanks', Text.isBlank c) → Respelled text (blanks ++ (text ++ blanks'))
  | modified {before space modifier after : List Char} : Closed before →
      (∀ c ∈ space, Text.isBlank c) → ')' ∉ modifier → Text.Stops Text.isSolid after →
      Respelled (before ++ after) (before ++ (space ++ '(' :: (modifier ++ ')' :: after)))
  | trans {text middle other : List Char} : Respelled text middle → Respelled middle other →
      Respelled text other

theorem stops_dropGroups_lowercase {text : List Char} (stops : Text.Stops Text.isSolid text) :
    Text.Stops Text.isSolid (dropGroups (Text.lowercase text)) := by
  cases text with
  | nil =>
      rw [Text.lowercase_blanks (List.forall_mem_nil _), dropGroups_plain List.not_mem_nil]
      exact stops
  | cons c text =>
      have blank : Text.isBlank c := by simpa [Text.isSolid] using Text.stops_cons_iff.mp stops
      have gap : ∀ d ∈ [c], Text.isBlank d := by simpa using blank
      have apart := Text.lowercase_blanks_append gap text
      rw [List.singleton_append] at apart
      rw [apart, dropGroups_append (unopened_of_blanks gap)]
      exact Text.stops_cons_iff.mpr (Text.stops_cons_iff.mp stops)

theorem typeWords_modified {before space modifier after : List Char} (closed : Closed before)
    (blank : ∀ c ∈ space, Text.isBlank c) (unclosed : ')' ∉ modifier)
    (behind : Text.Stops Text.isSolid after) :
    typeWords (before ++ (space ++ '(' :: (modifier ++ ')' :: after))) =
      typeWords (before ++ after) := by
  have gap : Text.Stops (fun c => !Text.isFence c) space := Text.stops_unfenced_of_blanks blank
  have opening : Text.Stops (fun c => !Text.isFence c) ('(' :: (modifier ++ ')' :: after)) :=
    Text.stops_cons_iff.mpr (by rw [isFence_opening, Bool.not_true])
  have group := Text.lowercase_fence isFence_opening [] (modifier ++ ')' :: after)
  rw [List.nil_append, Text.lowercase_fence isFence_closing] at group
  have unclosedLow := Text.not_mem_lowercase (Or.inr rfl) unclosed
  rw [typeWords, typeWords, Text.lowercase_append (gap.append opening),
    Text.lowercase_append (Text.stops_unfenced behind), closed.lowercase.dropGroups_append,
    closed.lowercase.dropGroups_append, Text.lowercase_blanks_append blank, group]
  have dropped := dropGroups_group (unopened_of_blanks blank) unclosedLow (Text.lowercase after)
  rw [← Text.words_append_gap blank (stops_dropGroups_lowercase behind), ← dropped]
  rfl

theorem Respelled.typeWords_eq {text other : List Char} (respelled : Respelled text other) :
    typeWords other = typeWords text := by
  induction respelled with
  | recased same => rw [typeWords, typeWords, Text.lowercase_congr same]
  | respaced respaced => exact (dropGroups_respaced respaced.lowercase).words_eq.symm
  | padded blank blank' => exact typeWords_padded blank blank' _
  | modified closed blank unclosed behind =>
      exact typeWords_modified closed blank unclosed behind
  | trans _ _ ih ih' => rw [ih', ih]

theorem Respelled.normalize_eq {text other : List Char} (respelled : Respelled text other) :
    normalize other = normalize text := by
  rw [ColumnType.normalize_eq, ColumnType.normalize_eq, typeText, typeText, respelled.typeWords_eq]

/-- Normalizing is done once and for all, and neither the normal form nor the kind of a type sees
how the type is spelled. -/
theorem kind_of_every_spelling :
    (∀ text, normalize (normalize text) = normalize text ∧
      ofSqlType (normalize text) = ofSqlType text) ∧
    ∀ text other, Respelled text other →
      normalize other = normalize text ∧ ofSqlType other = ofSqlType text := by
  constructor
  · intro text
    have again := (normal_normalize text).normalize_eq
    exact ⟨again, by rw [ofSqlType, again, ofSqlType]⟩
  · intro text other respelled
    have same := respelled.normalize_eq
    exact ⟨same, by rw [ofSqlType, same, ofSqlType]⟩

theorem kind_of_every_spelling_zoneless :
    Respelled "timestamp without time zone".toList
        " TimeStamp (3)\twithout time ZONE\n".toList ∧
      ofSqlType " TimeStamp (3)\twithout time ZONE\n".toList = .date := by
  have recased : Respelled "timestamp without time zone".toList
      "TimeStamp without time ZONE".toList := .recased (by decide +kernel)
  have respaced : Respelled ("TimeStamp".toList ++ ([' '] ++ "without time ZONE".toList))
      ("TimeStamp".toList ++ (['\t'] ++ "without time ZONE".toList)) :=
    .respaced ((Text.Respaced.refl _).append
      (.run (by decide) (by decide) (by decide) (by decide) (.refl _)))
  have modified : Respelled ("TimeStamp".toList ++ "\twithout time ZONE".toList)
      ("TimeStamp".toList ++ ([' '] ++ '(' :: (['3'] ++ ')' :: "\twithout time ZONE".toList))) :=
    .modified (.plain (by decide +kernel)) (by decide) (by decide) (by decide +kernel)
  have padded : Respelled "TimeStamp (3)\twithout time ZONE".toList
      ([' '] ++ ("TimeStamp (3)\twithout time ZONE".toList ++ ['\n'])) :=
    .padded (by decide) (by decide)
  have spelled : Respelled "timestamp without time zone".toList
      " TimeStamp (3)\twithout time ZONE\n".toList :=
    recased.trans (respaced.trans (modified.trans padded))
  have known : ofSqlType "timestamp without time zone".toList = .date :=
    ofSqlType_known (by decide)
  exact ⟨spelled, (kind_of_every_spelling.2 _ _ spelled).2.trans known⟩

end SqlTemplate.ColumnType
