import SqlTemplate.Loading
import SqlTemplate.Proofs.Schema.Constraints

/-!
The type of a column beside its options. The words of a type are read up to the first that is the
word of an option. If white space does not set that word apart on both sides, it is not known for
one, and becomes a part of the type.
-/

namespace SqlTemplate.Schema

variable {σ ρ : Type}

/-- A column with a type of one or more words, in any layout. None of them but the first may be the
word of an option. -/
structure TypedColumn where
  before : List Char
  name : Ident.Part
  type : List Char
  blank : ∀ c ∈ before, Text.isBlank c
  fits : FitsToken name
  ends : Ends name type
  typed : ∃ c ∈ type, Text.isSolid c
  plain : ∀ word ∈ (Text.words type).tail, isOneOf optionWords word = false
  balanced : Balanced false type

/-- Options of a column: the word of one, in any case of its letters, and what follows it. -/
structure ColumnOptions where
  word : List Char
  rest : List Char
  among : isOneOf optionWords word
  ends : Text.Stops Text.isSolid rest ∨ ∃ inner, rest = '(' :: inner
  balanced : Balanced false rest

def ColumnOptions.text (options : ColumnOptions) : List Char :=
  options.word ++ options.rest

/-- White space shows where a type ends, or a parenthesis that it ends with does. -/
def TypedColumn.IsClosed (column : TypedColumn) : Prop :=
  ∃ start last, column.type = start ++ [last] ∧ (Text.isBlank last ∨ last = ')')

/-- White space stands before the first word of the options, and white space or nothing behind. -/
def ColumnOptions.Apart (options : ColumnOptions) (column : TypedColumn) : Prop :=
  (∃ start gap, column.type = start ++ [gap] ∧ Text.isBlank gap) ∧
    Text.Stops Text.isSolid options.rest

theorem find?_distinct {seen : List String} {columns : List Column} {name : String}
    (fresh : name ∉ seen) :
    (distinct seen columns).find? (fun column => column.name == name) =
      columns.find? fun column => column.name == name := by
  induction columns generalizing seen with
  | nil => rfl
  | cons column rest ih =>
      rw [distinct]
      by_cases known : column.name ∈ seen
      · have other : (column.name == name) = false := by
          rw [beq_eq_false_iff_ne]
          rintro rfl
          exact fresh known
        rw [if_pos (by simpa using known), ih fresh, List.find?_cons_of_neg (by simpa using other)]
      · rw [if_neg (by simpa using known)]
        by_cases same : column.name = name
        · rw [List.find?_cons_of_pos (by simpa using same),
            List.find?_cons_of_pos (by simpa using same)]
        · rw [List.find?_cons_of_neg (by simpa using same),
            List.find?_cons_of_neg (by simpa using same), ih]
          simp [fresh, Ne.symm same]

theorem find?_filterMap_columnOf? {earlier later : List Entry} {entry : Entry} {column : Column}
    (read : columnOf? (Text.trimLeft entry.text) = some column)
    (new : ∀ other ∈ earlier, ¬other.Gives column.name.toList) :
    ((earlier ++ entry :: later).filterMap fun entry => columnOf? (Text.trimLeft entry.text)).find?
      (fun found => found.name == column.name) = some column := by
  induction earlier with
  | nil =>
      rw [List.nil_append, List.filterMap_cons, read]
      exact List.find?_cons_of_pos (by simp)
  | cons other earlier ih =>
      obtain ⟨here, others⟩ := List.forall_mem_cons.mp new
      cases found : columnOf? (Text.trimLeft other.text) with
      | none =>
          rw [List.cons_append, List.filterMap_cons, found]
          exact ih others
      | some column' =>
          have different : column'.name ≠ column.name := by
            intro same
            exact here (other.exists_columnOf?_iff.mp ⟨column', found, by rw [same]⟩)
          rw [List.cons_append, List.filterMap_cons, found]
          exact (List.find?_cons_of_neg (by simpa using different)).trans (ih others)

theorem Ends.append {name : Ident.Part} {text : List Char} (ends : Ends name text)
    (filled : text ≠ []) (more : List Char) : Ends name (text ++ more) := by
  cases ends with
  | bare stops => exact .bare (stops.append_of_ne_nil filled more)
  | quoted noQuote =>
      obtain ⟨c, rest, rfl⟩ := List.exists_cons_of_ne_nil filled
      refine .quoted ?_
      intro after same
      rw [List.cons_append, List.cons.injEq] at same
      exact noQuote rest (by rw [same.1])

theorem spaced_inj {first second : List (List Char)} (filled : first ≠ []) (filled' : second ≠ [])
    (solid : ∀ word ∈ first, word ≠ [] ∧ ∀ c ∈ word, Text.isSolid c)
    (solid' : ∀ word ∈ second, word ≠ [] ∧ ∀ c ∈ word, Text.isSolid c)
    (same : spaced first = spaced second) : first = second := by
  have words := words_spaced filled solid Text.stops_nil
  have words' := words_spaced filled' solid' Text.stops_nil
  rw [same, words'] at words
  simpa using words.symm

theorem mem_of_mem_typeWords {words : List (List Char)} {word : List Char}
    (member : word ∈ typeWords words) : word ∈ words := by
  cases words with
  | nil => cases member
  | cons first rest =>
      rcases List.mem_cons.mp member with rfl | later
      · exact List.mem_cons_self
      · exact List.mem_cons_of_mem first ((List.takeWhile_sublist _).subset later)

theorem exists_typeWords {earlier more : List (List Char)} {token : List Char}
    (plain : ∀ word ∈ earlier.tail, isOneOf optionWords word = false)
    (unknown : isOneOf optionWords token = false) :
    ∃ later, typeWords (earlier ++ token :: more) = earlier ++ token :: later := by
  refine ⟨more.takeWhile fun word => !isOneOf optionWords word, ?_⟩
  cases earlier with
  | nil => rfl
  | cons first others =>
      rw [List.cons_append, typeWords, List.takeWhile_append_of_pos]
      · simp [unknown]
      · intro word member
        simp [plain word member]

namespace TypedColumn

def entry (column : TypedColumn) : Entry :=
  .column column.before column.name column.type column.blank column.fits column.ends
    column.balanced

theorem words_ne_nil (column : TypedColumn) : Text.words column.type ≠ [] :=
  Text.words_ne_nil_iff.mpr column.typed

theorem type_ne_nil (column : TypedColumn) : column.type ≠ [] := by
  obtain ⟨c, member, _⟩ := column.typed
  exact List.ne_nil_of_mem member

end TypedColumn

namespace ColumnOptions

variable (options : ColumnOptions) (column : TypedColumn)

theorem balanced_text : Balanced false options.text := by
  have letters := (isWord_of_isOneOf keyword_optionWords options.among).2
  exact (balanced_of_plain fun c member => plain_of_isWord (letters c member)).append
    options.balanced

def on : Entry :=
  .column column.before column.name (column.type ++ options.text) column.blank column.fits
    (column.ends.append column.type_ne_nil options.text)
    (column.balanced.append options.balanced_text)

variable {options column}

theorem words_behind_gap {start : List Char} {gap : Char} (type : column.type = start ++ [gap])
    (blank : Text.isBlank gap) :
    Text.words (column.type ++ options.text) =
      Text.words column.type ++ Text.words options.text := by
  have words : Text.words column.type = Text.words start := by
    rw [type, Text.words_append_blanks (by simpa using blank)]
  rw [words, type, List.append_assoc]
  exact Text.words_append_blank_cons start blank options.text

theorem typeWords_of_apart (apart : options.Apart column) :
    typeWords (Text.words (column.type ++ options.text)) = Text.words column.type := by
  obtain ⟨⟨start, gap, type, blank⟩, stops⟩ := apart
  obtain ⟨filled, letters⟩ := isWord_of_isOneOf keyword_optionWords options.among
  have read : Text.words options.text = options.word :: Text.words options.rest :=
    Text.words_append filled (fun c member => isSolid_of_isWord (letters c member)) stops
  rw [words_behind_gap type blank, read]
  exact typeWords_append column.words_ne_nil column.plain (Or.inr ⟨_, _, rfl, options.among⟩)

/-- The word of an option with a parenthesis behind it is read as a word of the type. -/
theorem typeWords_of_opened {start inner : List Char} {gap : Char}
    (type : column.type = start ++ [gap]) (blank : Text.isBlank gap)
    (opened : options.rest = '(' :: inner) :
    typeWords (Text.words (column.type ++ options.text)) ≠ Text.words column.type := by
  let token := options.word ++ '(' :: inner.takeWhile Text.isSolid
  have letters := (isWord_of_isOneOf keyword_optionWords options.among).2
  have solid : ∀ c ∈ token, Text.isSolid c := by
    intro c member
    rcases List.mem_append.mp member with inWord | behind
    · exact isSolid_of_isWord (letters c inWord)
    · rcases List.mem_cons.mp behind with rfl | inRun
      · decide
      · exact List.all_eq_true.mp List.all_takeWhile c inRun
  have text : options.text = token ++ inner.dropWhile Text.isSolid := by
    simp [ColumnOptions.text, opened, token, List.takeWhile_append_dropWhile]
  have unknown : isOneOf optionWords token = false :=
    not_isOneOf_of_mem keyword_optionWords (c := '(') (by simp [token]) (by decide)
  rw [words_behind_gap type blank, text,
    Text.words_append (by simp [token]) solid (Text.stops_dropWhile _ _)]
  obtain ⟨later, read⟩ := exists_typeWords column.plain unknown
  rw [read]
  intro same
  simpa using congrArg List.length same

/-- Without white space before it the word of an option makes the last word of the type longer. -/
theorem typeWords_of_joined {start : List Char} (type : column.type = start ++ [')']) :
    typeWords (Text.words (column.type ++ options.text)) ≠ Text.words column.type := by
  obtain ⟨before, last, earlier, split, closing, solid, words⟩ :=
    @Text.exists_last_word start ')' (by decide)
  have wordsType : Text.words column.type = earlier ++ [last] := by
    have one := Text.words_append (List.ne_nil_of_mem closing) solid Text.stops_nil
    rw [List.append_nil] at one
    rw [type, split, words, one]
    rfl
  have plain : ∀ word ∈ earlier.tail, isOneOf optionWords word = false := by
    intro word member
    apply column.plain
    rw [wordsType, List.tail_append_of_ne_nil (by rintro rfl; cases member)]
    exact List.mem_append_left _ member
  -- The first character of the options is one of a word.
  have run : options.text.takeWhile Text.isSolid ≠ [] := by
    obtain ⟨filled, letters⟩ := isWord_of_isOneOf keyword_optionWords options.among
    obtain ⟨c, after, first⟩ := List.exists_cons_of_ne_nil filled
    have inside : Text.isSolid c := isSolid_of_isWord (letters c (by simp [first]))
    simp [ColumnOptions.text, first, inside]
  let token := last ++ options.text.takeWhile Text.isSolid
  have solidToken : ∀ c ∈ token, Text.isSolid c := by
    intro c member
    rcases List.mem_append.mp member with inLast | inRun
    · exact solid c inLast
    · exact List.all_eq_true.mp List.all_takeWhile c inRun
  have text : last ++ options.text = token ++ options.text.dropWhile Text.isSolid := by
    simp [token, List.append_assoc, List.takeWhile_append_dropWhile]
  have unknown : isOneOf optionWords token = false :=
    not_isOneOf_of_mem keyword_optionWords (c := ')') (by simp [token, closing]) (by decide)
  obtain ⟨later, read⟩ := exists_typeWords plain unknown
  rw [wordsType, type, split, List.append_assoc, words, text,
    Text.words_append (by simp [token, run]) solidToken (Text.stops_dropWhile _ _), read]
  intro same
  simp [token, run] at same

theorem typeWords_eq_iff (closed : column.IsClosed) :
    typeWords (Text.words (column.type ++ options.text)) = Text.words column.type ↔
      options.Apart column := by
  refine ⟨?_, typeWords_of_apart⟩
  intro same
  obtain ⟨start, last, type, blank | rfl⟩ := closed
  · rcases options.ends with stops | ⟨inner, opened⟩
    · exact ⟨⟨start, last, type, blank⟩, stops⟩
    · exact absurd same (typeWords_of_opened type blank opened)
  · exact absurd same (typeWords_of_joined type)

end ColumnOptions

def columnOf (name : Ident.Part) (type : List (List Char)) : Column :=
  ⟨String.ofList name.name, String.ofList (spaced type), .ofSqlType (spaced type)⟩

theorem columnOf?_named {name : Ident.Part} {rest : List Char} (fits : FitsToken name)
    (ends : Ends name rest) (typed : ∃ c ∈ rest, Text.isSolid c)
    (named : isOneOf constraintWords name.text = false) :
    columnOf? (name.text ++ rest) = some (columnOf name (typeWords (Text.words rest))) := by
  have filled : typeWords (Text.words rest) ≠ [] :=
    fun empty => Text.words_ne_nil_iff.mpr typed (typeWords_eq_nil_iff.mp empty)
  obtain ⟨first, later, words⟩ := List.exists_cons_of_ne_nil filled
  rw [columnOf?, splitName?_text fits ends]
  simp only [Option.bind_eq_bind, Option.bind_some, columnNamed?, named, Bool.false_eq_true,
    if_false, words, unquote_text fits]
  rfl

theorem columnOf?_constraintWord {name : Ident.Part} {rest : List Char} (fits : FitsToken name)
    (ends : Ends name rest) (among : isOneOf constraintWords name.text) :
    columnOf? (name.text ++ rest) = none := by
  simp only [columnOf?, splitName?_text fits ends, Option.bind_eq_bind, Option.bind_some,
    columnNamed?, among, if_true]

namespace ColumnOptions

variable {options : ColumnOptions} {column : TypedColumn}

theorem columnOf?_on (named : isOneOf constraintWords column.name.text = false) :
    columnOf? (Text.trimLeft (options.on column).text) =
      some (columnOf column.name (typeWords (Text.words (column.type ++ options.text)))) := by
  obtain ⟨c, member, solid⟩ := column.typed
  rw [Entry.trimLeft_text]
  exact columnOf?_named column.fits (column.ends.append column.type_ne_nil options.text)
    ⟨c, List.mem_append_left _ member, solid⟩ named

theorem columnOf?_entry (named : isOneOf constraintWords column.name.text = false) :
    columnOf? (Text.trimLeft column.entry.text) =
      some (columnOf column.name (Text.words column.type)) := by
  have words := typeWords_append column.words_ne_nil column.plain (Or.inl rfl)
  rw [List.append_nil] at words
  rw [Entry.trimLeft_text]
  exact words ▸ columnOf?_named column.fits column.ends column.typed named

theorem columnOf?_of_apart (apart : options.Apart column) :
    columnOf? (Text.trimLeft (options.on column).text) =
      columnOf? (Text.trimLeft column.entry.text) := by
  cases named : isOneOf constraintWords column.name.text with
  | false => rw [columnOf?_on named, columnOf?_entry named, typeWords_of_apart apart]
  | true =>
      have ends := column.ends.append column.type_ne_nil options.text
      rw [Entry.trimLeft_text, Entry.trimLeft_text]
      exact (columnOf?_constraintWord column.fits ends named).trans
        (columnOf?_constraintWord column.fits column.ends named).symm

theorem sqlType_on_iff (closed : column.IsClosed) :
    (columnOf column.name (typeWords (Text.words (column.type ++ options.text)))).sqlType =
        String.ofList (Text.unwords column.type) ↔ options.Apart column := by
  rw [← typeWords_eq_iff closed, columnOf, String.ofList_inj]
  constructor
  · intro same
    have filled : typeWords (Text.words (column.type ++ options.text)) ≠ [] := by
      obtain ⟨c, member, solid⟩ := column.typed
      intro empty
      exact Text.words_ne_nil_iff.mpr ⟨c, List.mem_append_left _ member, solid⟩
        (typeWords_eq_nil_iff.mp empty)
    exact spaced_inj filled column.words_ne_nil
      (fun word member => Text.solid_of_mem_words (mem_of_mem_typeWords member))
      (fun word member => Text.solid_of_mem_words member) same
  · intro same
    rw [same]
    rfl

end ColumnOptions

def Creation.around (creation : Creation) (lead : List Char) (earlier later : List Entry)
    (rest : List Char) (entry : Entry) : String :=
  creation.source lead (earlier ++ entry :: later) rest

/-- Options that white space sets apart from a type do not change what is read, be it the table or
its model. The SQL type of a column is the type as it is written, but with single spaces, just when
its options stand apart. -/
theorem types_apart_from_options {creation : Creation} {earlier later : List Entry}
    {column : TypedColumn} {options : ColumnOptions} {lead rest : List Char}
    (closed : column.IsClosed)
    (leads : Leads lead (creation.statement (earlier ++ column.entry :: later) rest))
    (leads' : Leads lead (creation.statement (earlier ++ options.on column :: later) rest))
    (fallback : String) :
    let table := creation.around lead earlier later rest
    (options.Apart column →
      entityOf (table (options.on column)) fallback = entityOf (table column.entry) fallback ∧
        ∀ database : Database σ ρ,
          database.modelOfSchema (table (options.on column)) fallback =
            database.modelOfSchema (table column.entry) fallback) ∧
    (fallback ≠ "" → ∃ entity, entityOf (table (options.on column)) fallback = .ok entity) ∧
    ∀ entity, entityOf (table (options.on column)) fallback = .ok entity →
      isOneOf constraintWords column.name.text = false →
      (∀ entry ∈ earlier, ¬entry.Gives column.name.name) →
      ∃ found, entity.column? (String.ofList column.name.name) = some found ∧
        found.type = .ofSqlType found.sqlType.toList ∧
        (found.sqlType = String.ofList (Text.unwords column.type) ↔ options.Apart column) := by
  simp only [Creation.around]
  refine ⟨?_, leads'.exists_entityOf, ?_⟩
  · intro apart
    have same : entityOf
          (creation.source lead (earlier ++ options.on column :: later) rest) fallback =
        entityOf (creation.source lead (earlier ++ column.entry :: later) rest) fallback := by
      rw [leads.entityOf_eq, leads'.entityOf_eq]
      simp only [List.filterMap_append, List.filterMap_cons,
        ColumnOptions.columnOf?_of_apart apart]
    exact ⟨same, fun database => by rw [Database.modelOfSchema, Database.modelOfSchema, same]⟩
  · intro entity read named new
    rw [leads'.entityOf_eq] at read
    split at read
    next => cases read
    next =>
      cases read
      refine ⟨_, ?_, ?_, ColumnOptions.sqlType_on_iff closed⟩
      · refine (find?_distinct List.not_mem_nil).trans (find?_filterMap_columnOf?
          (@ColumnOptions.columnOf?_on options column named) ?_)
        intro entry member
        simpa [columnOf] using new entry member
      · simp [columnOf]

/-! A type of four words, with white space before and behind, and a default. -/

theorem balanced_dueType : Balanced false " timestamp(3) with  time zone ".toList := by
  have parts : " timestamp(3) with  time zone ".toList =
      " timestamp".toList ++ '(' :: (['3'] ++ ')' :: " with  time zone ".toList) := by
    decide +kernel
  have name : ∀ c ∈ " timestamp".toList, Plain false c := by decide
  have digits : ∀ c ∈ ['3'], Plain true c := by decide
  have words : ∀ c ∈ " with  time zone ".toList, Plain false c := by decide
  rw [parts]
  exact (balanced_of_plain name).append
    (.group (balanced_of_plain digits) (balanced_of_plain words))

theorem balanced_dueDefault : Balanced false " now()".toList := by
  have parts : " now()".toList = " now".toList ++ '(' :: ([] ++ ')' :: []) := by decide
  have name : ∀ c ∈ " now".toList, Plain false c := by decide
  rw [parts]
  exact (balanced_of_plain name).append (.group .nil .nil)

def dueColumn : TypedColumn where
  before := " ".toList
  name := .quoted "due at".toList
  type := " timestamp(3) with  time zone ".toList
  blank := blank_space
  fits := .quoted
  ends := .quoted (by simp)
  typed := ⟨'t', by decide, by decide⟩
  plain := by decide +kernel
  balanced := balanced_dueType

def dueOptions : ColumnOptions where
  word := "Default".toList
  rest := " now()".toList
  among := by decide +kernel
  ends := Or.inl (by decide)
  balanced := balanced_dueDefault

theorem types_apart_from_options_due :
    dueColumn.IsClosed ∧ dueOptions.Apart dueColumn ∧
      ∃ entity, entityOf
          "CREATE TABLE t ( \"due at\" timestamp(3) with  time zone Default now())" "t" =
          .ok entity ∧
        ∃ found, entity.column? "due at" = some found ∧
          found.sqlType = "timestamp(3) with time zone" ∧ found.type = .date := by
  have gap : ∃ start gap, dueColumn.type = start ++ [gap] ∧ Text.isBlank gap :=
    ⟨" timestamp(3) with  time zone".toList, ' ', by decide, by decide⟩
  have apart : dueOptions.Apart dueColumn := ⟨gap, Text.stops_cons_iff.mpr (by decide)⟩
  have closed : dueColumn.IsClosed := by
    obtain ⟨start, gap, type, blank⟩ := gap
    exact ⟨start, gap, type, Or.inl blank⟩
  obtain ⟨_, reads, types⟩ := @types_apart_from_options Unit Unit checkedTable [] [] dueColumn
    dueOptions [] [] closed (leads_nil _) (leads_nil _) "t"
  obtain ⟨entity, read⟩ := reads (by decide)
  obtain ⟨found, first, type, written⟩ := types entity read (by decide) (by simp)
  have sqlType : found.sqlType = "timestamp(3) with time zone" :=
    (written.mpr apart).trans (by decide)
  refine ⟨closed, apart, entity, read, found, first, sqlType, ?_⟩
  rw [type, sqlType]
  decide +kernel

/-- The words of a check without white space before its parenthesis are read as words of the type,
and no value is checked for it any more. -/
theorem check_read_as_type :
    (entityOf "CREATE TABLE t (a int)" "").toOption =
        some ⟨"t", .table, [⟨"a", "int", .integer⟩]⟩ ∧
      (entityOf "CREATE TABLE t (a int CHECK(a > 0))" "").toOption =
        some ⟨"t", .table, [⟨"a", "int CHECK(a > 0)", .unknown⟩]⟩ ∧
      (Assignment.read ⟨"t", .table, [⟨"a", "int", .integer⟩]⟩ ("a", .text "x")).toOption.isNone ∧
      (Assignment.read ⟨"t", .table, [⟨"a", "int CHECK(a > 0)", .unknown⟩]⟩
        ("a", .text "x")).toOption.isSome := by
  refine ⟨?_, ?_, ?_, ?_⟩ <;> decide +kernel

end SqlTemplate.Schema
