import SqlTemplate.Proofs.Schema.Rendering

/-!
What becomes a column of a table, in whatever layout its body is written. A constraint is known by
its first token. If a parenthesis follows its word at once and white space comes later, that token
is longer than the word, and the constraint is read as a column.
-/

namespace SqlTemplate.Schema

/-- A definition in the body of a table: the name of a column and all that follows it, or the word
that starts a constraint with white space or a parenthesis behind it. -/
inductive Entry
  | column (before : List Char) (name : Ident.Part) (rest : List Char)
      (blank : ∀ c ∈ before, Text.isBlank c) (fits : FitsToken name) (ends : Ends name rest)
      (balanced : Balanced false rest)
  | constraint (before word rest : List Char) (blank : ∀ c ∈ before, Text.isBlank c)
      (among : isOneOf constraintWords word)
      (ends : Text.Stops Text.isSolid rest ∨ ∃ inner, rest = '(' :: inner)
      (balanced : Balanced false rest)

namespace Entry

def text : Entry → List Char
  | column before name rest .. => before ++ (name.text ++ rest)
  | constraint before word rest .. => before ++ (word ++ rest)

def Names : Entry → List Char → Prop
  | column _ name .., spelled => name.name = spelled
  | constraint .., _ => False

/-- A constraint whose word a parenthesis follows at once. White space tears a token off it that is
longer than the word, and more text follows. -/
def TornAt : Entry → List Char → Prop
  | column .., _ => False
  | constraint _ word rest .., token => (∃ inner, rest = '(' :: inner) ∧
      ∃ gap after, word ++ rest = token ++ gap :: after ∧ (∀ c ∈ token, Text.isSolid c) ∧
        Text.isBlank gap ∧ ∃ c ∈ after, Text.isSolid c

/-- A definition is read as a column of some name: a column with a type whose name starts no
constraint, or a constraint that is torn. -/
def Gives : Entry → List Char → Prop
  | column _ name rest .., spelled => name.name = spelled ∧
      isOneOf constraintWords name.text = false ∧ ∃ c ∈ rest, Text.isSolid c
  | entry, spelled => entry.TornAt spelled

end Entry

def joined : List Entry → List Char
  | [] => []
  | [entry] => entry.text
  | entry :: entries => entry.text ++ ',' :: joined entries

/-- The words that create a table, and what stands between them and its body: its name, if it has
one, and any words before the name. -/
structure Creation where
  replacing : List String
  modifying : List String
  phrase : List Char
  table : List Char
  named : List Char
  replaces : Replacing replacing
  modifies : Modifying modifying
  creates : Phrase ("create" :: (replacing ++ modifying)) phrase
  spells : Spelled "table".toList table
  stops : Text.Stops Text.isWord named
  unopened : '(' ∉ named

def Creation.statement (creation : Creation) (entries : List Entry) (rest : List Char) :
    List Char :=
  creation.phrase ++ (creation.table ++ (creation.named ++ '(' :: (joined entries ++ ')' :: rest)))

def Creation.name (creation : Creation) : List Char :=
  (readName (skipExists creation.named)).1

def Creation.nameOr (creation : Creation) (fallback : String) : String :=
  if creation.name.isEmpty then fallback else String.ofList creation.name

def Creation.source (creation : Creation) (lead : List Char) (entries : List Entry)
    (rest : List Char) : String :=
  String.ofList (lead ++ creation.statement entries rest)

/-- Nothing is defined in a text before a statement. -/
structure Leads (lead statement : List Char) : Prop where
  outside : endsInWord false lead = false
  idle : ∀ before later, lead = before ++ later → later ≠ [] → endsInWord false before = false →
    ¬Defines (later ++ statement)

theorem leads_nil (statement : List Char) : Leads [] statement := by
  refine ⟨rfl, ?_⟩
  intro before later same filled
  exact absurd (List.append_eq_nil_iff.mp same.symm).2 filled

@[simp]
theorem typeWords_eq_nil_iff {words : List (List Char)} : typeWords words = [] ↔ words = [] := by
  cases words <;> simp [typeWords]

theorem exists_columnOf?_iff {text token rest name : List Char}
    (split : splitName? text = some (token, rest)) :
    (∃ column, columnOf? text = some column ∧ column.name.toList = name) ↔
      Ident.unquote token = name ∧ isOneOf constraintWords token = false ∧
        ∃ c ∈ rest, Text.isSolid c := by
  rw [columnOf?, split, ← Text.words_ne_nil_iff, ne_eq, ← typeWords_eq_nil_iff]
  simp only [Option.bind_eq_bind, Option.bind_some, columnNamed?]
  cases among : isOneOf constraintWords token with
  | true => simp
  | false =>
      cases typeWords (Text.words rest) with
      | nil => simp
      | cons first later => simp

section

variable {word : List Char} (among : isOneOf constraintWords word)

include among in
theorem exists_cons_constraint :
    ∃ c later, word = c :: later ∧ Text.isSolid c ∧ c ≠ '"' := by
  obtain ⟨filled, letters⟩ := isWord_of_isOneOf keyword_constraintWords among
  obtain ⟨c, later, rfl⟩ := List.exists_cons_of_ne_nil filled
  refine ⟨c, later, rfl, isSolid_of_isWord (letters c List.mem_cons_self), ?_⟩
  rintro rfl
  exact absurd (letters '"' List.mem_cons_self) (by decide)

include among in
/-- The first token of a constraint reaches up to the first white space. -/
theorem splitName?_constraint (rest : List Char) :
    splitName? (word ++ rest) =
      some ((word ++ rest).takeWhile Text.isSolid, (word ++ rest).dropWhile Text.isSolid) := by
  obtain ⟨c, later, rfl, _, noQuote⟩ := exists_cons_constraint among
  apply splitName?_unquoted
  intro after same
  rw [List.cons_append, List.cons.injEq] at same
  exact noQuote same.1

include among in
theorem unquote_constraint (rest : List Char) :
    Ident.unquote ((word ++ rest).takeWhile Text.isSolid) =
      (word ++ rest).takeWhile Text.isSolid := by
  obtain ⟨c, later, rfl, solid, noQuote⟩ := exists_cons_constraint among
  rw [List.cons_append, List.takeWhile_cons_of_pos solid]
  exact unquote_cons noQuote _

include among in
theorem not_isOneOf_opened (inner : List Char) :
    isOneOf constraintWords ((word ++ '(' :: inner).takeWhile Text.isSolid) = false := by
  have letters := (isWord_of_isOneOf keyword_constraintWords among).2
  apply not_isOneOf_of_mem keyword_constraintWords (c := '(') _ (by decide)
  rw [List.takeWhile_append_of_pos fun c member => isSolid_of_isWord (letters c member),
    List.takeWhile_cons_of_pos (by decide)]
  simp

end

theorem takeWhile_isSolid_iff {text token : List Char} :
    text.takeWhile Text.isSolid = token ∧ (∃ c ∈ text.dropWhile Text.isSolid, Text.isSolid c) ↔
      ∃ gap after, text = token ++ gap :: after ∧ (∀ c ∈ token, Text.isSolid c) ∧
        Text.isBlank gap ∧ ∃ c ∈ after, Text.isSolid c := by
  constructor
  · rintro ⟨rfl, c, member, solid⟩
    have stops := Text.stops_dropWhile Text.isSolid text
    have parts := List.takeWhile_append_dropWhile (p := Text.isSolid) (l := text)
    generalize text.dropWhile Text.isSolid = rest at member stops parts
    cases rest with
    | nil => cases member
    | cons gap after =>
        have outside := Text.stops_cons_iff.mp stops
        refine ⟨gap, after, parts.symm, ?_, by simpa [Text.isSolid] using outside, c, ?_, solid⟩
        · exact fun c member => List.all_eq_true.mp List.all_takeWhile c member
        · rcases List.mem_cons.mp member with rfl | later
          · rw [outside] at solid
            contradiction
          · exact later
  · rintro ⟨gap, after, rfl, inside, blank, c, member, solid⟩
    have stops : Text.Stops Text.isSolid (gap :: after) :=
      Text.stops_cons_iff.mpr (by simpa [Text.isSolid] using blank)
    refine ⟨Text.takeWhile_append_of_stops inside stops, c, ?_, solid⟩
    rw [Text.dropWhile_append_of_stops inside stops]
    exact List.mem_cons_of_mem gap member

theorem Entry.trimLeft_text {entry : Entry} :
    Text.trimLeft entry.text = match entry with
      | .column _ name rest .. => name.text ++ rest
      | .constraint _ word rest .. => word ++ rest := by
  cases entry with
  | column before name rest blank fits ends balanced =>
      refine Text.trimLeft_blanks_append blank ?_
      obtain ⟨c, later, same, solid⟩ := fits.exists_cons
      rw [same]
      exact Text.stops_cons_iff.mpr solid
  | constraint before word rest blank among ends balanced =>
      refine Text.trimLeft_blanks_append blank ?_
      obtain ⟨c, later, rfl, solid, _⟩ := exists_cons_constraint among
      exact Text.stops_cons_iff.mpr (by simpa [Text.isSolid] using solid)

theorem Entry.exists_columnOf?_iff (entry : Entry) {name : List Char} :
    (∃ column, columnOf? (Text.trimLeft entry.text) = some column ∧ column.name.toList = name) ↔
      entry.Gives name := by
  rw [Entry.trimLeft_text]
  cases entry with
  | column before part rest blank fits ends balanced =>
      rw [Schema.exists_columnOf?_iff (splitName?_text fits ends), unquote_text fits]
      rfl
  | constraint before word rest blank among ends balanced =>
      rw [Schema.exists_columnOf?_iff (splitName?_constraint among rest),
        unquote_constraint among rest]
      rcases ends with stops | ⟨inner, rfl⟩
      · -- The first token is the word, and no parenthesis follows it.
        have letters := (isWord_of_isOneOf keyword_constraintWords among).2
        rw [Text.takeWhile_append_of_stops
          (fun c member => isSolid_of_isWord (letters c member)) stops, among]
        refine iff_of_false (fun read => nomatch read.2.1) ?_
        rintro ⟨⟨inner, rfl⟩, _⟩
        exact absurd (Text.stops_cons_iff.mp stops) (by decide)
      · rw [not_isOneOf_opened among inner]
        simp only [Entry.Gives, Entry.TornAt, ← takeWhile_isSolid_iff]
        simp

theorem plain_of_isWord {commas : Bool} {c : Char} (word : Text.isWord c) : Plain commas c :=
  plain_of_class word (by decide)

theorem Entry.balanced (entry : Entry) : Balanced false entry.text := by
  cases entry with
  | column before name rest blank fits ends balanced =>
      exact (balanced_of_blanks blank).append (balanced_name fits balanced)
  | constraint before word rest blank among ends balanced =>
      have letters := (isWord_of_isOneOf keyword_constraintWords among).2
      refine (balanced_of_blanks blank).append ((balanced_of_plain ?_).append balanced)
      exact fun c member => plain_of_isWord (letters c member)

theorem balanced_joined (entries : List Entry) : Balanced true (joined entries) := by
  fun_induction joined entries with
  | case1 => exact .nil
  | case2 entry => exact entry.balanced.allow
  | case3 entry entries _ ih =>
      have comma : Plain true ',' :=
        ⟨by decide, by decide, by decide, by decide, fun _ => rfl⟩
      exact entry.balanced.allow.append (.plain comma ih)

theorem filterMap_joined (entries : List Entry) :
    (items (joined entries)).filterMap columnOf? =
      entries.filterMap fun entry => columnOf? (Text.trimLeft entry.text) := by
  rw [filterMap_items]
  fun_induction joined entries with
  | case1 => rfl
  | case2 entry =>
      rw [entry.balanced.pieces_last]
      rfl
  | case3 entry entries _ ih =>
      rw [entry.balanced.pieces_comma, List.filterMap_cons, ih, List.filterMap_cons]

theorem exists_named_iff {columns : List Column} {name : List Char} :
    (∃ column ∈ columns, column.name.toList = name) ↔
      String.ofList name ∈ columns.map Column.name := by
  simp [String.ext_iff]

theorem mem_names_distinct_iff {seen : List String} {columns : List Column} {name : String} :
    name ∈ (distinct seen columns).map Column.name ↔
      name ∉ seen ∧ name ∈ columns.map Column.name := by
  induction columns generalizing seen with
  | nil => simp [distinct]
  | cons column columns ih =>
      rw [distinct]
      by_cases known : column.name ∈ seen
      · rw [if_pos (by simpa using known), ih, List.map_cons, List.mem_cons]
        constructor
        · rintro ⟨fresh, member⟩
          exact ⟨fresh, Or.inr member⟩
        · rintro ⟨fresh, rfl | member⟩
          · exact absurd known fresh
          · exact ⟨fresh, member⟩
      · rw [if_neg (by simpa using known), List.map_cons, List.mem_cons, ih, List.map_cons,
          List.mem_cons, List.mem_cons, not_or]
        constructor
        · rintro (rfl | ⟨⟨_, fresh⟩, member⟩)
          · exact ⟨known, Or.inl rfl⟩
          · exact ⟨fresh, Or.inr member⟩
        · rintro ⟨fresh, member⟩
          by_cases here : name = column.name
          · exact Or.inl here
          · exact Or.inr ⟨⟨here, fresh⟩, member.resolve_left here⟩

theorem unopened_of_blanks {blanks : List Char} (blank : ∀ c ∈ blanks, Text.isBlank c) :
    '(' ∉ blanks :=
  fun member => absurd (blank _ member) (by decide)

theorem Spelled.unopened {word : String} {spelled : List Char}
    (spells : Spelled word.toList spelled) (keyword : Keyword word) : '(' ∉ spelled :=
  fun member => absurd (spells.isWord keyword.2 _ member) (by decide)

theorem body?_of_afterBlanks? {text rest : List Char} (read : afterBlanks? text = some rest) :
    body? rest = body? text := by
  obtain ⟨blanks, _, blank, rfl, _⟩ := afterBlanks?_eq_some_iff.mp read
  exact (body?_skip (unopened_of_blanks blank) rest).symm

theorem body?_of_afterWord? {word : String} (keyword : Keyword word) {text rest : List Char}
    (read : afterWord? word.toList text = some rest) : body? rest = body? text := by
  obtain ⟨spelled, rfl, spells⟩ := afterWord?_eq_some_iff.mp read
  exact (body?_skip (spells.unopened keyword) rest).symm

theorem body?_of_afterWordAndBlanks? {word : String} (keyword : Keyword word)
    {text rest : List Char} (read : afterWordAndBlanks? word text = some rest) :
    body? rest = body? text := by
  obtain ⟨after, first, second⟩ := Option.bind_eq_some_iff.mp read
  exact (body?_of_afterBlanks? second).trans (body?_of_afterWord? keyword first)

@[simp] theorem body?_skipExists (text : List Char) : body? (skipExists text) = body? text := by
  rw [skipExists]
  cases read : (((afterBlanks? text).bind (afterWordAndBlanks? "if")).bind
      (afterWordAndBlanks? "not")).bind (afterWord? "exists".toList) with
  | none => rfl
  | some rest =>
      obtain ⟨third, read, last⟩ := Option.bind_eq_some_iff.mp read
      obtain ⟨second, read, beforeLast⟩ := Option.bind_eq_some_iff.mp read
      obtain ⟨first, blanks, next⟩ := Option.bind_eq_some_iff.mp read
      calc body? rest
          _ = body? third := body?_of_afterWord? (by decide) last
          _ = body? second := body?_of_afterWordAndBlanks? (by decide +kernel) beforeLast
          _ = body? first := body?_of_afterWordAndBlanks? (by decide) next
          _ = body? text := body?_of_afterBlanks? blanks

@[simp] theorem body?_readName (text : List Char) : body? (readName text).2 = body? text := by
  unfold readName
  split
  next => rfl
  next rest read =>
    dsimp only
    split
    next => rfl
    next =>
      have unopened : '(' ∉ rest.takeWhile isNameChar := fun member =>
        absurd (List.all_eq_true.mp List.all_takeWhile _ member) (by decide)
      have skip := body?_skip unopened (rest.dropWhile isNameChar)
      rw [List.takeWhile_append_dropWhile] at skip
      rw [← skip, body?_of_afterBlanks? read]

theorem readHead?_statement (creation : Creation) (entries : List Entry) (rest : List Char) :
    ∃ head, readHead? (creation.statement entries rest) = some head ∧ head.kind = .table ∧
      head.name = creation.name ∧ body? head.rest = some (joined entries) := by
  let body := '(' :: (joined entries ++ ')' :: rest)
  have stopsWords : Text.Stops Text.isWord body := Text.stops_cons_iff.mpr (by decide)
  have stopsBlanks : Text.Stops Text.isBlank body := Text.stops_cons_iff.mpr (by decide)
  have stopsNames : Text.Stops isNameChar body := Text.stops_cons_iff.mpr (by decide)
  have stops : Text.Stops Text.isWord (creation.named ++ body) := creation.stops.append stopsWords
  refine ⟨_, readHead?_phrase creation.replaces creation.modifies creation.creates
    (Or.inl ⟨creation.table, creation.named ++ body, rfl, creation.spells, stops⟩)
    (readKind?_table creation.spells stops), rfl, ?_, ?_⟩
  · change (readName (skipExists (creation.named ++ body))).1 = creation.name
    rw [skipExists_append stopsWords stopsBlanks, readName_append stopsNames stopsBlanks,
      Creation.name]
  · rw [body?_readName, body?_skipExists]
    exact body?_balanced (balanced_joined entries) creation.unopened rest

theorem findHead?_append {inWord : Bool} {lead statement : List Char}
    (idle : ∀ before later, lead = before ++ later → later ≠ [] →
      endsInWord inWord before = false → ¬Defines (later ++ statement)) :
    findHead? inWord (lead ++ statement) = findHead? (endsInWord inWord lead) statement := by
  induction lead generalizing inWord with
  | nil => rfl
  | cons c lead ih =>
      -- Inside a word nothing is read, and where a word may begin nothing is defined.
      have none : (if inWord then none else readHead? (c :: (lead ++ statement))) = none := by
        cases inWord with
        | true => rfl
        | false =>
            have undefined := idle [] (c :: lead) rfl (List.cons_ne_nil c lead) rfl
            rw [← exists_readHead?_iff_defines] at undefined
            exact Option.eq_none_iff_forall_ne_some.mpr fun head found => undefined ⟨head, found⟩
      rw [List.cons_append, findHead?, none, endsInWord]
      apply ih
      intro before later same filled outside
      exact idle (c :: before) later (by rw [same, List.cons_append]) filled outside

section

variable {creation : Creation} {entries : List Entry} {lead rest : List Char}
  (leads : Leads lead (creation.statement entries rest))

include leads in
theorem Leads.findHead?_eq :
    ∃ head, findHead? false (lead ++ creation.statement entries rest) = some head ∧
      head.kind = .table ∧ head.name = creation.name ∧
      tableColumns head.rest = distinct [] ((items (joined entries)).filterMap columnOf?) := by
  obtain ⟨head, read, kind, named, body⟩ := readHead?_statement creation entries rest
  refine ⟨head, ?_, kind, named, by rw [tableColumns, body]⟩
  rw [findHead?_append leads.idle, leads.outside]
  exact findHead?_of_readHead? read

include leads in
theorem Leads.entityOf_eq (fallback : String) :
    entityOf (creation.source lead entries rest) fallback =
      if (creation.nameOr fallback).isEmpty then .error .noName
      else .ok ⟨creation.nameOr fallback, .table,
        distinct [] (entries.filterMap fun entry => columnOf? (Text.trimLeft entry.text))⟩ := by
  obtain ⟨head, found, kind, named, columns⟩ := leads.findHead?_eq
  rw [entityOf, Creation.source, String.toList_ofList, found]
  simp only [kind, named, columns, filterMap_joined, Creation.nameOr]
  rfl

theorem Creation.nameOr_ne_empty {creation : Creation} {fallback : String}
    (filled : fallback ≠ "") : creation.nameOr fallback ≠ "" := by
  rw [nameOr]
  split
  next => exact filled
  next named => simpa using named

include leads in
theorem Leads.exists_entityOf {fallback : String} (filled : fallback ≠ "") :
    ∃ entity, entityOf (creation.source lead entries rest) fallback = .ok entity := by
  have read := leads.entityOf_eq fallback
  rw [if_neg (by simpa using Creation.nameOr_ne_empty filled)] at read
  exact ⟨_, read⟩

include leads in
theorem Leads.exists_column_iff {fallback : String} {entity : Entity}
    (read : entityOf (creation.source lead entries rest) fallback = .ok entity) {name : List Char} :
    (∃ column ∈ entity.columns, column.name.toList = name) ↔
      ∃ entry ∈ entries, entry.Gives name := by
  rw [leads.entityOf_eq fallback] at read
  split at read
  next => cases read
  next =>
    cases read
    rw [exists_named_iff, mem_names_distinct_iff, ← exists_named_iff]
    simp only [List.not_mem_nil, not_false_eq_true, true_and, List.mem_filterMap,
      ← Entry.exists_columnOf?_iff]
    constructor
    · rintro ⟨column, ⟨entry, member, found⟩, spelled⟩
      exact ⟨entry, member, column, found, spelled⟩
    · rintro ⟨entry, member, column, found, spelled⟩
      exact ⟨column, ⟨entry, member, found⟩, spelled⟩

end

theorem Entry.names_or_tornAt {entry : Entry} {name : List Char} (gives : entry.Gives name) :
    entry.Names name ∨ entry.TornAt name := by
  cases entry with
  | column => exact Or.inl gives.1
  | constraint => exact Or.inr gives

theorem Entry.gives_of_tornAt {entry : Entry} {token : List Char} (torn : entry.TornAt token) :
    entry.Gives token := by
  cases entry with
  | column => cases torn
  | constraint => exact torn

/-- The columns of a table are those that its body defines with a type, and its torn constraints.
So no constraint adds a name to those of the columns just when none is torn, unless a column has
the token it is torn at for its name. -/
theorem entityOf_entries {creation : Creation} {entries : List Entry} {lead rest : List Char}
    (leads : Leads lead (creation.statement entries rest)) :
    (∀ fallback, fallback ≠ "" →
      ∃ entity, entityOf (creation.source lead entries rest) fallback = .ok entity) ∧
    ∀ fallback entity, entityOf (creation.source lead entries rest) fallback = .ok entity →
      (∀ name, (∃ column ∈ entity.columns, column.name.toList = name) ↔
        ∃ entry ∈ entries, entry.Gives name) ∧
      ((∀ column ∈ entity.columns, ∃ entry ∈ entries, entry.Names column.name.toList) ↔
        ∀ entry ∈ entries, ∀ token, entry.TornAt token →
          ∃ other ∈ entries, other.Names token) := by
  refine ⟨fun fallback filled => leads.exists_entityOf filled, ?_⟩
  intro fallback entity read
  refine ⟨fun name => leads.exists_column_iff read, ?_⟩
  constructor
  · intro named entry member token torn
    obtain ⟨column, inEntity, rfl⟩ :=
      (leads.exists_column_iff read).mpr ⟨entry, member, Entry.gives_of_tornAt torn⟩
    exact named column inEntity
  · intro known column inEntity
    obtain ⟨entry, member, gives⟩ := (leads.exists_column_iff read).mp ⟨column, inEntity, rfl⟩
    rcases Entry.names_or_tornAt gives with names | torn
    · exact ⟨entry, member, names⟩
    · exact known entry member _ torn

/-! A table with a check that is torn. -/

theorem spelled_of_afterWord? {word text : List Char} (read : afterWord? word text = some []) :
    Spelled word text := by
  obtain ⟨spelled, same, spells⟩ := afterWord?_eq_some_iff.mp read
  rw [same, List.append_nil]
  exact spells

theorem blank_nil : ∀ c ∈ [], Text.isBlank c :=
  List.forall_mem_nil _

theorem blank_space : ∀ c ∈ " ".toList, Text.isBlank c := by
  decide

def checked : List Entry :=
  [.column [] (.bare "a".toList) " int".toList (by simp)
      (.bare (by decide) (by decide +kernel)) (.bare (Text.stops_cons_iff.mpr (by decide)))
      (balanced_of_plain (by decide)),
    .constraint " ".toList "CHECK".toList "(a > 0)".toList (by decide) (by decide +kernel)
      (Or.inr ⟨"a > 0)".toList, rfl⟩)
      (.group (balanced_of_plain (show ∀ c ∈ "a > 0".toList, Plain true c by decide)) .nil)]

def checkedTable : Creation where
  replacing := []
  modifying := []
  phrase := "CREATE ".toList
  table := "TABLE".toList
  named := " t ".toList
  replaces := .no
  modifies := .no
  creates := .cons (spelled_of_afterWord? (show afterWord? _ "CREATE".toList = some [] by decide))
    (List.cons_ne_nil _ _) (show ∀ c ∈ " ".toList, Text.isBlank c by decide) .nil
  spells := spelled_of_afterWord? (by decide)
  stops := Text.stops_cons_iff.mpr (by decide)
  unopened := by decide

theorem tornAt_checked : ∃ entry ∈ checked, entry.TornAt "CHECK(a".toList :=
  ⟨_, List.mem_cons_of_mem _ List.mem_cons_self, ⟨"a > 0)".toList, rfl⟩, ' ', "> 0)".toList,
    by decide, by decide, by decide, '0', by decide, by decide⟩

theorem unnamed_checked : ∀ entry ∈ checked, ¬entry.Names "CHECK(a".toList := by
  simp [checked, Entry.Names, Ident.Part.name]

theorem entityOf_entries_checked :
    Leads [] (checkedTable.statement checked []) ∧
      ∃ entity, entityOf (checkedTable.source [] checked []) "t" = .ok entity ∧
        (∃ column ∈ entity.columns, column.name.toList = "CHECK(a".toList) ∧
          ¬∀ column ∈ entity.columns, ∃ entry ∈ checked, entry.Names column.name.toList := by
  obtain ⟨reads, columns⟩ := entityOf_entries (leads_nil (checkedTable.statement checked []))
  obtain ⟨entity, found⟩ := reads "t" (by decide)
  obtain ⟨names, known⟩ := columns "t" entity found
  obtain ⟨entry, member, torn⟩ := tornAt_checked
  refine ⟨leads_nil _, entity, found, (names _).mpr ⟨entry, member, ?_⟩, ?_⟩
  · exact Entry.gives_of_tornAt torn
  · intro named
    obtain ⟨other, among, other'⟩ := known.mp named entry member _ torn
    exact unnamed_checked other among other'

/-- The words of a check are read as the name and the type of a column. -/
theorem check_read_as_column :
    (entityOf "CREATE TABLE t (a int, CHECK(a > 0))" "t").toOption =
      some ⟨"t", .table, [⟨"a", "int", .integer⟩, ⟨"CHECK(a", "> 0)", .unknown⟩]⟩ := by
  decide +kernel

end SqlTemplate.Schema
