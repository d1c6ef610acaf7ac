import SqlTemplate.Proofs.Model.Ids
import SqlTemplate.Proofs.Schema.Constraints

/-!
The name of a table beside the identifier that is written for it. The name ends at the first
character that is not one of names, and between quotes there may be others. What is read of such an
identifier has a quote that never closes, so no model is made of it.
-/

namespace SqlTemplate

variable {σ ρ : Type}

namespace Ident

theorem splitParts?_double (name : List Char) : splitParts? true (double name) = none := by
  induction name with
  | nil => rfl
  | cons c rest ih =>
      by_cases quote : c = '"' <;> simp [double, quote, splitParts?, ih]

theorem takeWhile_double {p : Char → Bool} (quotes : p '"') {name : List Char}
    (cut : ∃ c ∈ name, p c = false) (rest : List Char) :
    (double name ++ rest).takeWhile p = double (name.takeWhile p) := by
  induction name with
  | nil => simp at cut
  | cons c name ih =>
      by_cases quote : c = '"'
      · subst quote
        have later : ∃ c ∈ name, p c = false := by simpa [quotes] using cut
        simp [double, quotes, ih later]
      · by_cases inside : p c
        · have later : ∃ c ∈ name, p c = false := by simpa [inside] using cut
          simp [double, quote, inside, ih later]
        · simp [double, quote, inside]

variable {p : Char → Bool} (bare : ∀ c, Text.isBareLater c → p c) (quotes : p '"') (dots : p '.')

include bare quotes in
theorem unclosed_part {part : Part} (wellFormed : part.WellFormed)
    (cut : ∃ c ∈ part.text, p c = false) (rest : List Char) :
    splitParts? false ((part.text ++ rest).takeWhile p) = none := by
  cases part with
  | bare name =>
      obtain ⟨c, member, outside⟩ := cut
      have inside : Text.isBareLater c := by
        cases name with
        | nil => cases member
        | cons first later =>
            obtain ⟨start, inLater⟩ := bareWord_cons_iff.mp wellFormed
            rcases List.mem_cons.mp member with rfl | behind
            · exact Text.isBareLater_of_isBareStart start
            · exact List.all_eq_true.mp inLater c behind
      rw [bare c inside] at outside
      contradiction
  | quoted name =>
      have cutName : ∃ c ∈ name, p c = false := by
        obtain ⟨c, member, outside⟩ := cut
        refine ⟨c, ?_, outside⟩
        simp only [Part.text, List.mem_cons, List.mem_append, mem_double_iff, List.not_mem_nil,
          or_false] at member
        rcases member with rfl | inName | rfl
        · rw [quotes] at outside
          contradiction
        · exact inName
        · rw [quotes] at outside
          contradiction
      have read : (Part.text (.quoted name) ++ rest).takeWhile p =
          '"' :: double (name.takeWhile p) := by
        rw [Part.text, List.cons_append, List.append_assoc, List.takeWhile_cons_of_pos quotes,
          takeWhile_double quotes cutName]
      rw [read]
      simp [splitParts?, splitParts?_double]

include bare quotes dots in
theorem unclosed_textOf {part : Part} {parts : List Part}
    (wellFormed : ∀ other ∈ part :: parts, other.WellFormed)
    (cut : ∃ c ∈ textOf (part :: parts), p c = false) :
    splitParts? false ((textOf (part :: parts)).takeWhile p) = none := by
  induction parts generalizing part with
  | nil =>
      have here := wellFormed part List.mem_cons_self
      simpa [textOf] using unclosed_part bare quotes here (by simpa [textOf] using cut) []
  | cons next rest ih =>
      obtain ⟨here, later⟩ := List.forall_mem_cons.mp wellFormed
      have text : textOf (part :: next :: rest) = part.text ++ '.' :: textOf (next :: rest) := rfl
      by_cases inside : ∀ c ∈ part.text, p c
      · -- The first part is read whole, and so is the dot behind it.
        have cutLater : ∃ c ∈ textOf (next :: rest), p c = false := by
          obtain ⟨c, member, outside⟩ := cut
          rw [text, List.mem_append, List.mem_cons] at member
          rcases member with first | rfl | behind
          · rw [inside c first] at outside
            contradiction
          · rw [dots] at outside
            contradiction
          · exact ⟨c, behind, outside⟩
        rw [text, List.takeWhile_append_of_pos inside, List.takeWhile_cons_of_pos dots,
          splitParts?_append_dot (splitParts?_text here), ih later cutLater]
        rfl
      · rw [text]
        refine unclosed_part bare quotes here ?_ _
        simpa using inside

include bare quotes dots in
/-- An identifier is all in a class, or what is cut off it has an open quote. -/
theorem all_or_unclosed {text : List Char} {ident : Ident} (accepted : read text = .ok ident) :
    (∀ c ∈ text, p c) ∨ splitParts? false (text.takeWhile p) = none := by
  obtain ⟨rfl, filled, wellFormed⟩ := read_eq_ok_iff.mp accepted
  obtain ⟨part, parts, same⟩ := List.exists_cons_of_ne_nil filled
  rw [Ident.text, same]
  by_cases inside : ∀ c ∈ textOf (part :: parts), p c
  · exact Or.inl inside
  · exact Or.inr (unclosed_textOf bare quotes dots (same ▸ wellFormed) (by simpa using inside))

theorem read_of_unclosed {text : List Char} (filled : text ≠ []) (noNul : '\x00' ∉ text)
    (unclosed : splitParts? false text = none) : read text = .error .unclosedQuote := by
  rw [read, if_neg (by simpa using filled), if_neg (by simpa using noNul), unclosed]

end Ident

namespace Schema

theorem isNameChar_of_isBareLater {c : Char} (bare : Text.isBareLater c) : isNameChar c := by
  rw [Text.isBareLater, Bool.or_eq_true, beq_iff_eq] at bare
  rcases bare with word | rfl
  · exact isNameChar_of_isWord (Text.isWord_of_isAsciiWord word)
  · decide

section

variable {name : List Char} {ident : Ident} (accepted : Ident.read name = .ok ident)

include accepted in
theorem named_or_unclosed :
    (∀ c ∈ name, isNameChar c) ∨ Ident.splitParts? false (name.takeWhile isNameChar) = none :=
  Ident.all_or_unclosed (fun _ => isNameChar_of_isBareLater) (by decide) (by decide) accepted

include accepted in
theorem exists_cons_of_accepted : ∃ c rest, name = c :: rest ∧ isNameChar c := by
  obtain ⟨c, rest, rfl⟩ := List.exists_cons_of_ne_nil (Ident.ne_nil_of_read accepted)
  refine ⟨c, rest, rfl, ?_⟩
  rcases named_or_unclosed accepted with inside | unclosed
  · exact inside c List.mem_cons_self
  · cases inside : isNameChar c with
    | true => rfl
    | false =>
        -- Nothing is cut off, and nothing has no open quote.
        rw [List.takeWhile_cons_of_neg (by simp [inside])] at unclosed
        cases unclosed

include accepted in
theorem stops_isBlank_of_accepted (more : List Char) :
    Text.Stops Text.isBlank (name ++ more) := by
  obtain ⟨c, rest, rfl, inside⟩ := exists_cons_of_accepted accepted
  rw [List.cons_append, Text.stops_cons_iff]
  cases blank : Text.isBlank c with
  | false => rfl
  | true =>
      rw [isNameChar_of_isBlank blank] at inside
      contradiction

include accepted in
/-- A table may be called `if`, but no `not` follows. -/
theorem skipExists_accepted {gap gap' : List Char} (filled : gap ≠ [])
    (blank : ∀ c ∈ gap, Text.isBlank c) (blank' : ∀ c ∈ gap', Text.isBlank c) :
    skipExists (gap ++ (name ++ gap')) = gap ++ (name ++ gap') := by
  apply skipExists_eq_self filled blank (stops_isBlank_of_accepted accepted gap')
  intro after read
  obtain ⟨phrase, whole, same, stops⟩ := afterWordAndBlanks?_eq_some_iff.mp read
  cases whole with
  | @cons _ _ spelled blanks _ spells filledBlanks inside nothing =>
      cases nothing
      rw [List.append_nil, List.append_assoc] at same
      have word : ∀ c ∈ spelled, Text.isWord c := spells.isWord (by decide)
      have run : name.takeWhile isNameChar = spelled := by
        have stopsBlanks : Text.Stops isNameChar (blanks ++ after) :=
          (stops_isNameChar_of_blanks inside).append_of_ne_nil filledBlanks after
        rw [← (stops_isNameChar_of_blanks blank').takeWhile_append, same,
          Text.takeWhile_append_of_stops (fun c member => isNameChar_of_isWord (word c member))
            stopsBlanks]
      rcases named_or_unclosed accepted with all | unclosed
      · rw [Text.takeWhile_eq_self all] at run
        rw [run, List.append_cancel_left_eq] at same
        have nothing : after = [] := by
          cases after with
          | nil => rfl
          | cons c later =>
              have here := blank' c (by simp [same])
              rw [Text.stops_cons_iff.mp stops] at here
              contradiction
        rw [nothing]
        rfl
      · have plain : ∀ c ∈ spelled, c ≠ '.' ∧ c ≠ '"' := by
          intro c member
          constructor <;> (rintro rfl; exact absurd (word _ member) (by decide))
        rw [run, Ident.splitParts?_of_plain plain] at unclosed
        cases unclosed

end

structure NamedTable where
  replacing : List String
  modifying : List String
  phrase : List Char
  table : List Char
  before : List Char
  name : List Char
  behind : List Char
  rest : List Char
  replaces : Replacing replacing
  modifies : Modifying modifying
  creates : Phrase ("create" :: (replacing ++ modifying)) phrase
  spells : Spelled "table".toList table
  apart : before ≠ []
  blank : ∀ c ∈ before, Text.isBlank c
  blank' : ∀ c ∈ behind, Text.isBlank c

namespace NamedTable

def source (table : NamedTable) : String :=
  String.ofList (table.phrase ++ (table.table ++
    (table.before ++ (table.name ++ (table.behind ++ '(' :: table.rest)))))

variable {table : NamedTable} {ident : Ident} (accepted : Ident.read table.name = .ok ident)

include accepted in
theorem findHead?_eq :
    findHead? false table.source.toList =
      some ⟨.table, table.name.takeWhile isNameChar,
        table.name.dropWhile isNameChar ++ (table.behind ++ '(' :: table.rest)⟩ := by
  let body := '(' :: table.rest
  have names : Text.Stops isNameChar body := Text.stops_cons_iff.mpr (by decide)
  have words : Text.Stops Text.isWord body := Text.stops_cons_iff.mpr (by decide)
  have blanks : Text.Stops Text.isBlank body := Text.stops_cons_iff.mpr (by decide)
  have stops : Text.Stops Text.isWord
      (table.before ++ (table.name ++ (table.behind ++ body))) :=
    stops_isWord_of_blanks table.apart table.blank
  have behind := stops_isNameChar_of_blanks table.blank'
  obtain ⟨c, later, first, inside⟩ := exists_cons_of_accepted accepted
  have filled : (table.name ++ table.behind).takeWhile isNameChar ≠ [] := by
    simp [first, inside]
  have named : readName (skipExists
      (table.before ++ (table.name ++ (table.behind ++ body)))) =
        (table.name.takeWhile isNameChar,
          table.name.dropWhile isNameChar ++ (table.behind ++ body)) := by
    have parts : table.before ++ (table.name ++ (table.behind ++ body)) =
        (table.before ++ (table.name ++ table.behind)) ++ body := by
      simp only [List.append_assoc]
    rw [parts, skipExists_append words blanks,
      skipExists_accepted accepted table.apart table.blank table.blank',
      readName_append names blanks,
      readName_eq table.apart table.blank (stops_isBlank_of_accepted accepted _) filled,
      behind.takeWhile_append, behind.dropWhile_append, List.append_assoc]
  rw [source, String.toList_ofList]
  apply findHead?_of_readHead?
  have read := readHead?_phrase table.replaces table.modifies table.creates
    (Or.inl ⟨table.table, _, rfl, table.spells, stops⟩) (readKind?_table table.spells stops)
  rw [named] at read
  exact read

def entity (table : NamedTable) : Entity :=
  ⟨String.ofList (table.name.takeWhile isNameChar), .table,
    tableColumns (table.name.dropWhile isNameChar ++ (table.behind ++ '(' :: table.rest))⟩

include accepted in
theorem takeWhile_ne_nil : table.name.takeWhile isNameChar ≠ [] := by
  obtain ⟨c, later, first, inside⟩ := exists_cons_of_accepted accepted
  simp [first, inside]

include accepted in
theorem entityOf_eq (fallback : String) : entityOf table.source fallback = .ok table.entity := by
  have filled := takeWhile_ne_nil accepted
  have named : String.ofList (table.name.takeWhile isNameChar) ≠ "" := by simpa using filled
  rw [entityOf, findHead?_eq accepted]
  simp only [List.isEmpty_iff, filled, if_false, String.isEmpty_iff, named]
  rfl

theorem name_entity_iff :
    table.entity.name.toList = table.name ↔ ∀ c ∈ table.name, isNameChar c := by
  rw [entity, String.toList_ofList]
  constructor
  · intro same
    rw [← same]
    exact fun c member => List.all_eq_true.mp List.all_takeWhile c member
  · exact Text.takeWhile_eq_self

theorem columns_entity (whole : ∀ c ∈ table.name, isNameChar c) :
    table.entity.columns = tableColumns ('(' :: table.rest) := by
  have rest : table.name.dropWhile isNameChar = [] := by
    simpa using Text.dropWhile_append_of_stops whole Text.stops_nil
  rw [entity, rest, List.nil_append, tableColumns, tableColumns,
    body?_skip (unopened_of_blanks table.blank')]

theorem not_holdsPlaceholder_entity : ¬table.entity.HoldsPlaceholder := by
  apply Entity.not_holdsPlaceholder_of_nameChars
  rw [entity, String.toList_ofList]
  exact fun c member => List.all_eq_true.mp List.all_takeWhile c member

include accepted in
theorem modelOfSchema_eq (database : Database σ ρ) (fallback : String) :
    database.modelOfSchema table.source fallback = Model.ofEntity database table.entity := by
  rw [Database.modelOfSchema, entityOf_eq accepted]

section

variable {database : Database σ ρ}

include accepted in
theorem exists_model_iff (whole : ∀ c ∈ table.name, isNameChar c) :
    (∃ model, Model.ofEntity database table.entity = .ok model) ↔
      (∃ key, Ident.read database.settings.key.toList = .ok key) ∧
      ∀ c ∈ database.settings.key.toList, Text.isAsciiWord c := by
  have named := name_entity_iff.mpr whole
  rw [Model.exists_model_iff, named]
  constructor
  · rintro ⟨_, key, words, _⟩
    exact ⟨key, words⟩
  · rintro ⟨key, words⟩
    refine ⟨⟨ident, accepted⟩, key, words, ?_⟩
    intro name tag stands
    exact absurd ⟨name, some tag, named ▸ stands⟩ not_holdsPlaceholder_entity

include accepted in
theorem addresses {model : Model σ ρ} (whole : ∀ c ∈ table.name, isNameChar c)
    (made : Model.ofEntity database table.entity = .ok model) :
    model.table = ident ∧
      model.find.statement = ⟨"SELECT * FROM " ++ String.ofList table.name, []⟩ := by
  have named := name_entity_iff.mpr whole
  have parts := Model.made_of_ofEntity made
  have read := parts.table
  rw [named, accepted, Except.ok.injEq] at read
  refine ⟨read.symm, ?_⟩
  rw [parts.find_iff.mpr not_holdsPlaceholder_entity, ← named, String.ofList_toList]

include accepted in
theorem ofEntity_of_cut (cut : ¬∀ c ∈ table.name, isNameChar c) :
    Model.ofEntity database table.entity =
      .error (.ident table.entity.name .unclosedQuote) := by
  have unclosed := (named_or_unclosed accepted).resolve_left cut
  have noNul : '\x00' ∉ table.name.takeWhile isNameChar := fun member =>
    absurd (List.all_eq_true.mp List.all_takeWhile _ member) (by decide)
  have read := Ident.read_of_unclosed (takeWhile_ne_nil accepted) noNul unclosed
  have required : Ident.require table.entity.name =
      .error (.ident table.entity.name .unclosedQuote) := by
    rw [Ident.require, entity, String.toList_ofList, read]
  rw [Model.ofEntity, required]
  rfl

end

end NamedTable

/-- A table has the identifier that is written for it as its name just when all characters of the
identifier are characters of names. Then its model is made, whatever the settings but for their
key, and addresses the table of that identifier. Otherwise no model is made. -/
theorem named_as_written_iff {table : NamedTable} {ident : Ident}
    (accepted : Ident.read table.name = .ok ident) (fallback : String) :
    ∃ entity, entityOf table.source fallback = .ok entity ∧ entity.kind = .table ∧
      (entity.name.toList = table.name ↔ ∀ c ∈ table.name, isNameChar c) ∧
      ((∀ c ∈ table.name, isNameChar c) → entity.columns = tableColumns ('(' :: table.rest)) ∧
      ∀ database : Database σ ρ,
        ((∀ c ∈ table.name, isNameChar c) →
          ((∃ model, database.modelOfSchema table.source fallback = .ok model) ↔
            (∃ key, Ident.read database.settings.key.toList = .ok key) ∧
            ∀ c ∈ database.settings.key.toList, Text.isAsciiWord c) ∧
          ∀ model, database.modelOfSchema table.source fallback = .ok model →
            model.table = ident ∧
              model.find.statement = ⟨"SELECT * FROM " ++ String.ofList table.name, []⟩) ∧
        ((¬∀ c ∈ table.name, isNameChar c) →
          database.modelOfSchema table.source fallback =
            .error (.ident entity.name .unclosedQuote)) := by
  refine ⟨table.entity, table.entityOf_eq accepted fallback, rfl, table.name_entity_iff,
    table.columns_entity, ?_⟩
  intro database
  rw [table.modelOfSchema_eq accepted]
  refine ⟨?_, table.ofEntity_of_cut accepted⟩
  intro whole
  exact ⟨table.exists_model_iff accepted whole, fun model => table.addresses accepted whole⟩

def quotedOrders : NamedTable where
  replacing := []
  modifying := []
  phrase := "CREATE ".toList
  table := "TABLE".toList
  before := " ".toList
  name := "app.\"orders\"".toList
  behind := " ".toList
  rest := "id int)".toList
  replaces := .no
  modifies := .no
  creates := checkedTable.creates
  spells := checkedTable.spells
  apart := by decide
  blank := blank_space
  blank' := blank_space

theorem named_as_written_iff_orders :
    ∃ ident, Ident.read quotedOrders.name = .ok ident ∧
      ∃ entity, entityOf "CREATE TABLE app.\"orders\" (id int)" "t" = .ok entity ∧
        entity.name = "app.\"orders\"" ∧
        ∃ model, Model.emptyDatabase.modelOfSchema
            "CREATE TABLE app.\"orders\" (id int)" "t" = .ok model ∧
          model.table = ident := by
  have read : Ident.read quotedOrders.name = .ok ⟨[.bare "app".toList, .quoted "orders".toList]⟩ :=
    Result.eq_ok_of_toOption (by decide +kernel)
  have whole : ∀ c ∈ quotedOrders.name, isNameChar c := by decide
  obtain ⟨entity, found, _, named, _, models⟩ :=
    @named_as_written_iff Unit Unit quotedOrders _ read "t"
  obtain ⟨exists_iff, addresses⟩ := (models Model.emptyDatabase).1 whole
  have key : Ident.read Model.emptyDatabase.settings.key.toList = .ok ⟨[.bare "id".toList]⟩ :=
    Result.eq_ok_of_toOption (by decide)
  obtain ⟨model, made⟩ := exists_iff.mpr ⟨⟨_, key⟩, by decide⟩
  refine ⟨_, read, entity, found, ?_, model, made, (addresses model made).1⟩
  rw [← String.toList_inj, named.mpr whole]
  rfl

/-- The name of a table ends at the space in it, and no model is made of the table. -/
theorem name_cut_at_space :
    (Ident.read "\"Order Items\"".toList).toOption.isSome ∧
      (entityOf "CREATE TABLE \"Order Items\" (id int)" "t").toOption =
        some ⟨"\"Order", .table, [⟨"id", "int", .integer⟩]⟩ ∧
      (Model.emptyDatabase.modelOfSchema
        "CREATE TABLE \"Order Items\" (id int)" "t").toOption.isNone := by
  refine ⟨?_, ?_, ?_⟩ <;> decide +kernel

end Schema

end SqlTemplate
