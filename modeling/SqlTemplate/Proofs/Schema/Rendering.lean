import SqlTemplate.Proofs.Ident.Grammar
import SqlTemplate.Proofs.Schema.Heading
import SqlTemplate.Proofs.Schema.Nesting

/-!
Tables as they are written, and the entities that are read from them. A column is written as its
name, the words of its type and its options, and a constraint as its own text. Whatever the layout
of the definitions, reading gives back the columns, the first of each name.
-/

namespace SqlTemplate.Schema

/-! ## Definitions -/

def spaced (words : List (List Char)) : List Char :=
  (words.intersperse [' ']).flatten

inductive Definition
  | column (name : Ident.Part) (type : List (List Char)) (options : List Char)
  | constraint (text : List Char)

def optionsText : List Char → List Char
  | [] => []
  | c :: rest => ' ' :: c :: rest

def Definition.text : Definition → List Char
  | column name type options => name.text ++ ' ' :: (spaced type ++ optionsText options)
  | constraint text => text

def Definition.column? : Definition → Option Column
  | column name type _ => some ⟨String.ofList name.name, String.ofList (spaced type),
      .ofSqlType (spaced type)⟩
  | constraint _ => none

/-- A text starts with one of some words, in any case of its letters, and goes on with white space;
if `atEnd` says so it may end there. -/
def StartsWith (words : List String) (atEnd : Bool) (text : List Char) : Prop :=
  ∃ word rest, text = word ++ rest ∧ isOneOf words word ∧ Text.Stops Text.isSolid rest ∧
    (atEnd = false → rest ≠ [])

/-- A bare name is a token that no constraint starts with. Anything may stand between quotes. -/
inductive FitsName : Ident.Part → Prop
  | bare {token : List Char} : token ≠ [] →
      (∀ c ∈ token, Text.isSolid c ∧ c ≠ '\'' ∧ c ≠ '"' ∧ c ≠ ',' ∧ c ≠ '(' ∧ c ≠ ')') →
      isOneOf constraintWords token = false → FitsName (.bare token)
  | quoted {name : List Char} : FitsName (.quoted name)

/-- A type is some words without quotes, of which none but the first may be that of an option.
Commas stand between parentheses only. -/
structure FitsType (type : List (List Char)) : Prop where
  filled : type ≠ []
  solid : ∀ word ∈ type, word ≠ [] ∧ ∀ c ∈ word, Text.isSolid c ∧ c ≠ '\'' ∧ c ≠ '"'
  plain : ∀ word ∈ type.tail, isOneOf optionWords word = false
  balanced : Balanced false (spaced type)

inductive Definition.WellFormed : Definition → Prop
  | column {name : Ident.Part} {type : List (List Char)} {options : List Char} : FitsName name →
      FitsType type → options = [] ∨ StartsWith optionWords true options →
      Balanced false options → WellFormed (.column name type options)
  | constraint {text : List Char} : StartsWith constraintWords false text → Balanced false text →
      WellFormed (.constraint text)

/-- Definitions with commas between neighbours and any white space around them. -/
inductive Listed : List Definition → List Char → Prop
  | none {blanks : List Char} : (∀ c ∈ blanks, Text.isBlank c) → Listed [] blanks
  | last {definition : Definition} {before after : List Char} : (∀ c ∈ before, Text.isBlank c) →
      (∀ c ∈ after, Text.isBlank c) → Listed [definition] (before ++ (definition.text ++ after))
  | next {definition : Definition} {definitions : List Definition} {before after text : List Char} :
      (∀ c ∈ before, Text.isBlank c) → (∀ c ∈ after, Text.isBlank c) → Listed definitions text →
      Listed (definition :: definitions) (before ++ (definition.text ++ (after ++ ',' :: text)))

structure FitsTable (name : List Char) : Prop where
  filled : name ≠ []
  plain : ∀ c ∈ name, Text.isAsciiWord c ∨ c = '.'

/-! ## Words that start something -/

theorem keyword_constraintWords : ∀ word ∈ constraintWords, Keyword word := by
  decide

theorem keyword_optionWords : ∀ word ∈ optionWords, Keyword word := by
  decide

theorem isWord_of_isOneOf {words : List String} (keywords : ∀ word ∈ words, Keyword word)
    {text : List Char} (among : isOneOf words text) : text ≠ [] ∧ ∀ c ∈ text, Text.isWord c := by
  obtain ⟨word, member, same⟩ := List.any_eq_true.mp among
  have same : word.toList = text.map Char.toLower := by simpa using same
  obtain ⟨filled, lower⟩ := keywords word member
  refine ⟨?_, ?_⟩
  · rintro rfl
    exact filled same
  · intro c inText
    have inWord : c.toLower ∈ word.toList := by
      rw [same]
      exact List.mem_map_of_mem inText
    apply isWord_of_isLetter (lower _ inWord)
    simp [isLetter]

theorem isSolid_of_isWord {c : Char} (word : Text.isWord c) : Text.isSolid c := by
  simp [Text.isSolid, Text.isBlank_of_isWord word]

theorem not_isOneOf_of_mem {words : List String} (keywords : ∀ word ∈ words, Keyword word)
    {text : List Char} {c : Char} (member : c ∈ text) (outside : Text.isWord c = false) :
    isOneOf words text = false := by
  cases among : isOneOf words text with
  | false => rfl
  | true =>
      have word := (isWord_of_isOneOf keywords among).2 c member
      rw [outside] at word
      contradiction

/-! ## Names -/

theorem splitName?_unquoted {text : List Char} (unquoted : ∀ after, text ≠ '"' :: after) :
    splitName? text = some (text.takeWhile Text.isSolid, text.dropWhile Text.isSolid) := by
  unfold splitName?
  split
  next after => exact absurd rfl (unquoted after)
  next => rfl

theorem splitName?_solid {name rest : List Char} (filled : name ≠ [])
    (solid : ∀ c ∈ name, Text.isSolid c) (noQuote : ∀ c ∈ name, c ≠ '"')
    (stops : Text.Stops Text.isSolid rest) : splitName? (name ++ rest) = some (name, rest) := by
  rw [splitName?_unquoted, Text.takeWhile_append_of_stops solid stops,
    Text.dropWhile_append_of_stops solid stops]
  intro after same
  obtain ⟨c, later, rfl⟩ := List.exists_cons_of_ne_nil filled
  rw [List.cons_append, List.cons.injEq] at same
  exact noQuote c List.mem_cons_self same.1

theorem readQuoted?_cons {c : Char} (noQuote : c ≠ '"') (text : List Char) :
    readQuoted? (c :: text) =
      (readQuoted? text).map fun (name, rest) => (c :: name, rest) := by
  rw [readQuoted?, if_neg noQuote]
  intro rest same
  exact absurd same noQuote

theorem readQuoted?_double {rest : List Char} (noQuote : ∀ after, rest ≠ '"' :: after)
    (name : List Char) :
    readQuoted? (Ident.double name ++ '"' :: rest) = some (Ident.double name ++ ['"'], rest) := by
  induction name with
  | nil =>
      rw [Ident.double, List.nil_append, readQuoted?]
      · simp
      · intro after _ same
        exact noQuote after same
  | cons c name ih =>
      by_cases quote : c = '"'
      · simp [Ident.double, quote, readQuoted?, ih]
      · simp [Ident.double, quote, readQuoted?_cons quote, ih]

inductive FitsToken : Ident.Part → Prop
  | bare {token : List Char} : token ≠ [] →
      (∀ c ∈ token, Text.isSolid c ∧ c ≠ '\'' ∧ c ≠ '"' ∧ c ≠ ',' ∧ c ≠ '(' ∧ c ≠ ')') →
      FitsToken (.bare token)
  | quoted {name : List Char} : FitsToken (.quoted name)

theorem FitsName.token {name : Ident.Part} (fits : FitsName name) : FitsToken name := by
  cases fits with
  | bare filled solid _ => exact .bare filled solid
  | quoted => exact .quoted

/-- A name ends where white space or nothing follows; behind the closing quote of a name in quotes
no other quote may follow. -/
inductive Ends : Ident.Part → List Char → Prop
  | bare {token rest : List Char} : Text.Stops Text.isSolid rest → Ends (.bare token) rest
  | quoted {name rest : List Char} : (∀ after, rest ≠ '"' :: after) → Ends (.quoted name) rest

theorem ends_of_stops (name : Ident.Part) {rest : List Char}
    (stops : Text.Stops Text.isSolid rest) : Ends name rest := by
  cases name with
  | bare => exact .bare stops
  | quoted =>
      refine .quoted ?_
      rintro after rfl
      exact absurd (Text.stops_cons_iff.mp stops) (by decide)

theorem FitsToken.exists_cons {name : Ident.Part} (fits : FitsToken name) :
    ∃ c later, name.text = c :: later ∧ Text.isBlank c = false := by
  cases fits with
  | bare filled solid =>
      obtain ⟨c, later, rfl⟩ := List.exists_cons_of_ne_nil filled
      exact ⟨c, later, rfl, by simpa [Text.isSolid] using (solid c List.mem_cons_self).1⟩
  | quoted => exact ⟨'"', _, rfl, by decide⟩

theorem splitName?_text {name : Ident.Part} (fits : FitsToken name) {rest : List Char}
    (ends : Ends name rest) : splitName? (name.text ++ rest) = some (name.text, rest) := by
  cases ends with
  | bare stops =>
      cases fits with
      | bare filled token =>
          apply splitName?_solid filled _ _ stops
          · exact fun c member => (token c member).1
          · exact fun c member => (token c member).2.2.1
  | @quoted name _ noQuote =>
      have read := readQuoted?_double noQuote name
      simp [Ident.Part.text, splitName?, read]

theorem unquote_cons {c : Char} (noQuote : c ≠ '"') (text : List Char) :
    Ident.unquote (c :: text) = c :: text := by
  have outside : Ident.betweenQuotes? (c :: text) = none := by
    rw [Ident.betweenQuotes?]
    rintro rest same
    rw [List.cons.injEq] at same
    exact absurd same.1 noQuote
  rw [Ident.unquote, outside]

theorem unquote_text {name : Ident.Part} (fits : FitsToken name) :
    Ident.unquote name.text = name.name := by
  cases fits with
  | @bare token filled solid =>
      obtain ⟨c, later, rfl⟩ := List.exists_cons_of_ne_nil filled
      exact unquote_cons (solid c List.mem_cons_self).2.2.1 later
  | quoted =>
      rw [Ident.Part.text, Ident.unquote, Ident.betweenQuotes?_quoted]
      exact Ident.undouble_double _

theorem not_constraint_text {name : Ident.Part} (fits : FitsName name) :
    isOneOf constraintWords name.text = false := by
  cases fits with
  | bare _ _ plain => exact plain
  | quoted =>
      exact not_isOneOf_of_mem keyword_constraintWords (c := '"') List.mem_cons_self (by decide)

/-! ## Types -/

theorem words_spaced {type : List (List Char)} (filled : type ≠ [])
    (solid : ∀ word ∈ type, word ≠ [] ∧ ∀ c ∈ word, Text.isSolid c) {rest : List Char}
    (stops : Text.Stops Text.isSolid rest) :
    Text.words (spaced type ++ rest) = type ++ Text.words rest :=
  Text.words_intersperse_append filled solid stops

theorem words_options {options : List Char}
    (starts : options = [] ∨ StartsWith optionWords true options) :
    Text.words (optionsText options) = [] ∨
      ∃ word rest, Text.words (optionsText options) = word :: rest ∧ isOneOf optionWords word := by
  rcases starts with rfl | ⟨word, rest, rfl, among, stops, _⟩
  · exact Or.inl rfl
  · obtain ⟨filled, letters⟩ := isWord_of_isOneOf keyword_optionWords among
    refine Or.inr ⟨word, Text.words rest, ?_, among⟩
    have text : optionsText (word ++ rest) = ' ' :: (word ++ rest) := by
      obtain ⟨c, later, rfl⟩ := List.exists_cons_of_ne_nil filled
      rfl
    rw [text, Text.words_blank_cons (by decide),
      Text.words_append filled (fun c member => isSolid_of_isWord (letters c member)) stops]

theorem typeWords_append {type others : List (List Char)} (filled : type ≠ [])
    (plain : ∀ word ∈ type.tail, isOneOf optionWords word = false)
    (ends : others = [] ∨ ∃ word rest, others = word :: rest ∧ isOneOf optionWords word) :
    typeWords (type ++ others) = type := by
  obtain ⟨first, later, rfl⟩ := List.exists_cons_of_ne_nil filled
  rw [List.cons_append, typeWords, List.takeWhile_append_of_pos]
  · rcases ends with rfl | ⟨word, rest, rfl, among⟩
    · simp
    · simp [among]
  · intro word member
    simp [plain word member]

/-! ## One definition -/

theorem columnOf?_column {name : Ident.Part} {type : List (List Char)} {options : List Char}
    (fitsName : FitsName name) (fitsType : FitsType type)
    (starts : options = [] ∨ StartsWith optionWords true options) :
    columnOf? (Definition.text (.column name type options)) =
      Definition.column? (.column name type options) := by
  have stops : Text.Stops Text.isSolid (optionsText options) := by
    cases options with
    | nil => exact Text.stops_nil
    | cons c rest => exact Text.stops_cons_iff.mpr (by decide)
  have solid : ∀ word ∈ type, word ≠ [] ∧ ∀ c ∈ word, Text.isSolid c := fun word member =>
    ⟨(fitsType.solid word member).1, fun c inWord => ((fitsType.solid word member).2 c inWord).1⟩
  have read : typeWords (Text.words (' ' :: (spaced type ++ optionsText options))) = type := by
    rw [Text.words_blank_cons (by decide), words_spaced fitsType.filled solid stops]
    exact typeWords_append fitsType.filled fitsType.plain (words_options starts)
  obtain ⟨first, later, same⟩ := List.exists_cons_of_ne_nil fitsType.filled
  rw [columnOf?, Definition.text,
    splitName?_text fitsName.token (ends_of_stops name (Text.stops_cons_iff.mpr (by decide)))]
  simp only [Option.bind_eq_bind, Option.bind_some, columnNamed?, not_constraint_text fitsName,
    Bool.false_eq_true, if_false, read, unquote_text fitsName.token]
  rw [same]
  rfl

theorem columnOf?_constraint {atEnd : Bool} {text : List Char}
    (starts : StartsWith constraintWords atEnd text) : columnOf? text = none := by
  obtain ⟨word, rest, rfl, among, stops, _⟩ := starts
  obtain ⟨filled, letters⟩ := isWord_of_isOneOf keyword_constraintWords among
  have noQuote : ∀ c ∈ word, c ≠ '"' := by
    rintro c member rfl
    exact absurd (letters _ member) (by decide)
  rw [columnOf?, splitName?_solid filled (fun c member => isSolid_of_isWord (letters c member))
    noQuote stops]
  simp [columnNamed?, among]

theorem columnOf?_text {definition : Definition} (wellFormed : definition.WellFormed) :
    columnOf? definition.text = definition.column? := by
  cases wellFormed with
  | column fitsName fitsType starts _ => exact columnOf?_column fitsName fitsType starts
  | constraint starts _ => exact columnOf?_constraint starts

/-! ## White space at the end of a definition -/

theorem readQuoted?_append {more : List Char} (noQuote : '"' ∉ more) (text : List Char) :
    readQuoted? (text ++ more) =
      (readQuoted? text).map fun (name, rest) => (name, rest ++ more) := by
  fun_induction readQuoted? text with
  | case1 =>
      induction more with
      | nil => rfl
      | cons c more ih =>
          rw [List.mem_cons, not_or] at noQuote
          rw [List.nil_append, readQuoted?_cons (Ne.symm noQuote.1)]
          simpa using ih noQuote.2
  | case2 rest ih =>
      rw [List.cons_append, List.cons_append, readQuoted?, ih, Option.map_map, Option.map_map]
      rfl
  | case3 rest single =>
      rw [List.cons_append, readQuoted?]
      · simp
      · intro after _ same
        cases rest with
        | nil =>
            rw [List.nil_append] at same
            simp [same] at noQuote
        | cons d rest =>
            rw [List.cons_append, List.cons.injEq] at same
            exact single rest rfl (by rw [same.1])
  | case4 c rest _ other ih =>
      rw [List.cons_append, readQuoted?_cons other, ih, Option.map_map, Option.map_map]
      rfl

theorem splitName?_append_blanks {blanks : List Char} (blank : ∀ c ∈ blanks, Text.isBlank c)
    (text : List Char) :
    splitName? (text ++ blanks) =
      (splitName? text).map fun (name, rest) => (name, rest ++ blanks) := by
  have noQuote : '"' ∉ blanks := fun member => absurd (blank _ member) (by decide)
  by_cases quoted : ∃ after, text = '"' :: after
  · obtain ⟨after, rfl⟩ := quoted
    rw [List.cons_append, splitName?, splitName?, readQuoted?_append noQuote, Option.map_map,
      Option.map_map]
    rfl
  · have unquoted : ∀ after, text ≠ '"' :: after := fun after same => quoted ⟨after, same⟩
    have unquotedWhole : ∀ after, text ++ blanks ≠ '"' :: after := by
      intro after same
      cases text with
      | nil =>
          rw [List.nil_append] at same
          simp [same] at noQuote
      | cons c rest =>
          rw [List.cons_append, List.cons.injEq] at same
          exact unquoted rest (by rw [same.1])
    have stops := Text.stops_isSolid_of_blanks blank
    rw [splitName?_unquoted unquoted, splitName?_unquoted unquotedWhole, stops.takeWhile_append,
      stops.dropWhile_append]
    rfl

theorem columnOf?_append_blanks {blanks : List Char} (blank : ∀ c ∈ blanks, Text.isBlank c)
    (text : List Char) : columnOf? (text ++ blanks) = columnOf? text := by
  rw [columnOf?, columnOf?, splitName?_append_blanks blank]
  cases splitName? text with
  | none => rfl
  | some parts =>
      obtain ⟨name, rest⟩ := parts
      simp only [Option.map_some, Option.bind_eq_bind, Option.bind_some, columnNamed?,
        Text.words_append_blanks blank]

theorem columnOf?_trim (text : List Char) :
    columnOf? (Text.trim text) = columnOf? (Text.trimLeft text) := by
  obtain ⟨blanks, blank, same⟩ := Text.exists_trimRight_append (Text.trimLeft text)
  have read := columnOf?_append_blanks blank (Text.trimRight (Text.trimLeft text))
  rw [← same] at read
  exact read.symm

/-- Pieces without text define no column, so leaving them out changes nothing. -/
theorem filterMap_items (body : List Char) :
    (items body).filterMap columnOf? =
      (pieces .outside body).filterMap fun piece => columnOf? (Text.trimLeft piece) := by
  rw [items, List.filterMap_filter, List.filterMap_map]
  congr 1
  funext piece
  simp only [Function.comp, ← columnOf?_trim]
  cases Text.trim piece <;> rfl

/-! ## The body of a table -/

theorem plain_of_isBlank {commas : Bool} {c : Char} (blank : Text.isBlank c) : Plain commas c :=
  plain_of_class blank (by decide)

theorem balanced_of_blanks {commas : Bool} {blanks : List Char}
    (blank : ∀ c ∈ blanks, Text.isBlank c) : Balanced commas blanks :=
  balanced_of_plain fun c member => plain_of_isBlank (blank c member)

theorem balanced_name {name : Ident.Part} (fits : FitsToken name) {text : List Char}
    (balanced : Balanced false text) : Balanced false (name.text ++ text) := by
  cases fits with
  | @bare token _ solid =>
      refine (balanced_of_plain ?_).append balanced
      intro c member
      obtain ⟨_, single, double, comma, opening, closing⟩ := solid c member
      exact ⟨single, double, opening, closing, fun same => absurd same comma⟩
  | @quoted name =>
      have whole := Ident.double_stretches (fun _ _ => .quoted (Or.inr rfl)) balanced name
      simpa [Ident.Part.text] using whole

theorem Definition.WellFormed.balanced {definition : Definition}
    (wellFormed : definition.WellFormed) : Balanced false definition.text := by
  cases wellFormed with
  | @column name type options fitsName fitsType _ balancedOptions =>
      have space : Plain false ' ' := plain_of_isBlank (by decide)
      apply balanced_name fitsName.token (.plain space (fitsType.balanced.append _))
      cases options with
      | nil => exact .nil
      | cons c rest => exact .plain space balancedOptions
  | constraint _ balanced => exact balanced

theorem Definition.WellFormed.exists_cons {definition : Definition}
    (wellFormed : definition.WellFormed) :
    ∃ c rest, definition.text = c :: rest ∧ Text.isBlank c = false := by
  cases wellFormed with
  | column fitsName _ _ _ =>
      obtain ⟨c, later, same, solid⟩ := fitsName.token.exists_cons
      exact ⟨c, _, by rw [Definition.text, same, List.cons_append], solid⟩
  | constraint starts _ =>
      obtain ⟨word, rest, rfl, among, _⟩ := starts
      obtain ⟨filled, letters⟩ := isWord_of_isOneOf keyword_constraintWords among
      obtain ⟨c, later, rfl⟩ := List.exists_cons_of_ne_nil filled
      exact ⟨c, _, rfl, Text.isBlank_of_isWord (letters c List.mem_cons_self)⟩

theorem Definition.WellFormed.stops_isBlank {definition : Definition}
    (wellFormed : definition.WellFormed) (after : List Char) :
    Text.Stops Text.isBlank (definition.text ++ after) := by
  obtain ⟨c, rest, same, solid⟩ := wellFormed.exists_cons
  rw [same]
  exact Text.stops_cons_iff.mpr solid

theorem Listed.balanced {definitions : List Definition} {body : List Char}
    (listed : Listed definitions body)
    (wellFormed : ∀ definition ∈ definitions, definition.WellFormed) : Balanced true body := by
  induction listed with
  | none blank => exact balanced_of_blanks blank
  | last blank blank' =>
      obtain ⟨here, _⟩ := List.forall_mem_cons.mp wellFormed
      exact (balanced_of_blanks blank).append
        (here.balanced.allow.append (balanced_of_blanks blank'))
  | next blank blank' _ ih =>
      obtain ⟨here, later⟩ := List.forall_mem_cons.mp wellFormed
      have comma : Plain true ',' :=
        ⟨by decide, by decide, by decide, by decide, fun _ => rfl⟩
      exact (balanced_of_blanks blank).append (here.balanced.allow.append
        ((balanced_of_blanks blank').append (.plain comma (ih later))))

theorem columnOf?_piece {definition : Definition} (wellFormed : definition.WellFormed)
    {before after : List Char} (blank : ∀ c ∈ before, Text.isBlank c)
    (blank' : ∀ c ∈ after, Text.isBlank c) :
    columnOf? (Text.trimLeft (before ++ (definition.text ++ after))) = definition.column? := by
  rw [Text.trimLeft_blanks_append blank (wellFormed.stops_isBlank after),
    columnOf?_append_blanks blank', columnOf?_text wellFormed]

theorem Listed.filterMap_items {definitions : List Definition} {body : List Char}
    (listed : Listed definitions body)
    (wellFormed : ∀ definition ∈ definitions, definition.WellFormed) :
    (items body).filterMap columnOf? = definitions.filterMap Definition.column? := by
  rw [Schema.filterMap_items]
  induction listed with
  | @none blanks blank =>
      have nothing : Text.trimLeft blanks = [] := by
        simpa using Text.trimLeft_blanks_append blank Text.stops_nil
      rw [(balanced_of_blanks blank).pieces_last]
      simp [nothing, columnOf?, splitName?, columnNamed?, Text.words, Text.words.go, typeWords]
  | @last definition before after blank blank' =>
      obtain ⟨here, _⟩ := List.forall_mem_cons.mp wellFormed
      have balanced := (balanced_of_blanks blank).append
        (here.balanced.append (balanced_of_blanks blank'))
      rw [balanced.pieces_last, List.filterMap_cons, columnOf?_piece here blank blank',
        List.filterMap_cons]
      rfl
  | @next definition definitions before after text blank blank' _ ih =>
      obtain ⟨here, later⟩ := List.forall_mem_cons.mp wellFormed
      have balanced := (balanced_of_blanks blank).append
        (here.balanced.append (balanced_of_blanks blank'))
      have split := balanced.pieces_comma text
      simp only [List.append_assoc] at split
      rw [split, List.filterMap_cons, columnOf?_piece here blank blank', ih later,
        List.filterMap_cons]

/-! ## Columns of one name -/

def sameName (first second : Column) : Bool :=
  first.name == second.name

theorem distinct_eq (seen : List String) (columns : List Column) :
    distinct seen columns =
      (columns.filter fun column => !seen.contains column.name).eraseDupsBy sameName := by
  induction columns generalizing seen with
  | nil => rfl
  | cons column rest ih =>
      rw [distinct]
      by_cases known : seen.contains column.name
      · rw [if_pos known, List.filter_cons_of_neg (by simpa using known), ih]
      · rw [if_neg known, List.filter_cons_of_pos (by simpa using known), List.eraseDupsBy_cons,
          ih, List.filter_filter]
        congr 2
        apply List.filter_congr
        intro other _
        by_cases same : other.name = column.name <;> simp [sameName, same]

theorem distinct_concat (seen : List String) (columns : List Column) (column : Column) :
    distinct seen (columns ++ [column]) = distinct seen columns ++
      if column.name ∈ seen ∨ column.name ∈ columns.map Column.name then [] else [column] := by
  induction columns generalizing seen with
  | nil => simp [distinct]
  | cons first columns ih =>
      rw [List.cons_append, distinct, distinct, ih, ih]
      by_cases known : first.name ∈ seen
      · have same : column.name ∈ seen ∨ column.name ∈ (first :: columns).map Column.name ↔
            column.name ∈ seen ∨ column.name ∈ columns.map Column.name := by
          grind
        simp only [List.contains_eq_mem, known, decide_true, if_true, same]
      · have same : column.name ∈ seen ∨ column.name ∈ (first :: columns).map Column.name ↔
            column.name ∈ first.name :: seen ∨ column.name ∈ columns.map Column.name := by
          grind
        simp only [List.contains_eq_mem, known, decide_false, Bool.false_eq_true, if_false, same,
          List.cons_append]

theorem tableColumns_eq {before body rest : List Char} {definitions : List Definition}
    (listed : Listed definitions body)
    (wellFormed : ∀ definition ∈ definitions, definition.WellFormed) (unopened : '(' ∉ before) :
    tableColumns (before ++ '(' :: (body ++ ')' :: rest)) =
      (definitions.filterMap Definition.column?).eraseDupsBy sameName := by
  rw [tableColumns, body?_balanced (listed.balanced wellFormed) unopened rest]
  simp only [listed.filterMap_items wellFormed, distinct_eq]
  congr 1
  simp

/-! ## The head of the statement -/

theorem isNameChar_of_isWord {c : Char} (word : Text.isWord c) : isNameChar c := by
  simp [isNameChar, word]

theorem isNameChar_of_isBlank {c : Char} (blank : Text.isBlank c) : isNameChar c = false := by
  have noDot : c ≠ '.' := Text.ne_of_isBlank blank (by decide)
  have noQuote : c ≠ '"' := Text.ne_of_isBlank blank (by decide)
  have noDollar : c ≠ '$' := Text.ne_of_isBlank blank (by decide)
  simp [isNameChar, Text.isWord_of_isBlank blank, noDot, noQuote, noDollar]

theorem stops_isNameChar_of_blanks {blanks : List Char} (blank : ∀ c ∈ blanks, Text.isBlank c) :
    Text.Stops isNameChar blanks :=
  Text.stops_of_outside fun c member => isNameChar_of_isBlank (blank c member)

theorem afterBlanks?_space {text : List Char} (stops : Text.Stops Text.isBlank text) :
    afterBlanks? (' ' :: text) = some text :=
  afterBlanks?_eq_some_iff.mpr ⟨[' '], by simp, by decide, rfl, stops⟩

theorem readHead?_create_table (after : List Char) :
    readHead? ("CREATE TABLE ".toList ++ after) =
      some ⟨.table, (readName (skipExists (' ' :: after))).1,
        (readName (skipExists (' ' :: after))).2⟩ := by
  rfl

section

variable {name gap : List Char} (fits : FitsTable name) (blank : ∀ c ∈ gap, Text.isBlank c)
  (rest : List Char)

include blank in
theorem stops_isNameChar_gap : Text.Stops isNameChar (gap ++ '(' :: rest) :=
  (stops_isNameChar_of_blanks blank).append (Text.stops_cons_iff.mpr (by decide))

include fits in
theorem FitsTable.isNameChar : ∀ c ∈ name, isNameChar c := by
  intro c member
  rcases fits.plain c member with word | rfl
  · exact isNameChar_of_isWord (Text.isWord_of_isAsciiWord word)
  · decide

include fits in
theorem FitsTable.stops_isBlank (after : List Char) : Text.Stops Text.isBlank (name ++ after) := by
  obtain ⟨c, later, rfl⟩ := List.exists_cons_of_ne_nil fits.filled
  rw [List.cons_append, Text.stops_cons_iff]
  rcases fits.plain c List.mem_cons_self with word | rfl
  · exact Text.isBlank_of_isWord (Text.isWord_of_isAsciiWord word)
  · decide

include fits blank in
/-- A table may be called `if`, but no `not` follows where its body begins. -/
theorem skipExists_name :
    skipExists (' ' :: (name ++ (gap ++ '(' :: rest))) = ' ' :: (name ++ (gap ++ '(' :: rest)) := by
  have none : (afterWordAndBlanks? "if" (name ++ (gap ++ '(' :: rest))).bind
      (afterWordAndBlanks? "not") = none := by
    rw [Option.bind_eq_none_iff]
    intro after read
    obtain ⟨phrase, whole, same, stops⟩ := afterWordAndBlanks?_eq_some_iff.mp read
    cases whole with
    | @cons _ _ spelled blanks _ spells filledBlanks inside nothing =>
        cases nothing
        rw [List.append_nil, List.append_assoc] at same
        -- The word is the name, so the white space is the gap, and the body follows.
        have word : ∀ c ∈ spelled, isNameChar c := fun c member =>
          isNameChar_of_isWord (spells.isWord (by decide) c member)
        have stopsBlanks : Text.Stops isNameChar (blanks ++ after) :=
          (stops_isNameChar_of_blanks inside).append_of_ne_nil filledBlanks after
        have runs := congrArg (List.dropWhile isNameChar) same
        rw [Text.dropWhile_append_of_stops fits.isNameChar (stops_isNameChar_gap blank rest),
          Text.dropWhile_append_of_stops word stopsBlanks] at runs
        have body := congrArg Text.trimLeft runs
        rw [Text.trimLeft_blanks_append blank (Text.stops_cons_iff.mpr (by decide)),
          Text.trimLeft_blanks_append inside stops] at body
        rw [← body]
        rfl
  rw [skipExists, afterBlanks?_space (fits.stops_isBlank _), Option.bind_some, none]
  rfl

include fits blank in
theorem readName_name :
    readName (' ' :: (name ++ (gap ++ '(' :: rest))) = (name, gap ++ '(' :: rest) := by
  have stops := stops_isNameChar_gap blank rest
  rw [readName, afterBlanks?_space (fits.stops_isBlank _)]
  simp only [Text.takeWhile_append_of_stops fits.isNameChar stops,
    Text.dropWhile_append_of_stops fits.isNameChar stops]
  simp [fits.filled]

include fits blank in
theorem findHead?_create_table :
    findHead? false ("CREATE TABLE ".toList ++ (name ++ (gap ++ '(' :: rest))) =
      some ⟨.table, name, gap ++ '(' :: rest⟩ := by
  have read := readHead?_create_table (name ++ (gap ++ '(' :: rest))
  rw [skipExists_name fits blank rest, readName_name fits blank rest] at read
  have letters : "CREATE TABLE ".toList = 'C' :: "REATE TABLE ".toList := rfl
  rw [letters, List.cons_append] at read ⊢
  rw [findHead?, if_neg Bool.false_ne_true, read]

end

/-! ## Whole tables -/

/-- A table that is written as its name and the list of its definitions is read back: its name, and
its columns in order, of each name the first. -/
theorem entityOf_rendered {name gap body rest : List Char} {definitions : List Definition}
    (fits : FitsTable name) (blank : ∀ c ∈ gap, Text.isBlank c)
    (wellFormed : ∀ definition ∈ definitions, definition.WellFormed)
    (listed : Listed definitions body) (fallback : String) :
    entityOf (String.ofList
        ("CREATE TABLE ".toList ++ (name ++ (gap ++ '(' :: (body ++ ')' :: rest))))) fallback =
      .ok ⟨String.ofList name, .table,
        (definitions.filterMap Definition.column?).eraseDupsBy sameName⟩ := by
  have unopened : '(' ∉ gap := fun member => absurd (blank _ member) (by decide)
  have filled : (String.ofList name).isEmpty = false := by
    simp [fits.filled]
  rw [entityOf, String.toList_ofList, findHead?_create_table fits blank]
  simp only [List.isEmpty_iff, fits.filled, if_false, filled, Bool.false_eq_true,
    tableColumns_eq listed wellFormed unopened]

/-- A table with a name that is hard to read, a constraint, and a column that is defined twice. -/
def ledger : List Definition := [
  .column (.quoted "net, \"(x)'".toList) ["numeric(10,".toList, "2)".toList] "NOT NULL".toList,
  .column (.bare "day".toList) ["date".toList] [],
  .constraint "UNIQUE (day)".toList,
  .column (.quoted "day".toList) ["text".toList] []]

theorem wellFormed_ledger : ∀ definition ∈ ledger, definition.WellFormed := by
  have plain : ∀ text : List Char, (∀ c ∈ text, Plain false c) → Balanced false text :=
    fun _ => balanced_of_plain
  have money : Balanced false "numeric(10, 2)".toList :=
    (plain "numeric".toList (by decide)).append
      (.group (balanced_of_plain (show ∀ c ∈ "10, 2".toList, Plain true c by decide)) .nil)
  have unique : Balanced false "UNIQUE (day)".toList :=
    (plain "UNIQUE ".toList (by decide)).append
      (.group (balanced_of_plain (show ∀ c ∈ "day".toList, Plain true c by decide)) .nil)
  have notNull : StartsWith optionWords true "NOT NULL".toList :=
    ⟨"NOT".toList, " NULL".toList, rfl, by decide, Text.stops_cons_iff.mpr (by decide),
      by simp⟩
  have key : StartsWith constraintWords false "UNIQUE (day)".toList :=
    ⟨"UNIQUE".toList, " (day)".toList, rfl, by decide,
      Text.stops_cons_iff.mpr (by decide), by simp⟩
  simp only [ledger, List.forall_mem_cons, List.not_mem_nil, false_imp_iff, implies_true, and_true]
  refine ⟨.column .quoted ⟨by simp, by decide, by decide, money⟩ (Or.inr notNull)
    (plain _ (by decide)), ?_, .constraint key unique, ?_⟩
  · exact .column (.bare (by decide) (by decide) (by decide))
      ⟨by simp, by decide, by decide, plain _ (by decide)⟩ (Or.inl rfl) .nil
  · exact .column .quoted ⟨by simp, by decide, by decide,
      plain _ (by decide)⟩ (Or.inl rfl) .nil

theorem listed_ledger :
    Listed ledger
      ("\"net, \"\"(x)'\" numeric(10, 2) NOT NULL,\n day date, " ++
        "UNIQUE (day), \"day\" text").toList := by
  have space : ∀ c ∈ " ".toList, Text.isBlank c := by decide
  have line : ∀ c ∈ "\n ".toList, Text.isBlank c := by decide
  have none : ∀ c ∈ "".toList, Text.isBlank c := by simp
  have last : Listed [.column (.quoted "day".toList) ["text".toList] []] " \"day\" text".toList :=
    .last space none
  exact .next none none (.next line none (.next space none last))

theorem entityOf_rendered_ledger :
    entityOf ("CREATE TABLE app.ledger (\"net, \"\"(x)'\" numeric(10, 2) NOT NULL,\n day date, " ++
        "UNIQUE (day), \"day\" text);") "other" =
      .ok ⟨"app.ledger", .table, [⟨"net, \"(x)'", "numeric(10, 2)", .float⟩,
        ⟨"day", "date", .date⟩]⟩ := by
  have fits : FitsTable "app.ledger".toList := ⟨by decide +kernel, by decide +kernel⟩
  have space : ∀ c ∈ " ".toList, Text.isBlank c := by decide
  have read := @entityOf_rendered _ _ _ ";".toList _ fits space wellFormed_ledger listed_ledger
    "other"
  have columns : (ledger.filterMap Definition.column?).eraseDupsBy sameName =
      [⟨"net, \"(x)'", "numeric(10, 2)", .float⟩, ⟨"day", "date", .date⟩] := by
    decide +kernel
  rw [columns] at read
  exact read

end SqlTemplate.Schema
