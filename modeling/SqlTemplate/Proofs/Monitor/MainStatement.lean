import SqlTemplate.Proofs.Ident.Grammar
import SqlTemplate.Proofs.Monitor.Words
import SqlTemplate.Proofs.Schema.Heading

/-!
Statements with common tables before them. Whatever the tables are called and whatever stands in
their parentheses, the main statement decides of what kind the whole is.
-/

namespace SqlTemplate.StatementKind

def IsKeyword (kind : StatementKind) (word : List Char) : Prop :=
  ∃ names keyword, (kind, names) ∈ keywords ∧ keyword ∈ names ∧
    word.map Char.toLower = keyword.toList

theorem ofKeyword?_eq_some_iff {kind : StatementKind} {word : List Char} :
    ofKeyword? word = some kind ↔ IsKeyword kind word := by
  constructor
  · intro found
    obtain ⟨⟨first, names⟩, entry, rfl⟩ := Option.map_eq_some_iff.mp found
    have fits := List.find?_some entry
    obtain ⟨keyword, member, same⟩ := List.any_eq_true.mp fits
    rw [beq_iff_eq] at same
    exact ⟨names, keyword, List.mem_of_find?_eq_some entry, member, same.symm⟩
  · rintro ⟨names, keyword, entry, member, same⟩
    have table : ∀ entry ∈ keywords, ∀ keyword ∈ entry.2,
        (keywords.find? fun other => other.2.any fun name => name.toList == keyword.toList).map
          Prod.fst = some entry.1 := by
      decide +kernel
    rw [ofKeyword?, same]
    exact table (kind, names) entry keyword member

theorem ofKeyword?_eq_none_iff {word : List Char} :
    ofKeyword? word = none ↔ ∀ kind, ¬IsKeyword kind word := by
  simp only [← ofKeyword?_eq_some_iff, Option.eq_none_iff_forall_ne_some, ne_eq]

/-- Text between parentheses: quotes and parentheses in it stand in pairs, and no comment begins in
it outside quotes. -/
inductive Enclosed : List Char → Prop
  | nil : Enclosed []
  | plain {c : Char} {text : List Char} : ¬(c = '\'' ∨ c = '"') → c ≠ '(' → c ≠ ')' →
      ¬OpensComment (c :: text) → Enclosed text → Enclosed (c :: text)
  | quoted {quote : Char} {inner text : List Char} : quote = '\'' ∨ quote = '"' → quote ∉ inner →
      Enclosed text → Enclosed (quote :: (inner ++ quote :: text))
  | group {inner text : List Char} : Enclosed inner → Enclosed text →
      Enclosed ('(' :: (inner ++ ')' :: text))

section

variable {started : Bool} {depth : Nat}

theorem topWords_dropWhile (inside : depth ≠ 0) (text : List Char) :
    topWords started depth (text.dropWhile Text.isBareLater) = topWords started depth text := by
  induction text with
  | nil => rfl
  | cons c rest ih =>
      by_cases later : Text.isBareLater c
      · rw [List.dropWhile_cons_of_pos later]
        by_cases start : Text.isBareStart c
        · rw [topWords_start start, if_neg inside]
        · -- Digits and dollar signs go on a word, but begin none.
          have unmarked : c ∉ marks := Text.not_mem_of_outside later (by decide)
          rw [ih, topWords_unmarked unmarked (by simpa using start)]
      · rw [List.dropWhile_cons_of_neg later]

theorem topWords_inside {c : Char} {rest : List Char} (inside : depth ≠ 0)
    (closed : ¬OpensComment (c :: rest)) (noQuote : ¬(c = '\'' ∨ c = '"')) (noOpening : c ≠ '(')
    (noClosing : c ≠ ')') :
    topWords started depth (c :: rest) = topWords started depth rest := by
  by_cases start : Text.isBareStart c
  · rw [topWords_start start, if_neg inside, topWords_dropWhile inside]
  · exact topWords_other closed noQuote noOpening noClosing (by simpa using start)

theorem not_opensComment_append {c : Char} {text more : List Char}
    (closed : ¬OpensComment (c :: text)) : ¬OpensComment (c :: (text ++ ')' :: more)) := by
  intro opens
  cases text with
  | nil => cases opens
  | cons d text =>
      apply closed
      cases opens with
      | line => exact .line
      | block => exact .block

/-- The scanner leaves a text in parentheses at the depth at which it enters it. -/
theorem Enclosed.topWords_eq {text : List Char} (enclosed : Enclosed text) (inside : depth ≠ 0)
    (more : List Char) :
    topWords true depth (text ++ ')' :: more) = topWords true depth (')' :: more) := by
  induction enclosed generalizing depth more with
  | nil => rfl
  | plain noQuote noOpening noClosing closed _ ih =>
      rw [List.cons_append, topWords_inside inside (not_opensComment_append closed) noQuote
        noOpening noClosing, ih inside]
  | quoted isQuote inside' _ ih =>
      rw [List.cons_append, List.append_assoc, List.cons_append, topWords_quoted isQuote inside',
        ih inside]
  | group _ _ ihInner ih =>
      rw [List.cons_append, List.append_assoc, List.cons_append, topWords_opening, if_pos rfl,
        ihInner (Nat.succ_ne_zero depth), topWords_closing, Nat.succ_sub_one, ih inside]

theorem Enclosed.topWords_group {text : List Char} (enclosed : Enclosed text)
    (more : List Char) :
    topWords true 0 ('(' :: (text ++ ')' :: more)) = topWords true 0 more := by
  rw [topWords_opening, if_pos rfl, enclosed.topWords_eq Nat.one_ne_zero, topWords_closing]

end

theorem topWords_word {started : Bool} {word rest : List Char} (bare : Ident.BareWord word)
    (stops : Text.Stops Text.isBareLater rest) :
    topWords started 0 (word ++ rest) = word :: topWords true 0 rest := by
  obtain ⟨first, later, rfl⟩ : ∃ first later, word = first :: later := by
    cases bare
    exact ⟨_, _, rfl⟩
  obtain ⟨start, inside⟩ := Ident.bareWord_cons_iff.mp bare
  rw [List.all_eq_true] at inside
  rw [List.cons_append, topWords_start start, if_pos rfl,
    Text.takeWhile_append_of_stops inside stops, Text.dropWhile_append_of_stops inside stops]

theorem topWords_double {started : Bool} {depth : Nat} (name rest : List Char) :
    topWords started depth ('"' :: (Ident.double name ++ '"' :: rest)) =
      topWords started depth rest := by
  refine @Ident.double_stretches
    (fun text => topWords started depth text = topWords started depth rest) ?_ rest rfl name
  intro inner text noQuote same
  rw [topWords_quoted (.inr rfl) noQuote, same]

theorem bareWord_of_spelled {word : String} {spelled : List Char} (keyword : Schema.Keyword word)
    (same : spelled.map Char.toLower = word.toList) : Ident.BareWord spelled := by
  have letters : ∀ c ∈ spelled, Ident.IsLetter c := by
    intro c member
    have inWord : c.toLower ∈ word.toList := by
      rw [← same]
      exact List.mem_map_of_mem member
    exact Ident.isAlpha_iff.mp (Schema.isAlpha_of_toLower (keyword.2 _ inWord) rfl)
  cases spelled with
  | nil => exact absurd same.symm keyword.1
  | cons first later =>
      obtain ⟨here, others⟩ := List.forall_mem_cons.mp letters
      exact .mk (.inl here) fun c member => .inl (others c member)

inductive Token
  | keyword (word : String)
  | name (name : Ident.Part)
  | group (inner : List Char)
  | comma

/-- A text is some tokens and then a rest. White space may stand anywhere between them, and a bare
word ends where it does not go on. -/
inductive Written (rest : List Char) : List Token → List Char → Prop
  | done : Written rest [] rest
  | blank {c : Char} {tokens : List Token} {text : List Char} : Text.isBlank c →
      Written rest tokens text → Written rest tokens (c :: text)
  | keyword {word : String} {spelled text : List Char} {tokens : List Token} :
      spelled.map Char.toLower = word.toList → Text.Stops Text.isBareLater text →
      Written rest tokens text → Written rest (.keyword word :: tokens) (spelled ++ text)
  | bare {name text : List Char} {tokens : List Token} : Text.Stops Text.isBareLater text →
      Written rest tokens text → Written rest (.name (.bare name) :: tokens) (name ++ text)
  | quoted {name text : List Char} {tokens : List Token} : Written rest tokens text →
      Written rest (.name (.quoted name) :: tokens) ('"' :: (Ident.double name ++ '"' :: text))
  | group {inner text : List Char} {tokens : List Token} : Written rest tokens text →
      Written rest (.group inner :: tokens) ('(' :: (inner ++ ')' :: text))
  | comma {text : List Char} {tokens : List Token} : Written rest tokens text →
      Written rest (.comma :: tokens) (',' :: text)

/-- A common table: its name, its columns if they are named, whether it is to be materialized if
that is said, and its body. A bare name begins no statement. -/
structure CommonTable where
  name : Ident.Part
  columns : Option (List Char)
  materialized : Option Bool
  body : List Char
  idleName : ∀ word, name = .bare word → Ident.BareWord word ∧ ∀ kind, ¬IsKeyword kind word
  enclosedColumns : ∀ inner, columns = some inner → Enclosed inner
  enclosedBody : Enclosed body

def hintTokens : Option Bool → List Token
  | none => []
  | some true => [.keyword "materialized"]
  | some false => [.keyword "not", .keyword "materialized"]

def CommonTable.tokens (table : CommonTable) : List Token :=
  .name table.name :: ((table.columns.map Token.group).toList ++
    .keyword "as" :: (hintTokens table.materialized ++ [.group table.body]))

def tableTokens : List CommonTable → List Token
  | [] => []
  | [table] => table.tokens
  | table :: others => table.tokens ++ .comma :: tableTokens others

def withTokens (recursive : Bool) (tables : List CommonTable) : List Token :=
  .keyword "with" :: ((if recursive then [.keyword "recursive"] else []) ++ tableTokens tables)

def Begins (kind : StatementKind) (statement : List Char) : Prop :=
  ∃ word rest, statement = word ++ rest ∧ IsKeyword kind word ∧
    Text.Stops Text.isBareLater rest

/-- The words of common tables that are no names. -/
def clauseWords : List String := ["recursive", "as", "not", "materialized"]

/-- A token that does not tell what kind of statement follows. -/
def Token.Idle : Token → Prop
  | keyword word => word ∈ clauseWords
  | name (.bare word) => Ident.BareWord word ∧ ∀ kind, ¬IsKeyword kind word
  | name (.quoted _) => True
  | group inner => Enclosed inner
  | comma => True

theorem idle_hintTokens (materialized : Option Bool) :
    ∀ token ∈ hintTokens materialized, token.Idle := by
  rcases materialized with _ | _ | _ <;> simp [hintTokens, Token.Idle, clauseWords]

theorem CommonTable.idle (table : CommonTable) : ∀ token ∈ table.tokens, token.Idle := by
  have name : (Token.name table.name).Idle := by
    cases part : table.name with
    | bare word => exact table.idleName word part
    | quoted => trivial
  have columns : ∀ token ∈ (table.columns.map Token.group).toList, token.Idle := by
    intro token member
    obtain ⟨inner, some, rfl⟩ := Option.map_eq_some_iff.mp (Option.mem_toList.mp member)
    exact table.enclosedColumns inner some
  have body : ∀ token ∈ [Token.group table.body], token.Idle := by
    simpa [Token.Idle] using table.enclosedBody
  have as : (Token.keyword "as").Idle := by
    simp [Token.Idle, clauseWords]
  rw [tokens]
  simp only [List.mem_cons, List.mem_append]
  rintro token (rfl | member | rfl | member | member)
  · exact name
  · exact columns token member
  · exact as
  · exact idle_hintTokens _ token member
  · exact body token (by simpa using member)

theorem idle_tableTokens (tables : List CommonTable) :
    ∀ token ∈ tableTokens tables, token.Idle := by
  fun_induction tableTokens tables with
  | case1 => simp
  | case2 table => exact table.idle
  | case3 table others _ ih =>
      intro token member
      rcases List.mem_append.mp member with here | later
      · exact table.idle token here
      · rcases List.mem_cons.mp later with rfl | later
        · trivial
        · exact ih token later

theorem idle_withTokens (recursive : Bool) (tables : List CommonTable) :
    ∀ token ∈ (withTokens recursive tables).tail, token.Idle := by
  intro token member
  rcases List.mem_append.mp member with inKeyword | inTables
  · cases recursive
    · cases inKeyword
    · rw [List.mem_singleton.mp inKeyword]
      simp [Token.Idle, clauseWords]
  · exact idle_tableTokens tables token inTables

theorem keyword_clauseWords : ∀ word ∈ clauseWords, Schema.Keyword word := by
  decide +kernel

theorem ofKeyword?_of_clauseWord {word : String} (member : word ∈ clauseWords)
    {spelled : List Char} (same : spelled.map Char.toLower = word.toList) :
    ofKeyword? spelled = none := by
  have table : ∀ word ∈ clauseWords,
      (keywords.find? fun entry => entry.2.any fun name => name.toList == word.toList) = none := by
    decide
  rw [ofKeyword?, same, table word member]
  rfl

theorem findSome?_written {rest text : List Char} {tokens : List Token}
    (written : Written rest tokens text) (idle : ∀ token ∈ tokens, token.Idle) :
    (topWords true 0 text).findSome? ofKeyword? = (topWords true 0 rest).findSome? ofKeyword? := by
  induction written with
  | done => rfl
  | blank white _ ih => rw [topWords_blank white, ih idle]
  | keyword same stops _ ih =>
      obtain ⟨here, later⟩ := List.forall_mem_cons.mp idle
      rw [topWords_word (bareWord_of_spelled (keyword_clauseWords _ here) same) stops,
        List.findSome?_cons, ofKeyword?_of_clauseWord here same]
      exact ih later
  | bare stops _ ih =>
      obtain ⟨⟨bare, noKeyword⟩, later⟩ := List.forall_mem_cons.mp idle
      rw [topWords_word bare stops, List.findSome?_cons, ofKeyword?_eq_none_iff.mpr noKeyword]
      exact ih later
  | quoted _ ih =>
      obtain ⟨_, later⟩ := List.forall_mem_cons.mp idle
      rw [← ih later]
      exact congrArg _ (topWords_double _ _)
  | group _ ih =>
      obtain ⟨enclosed, later⟩ := List.forall_mem_cons.mp idle
      rw [Enclosed.topWords_group enclosed, ih later]
  | comma _ ih =>
      obtain ⟨_, later⟩ := List.forall_mem_cons.mp idle
      rw [← ih later, topWords_unmarked (by decide) (by decide)]

theorem topWords_written {word : String} (keyword : Schema.Keyword word) {rest text : List Char}
    {tokens : List Token} (written : Written rest (.keyword word :: tokens) text) :
    ∃ spelled after, spelled.map Char.toLower = word.toList ∧ Written rest tokens after ∧
      topWords false 0 text = spelled :: topWords true 0 after := by
  generalize all : Token.keyword word :: tokens = whole at written
  induction written with
  | blank white _ ih =>
      obtain ⟨spelled, after, same, later, words⟩ := ih all
      exact ⟨spelled, after, same, later, by rw [topWords_blank white, words]⟩
  | keyword same stops later _ =>
      cases all
      exact ⟨_, _, same, later, topWords_word (bareWord_of_spelled keyword same) stops⟩
  | _ => cases all

theorem Begins.topWords_eq {kind : StatementKind} {statement : List Char}
    (begins : Begins kind statement) :
    ∃ word after, ofKeyword? word = some kind ∧
      ∀ started, topWords started 0 statement = word :: after := by
  obtain ⟨word, rest, rfl, names, stops⟩ := begins
  have bare : Ident.BareWord word := by
    obtain ⟨names, keyword, entry, member, same⟩ := names
    have table : ∀ entry ∈ keywords, ∀ keyword ∈ entry.2, Schema.Keyword keyword := by
      decide +kernel
    exact bareWord_of_spelled (table _ entry keyword member) same
  exact ⟨word, _, ofKeyword?_eq_some_iff.mpr names, fun started => topWords_word bare stops⟩

theorem not_isKeyword_with {kind : StatementKind} {word : List Char}
    (names : ofKeyword? word = some kind) : word.map Char.toLower ≠ "with".toList := by
  intro same
  have none : (keywords.find? fun entry =>
      entry.2.any fun name => name.toList == "with".toList) = none := by
    decide
  rw [ofKeyword?, same, none] at names
  cases names

theorem ofText_of_begins {kind : StatementKind} {statement : List Char}
    (begins : Begins kind statement) : ofText statement = kind := by
  obtain ⟨word, after, names, words⟩ := begins.topWords_eq
  simp only [ofText, words, if_neg (not_isKeyword_with names), names, Option.getD_some]

/-- A statement with common tables before it is of the kind that its main statement is of, and that
is the kind that the first keyword of the main statement begins. -/
theorem ofText_with {recursive : Bool} {tables : List CommonTable} {kind : StatementKind}
    {main statement : List Char} (begins : Begins kind main)
    (written : Written main (withTokens recursive tables) statement) :
    ofText statement = ofText main ∧ ofText main = kind := by
  obtain ⟨spelled, after, same, later, words⟩ := topWords_written (by decide +kernel) written
  obtain ⟨word, others, names, words'⟩ := begins.topWords_eq
  refine ⟨?_, ofText_of_begins begins⟩
  have found := findSome?_written later (idle_withTokens recursive tables)
  rw [words', List.findSome?_cons, names] at found
  rw [ofText_of_begins begins]
  simp only [ofText, words, same, if_true, found, Option.getD_some]

/-! A deletion behind a table. What is in quotes there would end the table, begin a comment and name
another kind. -/

theorem Enclosed.run {run text : List Char}
    (unmarked : ∀ c ∈ run, c ∉ marks) (enclosed : Enclosed text) : Enclosed (run ++ text) := by
  induction run with
  | nil => exact enclosed
  | cons c run ih =>
      obtain ⟨here, later⟩ := List.forall_mem_cons.mp unmarked
      exact .plain (not_quote_of_unmarked here) (ne_opening_of_unmarked here)
        (ne_closing_of_unmarked here) (not_opensComment_of_unmarked here) (ih later)

theorem enclosed_note : Enclosed "UPDATE t SET a = ') /* SELECT'".toList :=
  .run (show ∀ c ∈ "UPDATE t SET a = ".toList, _ by decide +kernel)
    (.quoted (.inl rfl) (show '\'' ∉ ") /* SELECT".toList by decide +kernel) .nil)

theorem enclosed_columns : Enclosed "a, \"b)\"".toList :=
  .run (show ∀ c ∈ "a, ".toList, _ by decide +kernel)
    (.quoted (.inr rfl) (show '"' ∉ "b)".toList by decide +kernel) .nil)

def changedNotes : CommonTable where
  name := .quoted "x)".toList
  columns := some "a, \"b)\"".toList
  materialized := some false
  body := "UPDATE t SET a = ') /* SELECT'".toList
  idleName := fun _ same => nomatch same
  enclosedColumns := fun _ same => Option.some.inj same ▸ enclosed_columns
  enclosedBody := enclosed_note

def deletion : List Char := "Delete FROM t".toList

def deletionBehindNotes : List Char :=
  ("WITH \"x)\"(a, \"b)\") AS not\nMATERIALIZED " ++
    "(UPDATE t SET a = ') /* SELECT')Delete FROM t").toList

theorem begins_deletion : Begins .delete deletion :=
  ⟨"Delete".toList, " FROM t".toList, rfl, ofKeyword?_eq_some_iff.mp (by decide),
    Text.stops_cons_iff.mpr (by decide)⟩

theorem written_deletionBehindNotes :
    Written deletion (withTokens false [changedNotes]) deletionBehindNotes := by
  have text : deletionBehindNotes =
      "WITH".toList ++ ' ' :: '"' :: (Ident.double "x)".toList ++ '"' :: '(' ::
        ("a, \"b)\"".toList ++ ')' :: ' ' :: ("AS".toList ++ ' ' :: ("not".toList ++ '\n' ::
          ("MATERIALIZED".toList ++ ' ' :: '(' :: ("UPDATE t SET a = ') /* SELECT'".toList ++
            ')' :: deletion)))))) := by
    decide
  have space : Text.isBlank ' ' := by decide
  have stops : ∀ c rest, Text.isBareLater c = false → Text.Stops Text.isBareLater (c :: rest) :=
    fun c rest outside => Text.stops_cons_iff.mpr outside
  rw [text]
  refine .keyword (by decide) (stops ' ' _ (by decide)) (.blank space (.quoted (.group ?_)))
  refine .blank space (.keyword (by decide) (stops ' ' _ (by decide)) (.blank space ?_))
  refine .keyword (by decide) (stops '\n' _ (by decide)) (.blank (by decide) ?_)
  refine .keyword (by decide) (stops ' ' _ (by decide)) (.blank space ?_)
  exact .group .done

theorem ofText_with_changedNotes :
    Begins .delete deletion ∧
      Written deletion (withTokens false [changedNotes]) deletionBehindNotes ∧
      ofText deletionBehindNotes = ofText deletion ∧ ofText deletion = .delete :=
  ⟨begins_deletion, written_deletionBehindNotes,
    ofText_with begins_deletion written_deletionBehindNotes⟩

end SqlTemplate.StatementKind
