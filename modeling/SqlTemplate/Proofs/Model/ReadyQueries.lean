import SqlTemplate.Proofs.Ident.Grammar
import SqlTemplate.Proofs.Model.Operations
import SqlTemplate.Proofs.Template.Plain
import SqlTemplate.Proofs.Text.Blank

/-!
The ready-made queries of models. Their texts are compiled like any other, the name of the table
with them, so they say what they should exactly when no placeholder stands in the name. Only a
quoted name can hold one.
-/

namespace SqlTemplate

variable {σ ρ τ : Type}

/-- Some placeholder stands in the name, if only in quotes. -/
def Entity.HoldsPlaceholder (entity : Entity) : Prop :=
  ∃ name tag, Placeholder.StandsIn name tag entity.name.toList

theorem Ident.nul_not_mem_of_read {text : List Char} {ident : Ident}
    (accepted : Ident.read text = .ok ident) : '\x00' ∉ text := by
  obtain ⟨rfl, _, wellFormed⟩ := Ident.read_eq_ok_iff.mp accepted
  exact Ident.nul_not_mem_textOf wellFormed

theorem Ident.ne_nil_of_read {text : List Char} {ident : Ident}
    (accepted : Ident.read text = .ok ident) : text ≠ [] := by
  rintro rfl
  cases accepted

@[simp]
theorem ParamType.ofTag_tag (type : ParamType) : ParamType.ofTag type.tag.toList = .ok type := by
  cases type <;> rfl

namespace Schema

theorem isNameChar_of_readName {text : List Char} : ∀ c ∈ (readName text).1, isNameChar c := by
  unfold readName
  split
  next => simp
  next rest _ =>
    dsimp only
    split
    next => simp
    next =>
      intro c member
      exact List.all_eq_true.mp List.all_takeWhile c member

theorem isNameChar_of_findHead? {inWord : Bool} {text : List Char} {head : Head}
    (found : findHead? inWord text = some head) : ∀ c ∈ head.name, isNameChar c := by
  fun_induction findHead? inWord text with
  | case1 => cases found
  | case2 inWord c rest here read =>
      cases found
      split at read
      next => cases read
      next =>
        unfold readHead? at read
        obtain ⟨_, _, read⟩ := Option.bind_eq_some_iff.mp read
        obtain ⟨⟨_, after⟩, _, read⟩ := Option.bind_eq_some_iff.mp read
        cases read
        exact isNameChar_of_readName
  | case3 inWord c rest _ ih => exact ih found

theorem name_of_entityOf {text fallback : String} {entity : Entity}
    (read : entityOf text fallback = .ok entity) :
    entity.name = fallback ∨ ∀ c ∈ entity.name.toList, isNameChar c := by
  unfold entityOf at read
  split at read
  next => cases read
  next head found =>
    by_cases unnamed : head.name.isEmpty
    · simp only [unnamed, if_true] at read
      split at read
      next => cases read
      next =>
        cases read
        exact Or.inl rfl
    · simp only [unnamed, Bool.false_eq_true, if_false] at read
      split at read
      next => cases read
      next =>
        cases read
        rw [String.toList_ofList]
        exact Or.inr (isNameChar_of_findHead? found)

end Schema

theorem Entity.not_holdsPlaceholder_of_nameChars {entity : Entity}
    (named : ∀ c ∈ entity.name.toList, Schema.isNameChar c) : ¬entity.HoldsPlaceholder := by
  rintro ⟨name, tag, stands⟩
  exact absurd (named '(' stands.opening_mem.2) (by decide)

namespace Model

theorem split_findText (table : Ident) :
    Piece.split (findText table).toList =
      "SELECT * FROM ".toList.map .char ++ Piece.split table.text := by
  have plain : ∀ c ∈ "SELECT * FROM ".toList, c ≠ '$' ∧ c ≠ '\x00' := by decide +kernel
  rw [findText, String.toList_append, @String.toList_ofList table.text,
    Piece.split_plain_append plain]

theorem marked_key {key : List Char} (filled : key ≠ []) (words : ∀ c ∈ key, Text.isAsciiWord c)
    (type : ParamType) {rest : List Char} (stops : Text.Stops Text.isWord rest) :
    Placeholder.Marked ('$' :: '(' :: (key ++ ')' :: ':' :: (type.tag.toList ++ rest))) key
      (some type.tag.toList) rest := by
  refine .tagged filled ?_ ?_ ?_ stops
  · intro c member
    exact Or.inl (Text.isWord_of_isAsciiWord (words c member))
  · cases type <;> decide
  · exact List.all_eq_true.mp (by cases type <;> decide +kernel)

theorem split_findOneText {table key : Ident} {settings : Settings}
    (keyText : key.text = settings.key.toList) (filled : settings.key.toList ≠ [])
    (words : ∀ c ∈ settings.key.toList, Text.isAsciiWord c) :
    Piece.split (findOneText table key settings).toList =
      Piece.split (findText table).toList ++
        ((" WHERE ".toList ++ settings.key.toList ++ " = ".toList).map .char ++
          .mark (.named settings.key.toList (some settings.keyType.tag.toList)) ::
            " LIMIT 1".toList.map .char) := by
  have condition : (findOneText table key settings).toList = (findText table).toList ++
      ((" WHERE ".toList ++ settings.key.toList ++ " = ".toList) ++
        ('$' :: '(' :: (settings.key.toList ++ ')' :: ':' ::
          (settings.keyType.tag.toList ++ " LIMIT 1".toList)))) := by
    simp [findOneText, keyText]
  have fixed : ∀ c ∈ " WHERE ".toList ++ " = ".toList, c ≠ '$' ∧ c ≠ '\x00' := by decide +kernel
  have plain : ∀ c ∈ " WHERE ".toList ++ settings.key.toList ++ " = ".toList,
      c ≠ '$' ∧ c ≠ '\x00' := by
    intro c member
    rw [List.mem_append, List.mem_append] at member
    rcases member with (inWhere | inKey) | inEquals
    · exact fixed c (List.mem_append_left _ inWhere)
    · have word := words c inKey
      constructor <;> (rintro rfl; revert word; decide)
    · exact fixed c (List.mem_append_right _ inEquals)
  have limit : Piece.split " LIMIT 1".toList = " LIMIT 1".toList.map .char := by
    have markless := Piece.split_plain_append
      (show ∀ c ∈ " LIMIT 1".toList, c ≠ '$' ∧ c ≠ '\x00' by decide +kernel) []
    simpa using markless
  have limitStops : Text.Stops Text.isWord " LIMIT 1".toList := by
    exact Text.stops_cons_iff.mpr (by decide)
  have key := marked_key filled words settings.keyType limitStops
  -- No placeholder reaches over the space before the condition.
  rw [condition, Piece.split_append _ (by exact Text.stops_cons_iff.mpr (by decide)),
    Piece.split_plain_append plain, Piece.split_of_read? (Placeholder.marked_iff_read?.mp key),
    limit]

theorem parse_of_query {database : Database σ ρ} {text : String} {name : Option String}
    {query : Query σ ρ} (made : database.query text name = .ok query) :
    Statement.parse text = .ok query.statement := by
  unfold Database.query at made
  cases parsed : Statement.parse text with
  | error e =>
      rw [parsed] at made
      cases made
  | ok statement =>
      rw [parsed] at made
      cases made
      rfl

theorem exists_query_iff {database : Database σ ρ} {text : String} {name : Option String} :
    (∃ query, database.query text name = .ok query) ↔
      ∃ statement : Statement (Compute σ), Statement.parse text = .ok statement := by
  constructor
  · rintro ⟨query, made⟩
    exact ⟨query.statement, parse_of_query made⟩
  · rintro ⟨statement, parsed⟩
    refine ⟨database.bind statement name, ?_⟩
    rw [Database.query, parsed]
    rfl

theorem require_of_read {text : String} {ident : Ident}
    (read : Ident.read text.toList = .ok ident) : Ident.require text = .ok ident := by
  rw [Ident.require, read]

structure Made (database : Database σ ρ) (entity : Entity) (model : Model σ ρ) : Prop where
  table : Ident.read entity.name.toList = .ok model.table
  key : Ident.read database.settings.key.toList = .ok model.key
  words : ∀ c ∈ database.settings.key.toList, Text.isAsciiWord c
  find : Statement.parse (findText model.table) = .ok model.find.statement
  findOne : Statement.parse (findOneText model.table model.key database.settings) =
    .ok model.findOne.statement

theorem made_of_ofEntity {database : Database σ ρ} {entity : Entity} {model : Model σ ρ}
    (made : ofEntity database entity = .ok model) : Made database entity model := by
  unfold ofEntity at made
  obtain ⟨table, tableRead, made⟩ := Result.bind_eq_ok_iff.mp made
  obtain ⟨key, keyRead, made⟩ := Result.bind_eq_ok_iff.mp made
  split at made
  next words =>
    obtain ⟨find, findMade, made⟩ := Result.bind_eq_ok_iff.mp made
    obtain ⟨findOne, findOneMade, made⟩ := Result.bind_eq_ok_iff.mp made
    cases made
    exact ⟨read_of_require tableRead, read_of_require keyRead, List.all_eq_true.mp words,
      parse_of_query findMade, parse_of_query findOneMade⟩
  next => cases made

theorem exists_ofEntity_iff {database : Database σ ρ} {entity : Entity} :
    (∃ model, ofEntity database entity = .ok model) ↔
      ∃ table key, Ident.read entity.name.toList = .ok table ∧
        Ident.read database.settings.key.toList = .ok key ∧
        (∀ c ∈ database.settings.key.toList, Text.isAsciiWord c) ∧
        (∃ statement : Statement (Compute σ), Statement.parse (findText table) = .ok statement) ∧
        ∃ statement : Statement (Compute σ),
          Statement.parse (findOneText table key database.settings) = .ok statement := by
  constructor
  · rintro ⟨model, made⟩
    obtain ⟨table, key, words, find, findOne⟩ := made_of_ofEntity made
    exact ⟨model.table, model.key, table, key, words, ⟨_, find⟩, ⟨_, findOne⟩⟩
  · rintro ⟨table, key, tableRead, keyRead, words, find, findOne⟩
    obtain ⟨find, findMade⟩ : ∃ query, database.query (findText table)
        (some (operationName entity "find")) = .ok query := exists_query_iff.mpr find
    obtain ⟨findOne, findOneMade⟩ : ∃ query, database.query
        (findOneText table key database.settings) (some (operationName entity "find_one")) =
          .ok query := exists_query_iff.mpr findOne
    refine ⟨⟨database, entity, table, key, database.settings.hooks database.emit, find, findOne⟩,
      ?_⟩
    simp only [ofEntity, require_of_read tableRead, require_of_read keyRead,
      if_pos (List.all_eq_true.mpr words), findMade, findOneMade, bind, Except.bind]

theorem mem_split_findText_iff {table : Ident} {placeholder : Placeholder} :
    .mark placeholder ∈ Piece.split (findText table).toList ↔
      .mark placeholder ∈ Piece.split table.text := by
  rw [split_findText, List.mem_append]
  simp

theorem findText_eq {entity : Entity} {table : Ident}
    (read : Ident.read entity.name.toList = .ok table) :
    findText table = "SELECT * FROM " ++ entity.name := by
  rw [findText, Ident.text_of_read read, String.ofList_toList]

theorem not_holdsPlaceholder_iff {entity : Entity} {table : Ident}
    (read : Ident.read entity.name.toList = .ok table) :
    ¬entity.HoldsPlaceholder ↔
      ∀ placeholder, .mark placeholder ∉ Piece.split (findText table).toList := by
  simp only [mem_split_findText_iff, Ident.text_of_read read,
    Placeholder.markless_iff (Ident.nul_not_mem_of_read read), Entity.HoldsPlaceholder, not_exists]

variable {database : Database σ ρ} {entity : Entity} {model : Model σ ρ}

theorem Made.split_findOne (made : Made database entity model) :
    Piece.split (findOneText model.table model.key database.settings).toList =
      Piece.split (findText model.table).toList ++
        ((" WHERE ".toList ++ database.settings.key.toList ++ " = ".toList).map .char ++
          .mark (.named database.settings.key.toList
            (some database.settings.keyType.tag.toList)) :: " LIMIT 1".toList.map .char) :=
  split_findOneText (Ident.text_of_read made.key) (Ident.ne_nil_of_read made.key) made.words

theorem Made.find_iff (made : Made database entity model) :
    model.find.statement = ⟨"SELECT * FROM " ++ entity.name, []⟩ ↔ ¬entity.HoldsPlaceholder := by
  rw [not_holdsPlaceholder_iff made.table, ← Statement.parse_eq_plain_iff (τ := Compute σ),
    made.find, findText_eq made.table, Except.ok.injEq]

theorem resolve_key (slots : List (Option τ)) (settings : Settings) :
    Template.resolve slots (.named settings.key.toList (some settings.keyType.tag.toList)) =
      .ok (.ofName settings.key settings.keyType, slots) := by
  rw [Template.resolve, ParamType.ofTagIfAny, ParamType.ofTag_tag, String.ofList_toList]
  rfl

theorem Made.findOne_iff (made : Made database entity model) :
    model.findOne.statement =
        ⟨"SELECT * FROM " ++ entity.name ++ " WHERE " ++ database.settings.key ++
          " = $1 LIMIT 1", [.ofName database.settings.key database.settings.keyType]⟩ ↔
      ¬entity.HoldsPlaceholder := by
  rw [not_holdsPlaceholder_iff made.table]
  constructor
  · intro same
    obtain ⟨segments, resolved, written⟩ := Statement.parse_eq_ok_iff.mp made.findOne
    have marks := (Template.resolved_of_resolveAll resolved).length_params
    rw [same] at written
    have one : (Statement.paramsOf segments).length = 1 :=
      congrArg (fun statement => statement.params.length) written.symm
    rw [one, made.split_findOne] at marks
    apply Template.not_mem_of_markCount_eq_zero
    simp only [Template.markCount_append, Template.markCount] at marks
    omega
  · intro markless
    have split := made.split_findOne
    rw [Piece.split_of_markless markless, ← List.append_assoc, ← List.map_append] at split
    have parsed := made.findOne
    rw [Statement.parse_one_mark split (resolve_key [] database.settings),
      Except.ok.injEq] at parsed
    rw [← parsed, Statement.mk.injEq, findText_eq made.table, ← String.toList_inj]
    simp

/-- A model is made unless a name is not an identifier, the key is not a name of placeholders, or a
placeholder in the name of the table has a tag that names no type. -/
theorem exists_model_iff :
    (∃ model, ofEntity database entity = .ok model) ↔
      (∃ table, Ident.read entity.name.toList = .ok table) ∧
      (∃ key, Ident.read database.settings.key.toList = .ok key) ∧
      (∀ c ∈ database.settings.key.toList, Text.isAsciiWord c) ∧
      ∀ name tag, Placeholder.StandsIn name (some tag) entity.name.toList →
        Template.Direct.IsTag tag := by
  rw [exists_ofEntity_iff]
  constructor
  · rintro ⟨table, key, tableRead, keyRead, words, find, _⟩
    refine ⟨⟨table, tableRead⟩, ⟨key, keyRead⟩, words, ?_⟩
    rw [Statement.exists_parse_iff] at find
    simp only [mem_split_findText_iff, Ident.text_of_read tableRead] at find
    exact (Placeholder.allKnown_iff (Ident.nul_not_mem_of_read tableRead)).mp find
  · rintro ⟨⟨table, tableRead⟩, ⟨key, keyRead⟩, words, known⟩
    have find : ∀ placeholder, .mark placeholder ∈ Piece.split (findText table).toList →
        placeholder.Known := by
      simp only [mem_split_findText_iff, Ident.text_of_read tableRead]
      exact (Placeholder.allKnown_iff (Ident.nul_not_mem_of_read tableRead)).mpr known
    refine ⟨table, key, tableRead, keyRead, words, Statement.exists_parse_iff.mpr find,
      Statement.exists_parse_iff.mpr ?_⟩
    intro placeholder member
    rw [split_findOneText (Ident.text_of_read keyRead) (Ident.ne_nil_of_read keyRead) words]
      at member
    simp only [List.mem_append, List.mem_cons, List.mem_map, reduceCtorEq, and_false, exists_false,
      false_or, or_false, Piece.mark.injEq] at member
    rcases member with inTable | rfl
    · exact find placeholder inTable
    · exact ⟨database.settings.keyType, by cases database.settings.keyType <;> rfl⟩

/-- The ready-made queries of a model find what they should exactly when no placeholder stands in
the name of the table. A model is made of any names that are identifiers, the key being a name of
placeholders, unless a placeholder in the name of the table has a tag that names no type. A name
that a schema gives holds no placeholder; only one from elsewhere may. -/
theorem ready_queries (database : Database σ ρ) (entity : Entity) :
    (∀ model, ofEntity database entity = .ok model →
      (model.find.statement = ⟨"SELECT * FROM " ++ entity.name, []⟩ ↔
        ¬entity.HoldsPlaceholder) ∧
      (model.findOne.statement =
          ⟨"SELECT * FROM " ++ entity.name ++ " WHERE " ++ database.settings.key ++
            " = $1 LIMIT 1", [.ofName database.settings.key database.settings.keyType]⟩ ↔
        ¬entity.HoldsPlaceholder)) ∧
    ((∃ model, ofEntity database entity = .ok model) ↔
      (∃ table, Ident.read entity.name.toList = .ok table) ∧
      (∃ key, Ident.read database.settings.key.toList = .ok key) ∧
      (∀ c ∈ database.settings.key.toList, Text.isAsciiWord c) ∧
      ∀ name tag, Placeholder.StandsIn name (some tag) entity.name.toList →
        Template.Direct.IsTag tag) ∧
    ∀ text fallback, Schema.entityOf text fallback = .ok entity →
      entity.name = fallback ∨ ¬entity.HoldsPlaceholder := by
  refine ⟨?_, exists_model_iff, ?_⟩
  · intro model made
    exact ⟨(made_of_ofEntity made).find_iff, (made_of_ofEntity made).findOne_iff⟩
  · intro text fallback read
    exact (Schema.name_of_entityOf read).imp_right Entity.not_holdsPlaceholder_of_nameChars

theorem ready_queries_users :
    ∃ model, ofEntity emptyDatabase usersTable = .ok model ∧
      ¬usersTable.HoldsPlaceholder ∧
      model.find.statement = ⟨"SELECT * FROM users", []⟩ ∧
      model.findOne.statement =
        ⟨"SELECT * FROM users WHERE id = $1 LIMIT 1", [.ofName "id" .integer]⟩ := by
  obtain ⟨queries, _, named⟩ := ready_queries emptyDatabase usersTable
  have read : Schema.entityOf "CREATE TABLE users" "other" = .ok usersTable :=
    Result.eq_ok_of_toOption (by decide +kernel)
  have plain : ¬usersTable.HoldsPlaceholder :=
    (named "CREATE TABLE users" "other" read).resolve_left (by decide)
  have accepts : (ofEntity emptyDatabase usersTable).toOption.isSome = true := by decide +kernel
  cases made : ofEntity emptyDatabase usersTable with
  | error e => rw [made] at accepts; cases accepts
  | ok model =>
      obtain ⟨find, findOne⟩ := queries model made
      exact ⟨model, rfl, plain, find.mpr plain, findOne.mpr plain⟩

def dollarTable : Entity := ⟨"\"a$(x)\"", .table, [⟨"a", "int", .integer⟩]⟩

/-- A marker takes the place of a part of the name, and the query has a parameter of that name. A
type that is not known keeps the model from being made. -/
theorem quoted_placeholder_compiled :
    (Schema.entityOf "CREATE TABLE (a int)" "\"a$(x)\"").toOption = some dollarTable ∧
    ((ofEntity emptyDatabase dollarTable).toOption.map fun model =>
        (model.find.statement.text, model.find.statement.namedParams,
          model.findOne.statement.text, model.findOne.statement.namedParams)) =
      some ("SELECT * FROM \"a$1\"", ["x"],
        "SELECT * FROM \"a$1\" WHERE id = $2 LIMIT 1", ["x", "id"]) ∧
    (Ident.read "\"a$(x):money\"".toList).toOption.isSome ∧
    (ofEntity emptyDatabase ⟨"\"a$(x):money\"", .table, []⟩).toOption.isNone := by
  refine ⟨?_, ?_, ?_, ?_⟩ <;> decide +kernel

end Model

end SqlTemplate
