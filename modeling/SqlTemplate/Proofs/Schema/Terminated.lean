import SqlTemplate.Proofs.Schema.Views

/-!
The semicolon at the end of a statement. Tables do not see it, nor does a view with a `from` behind
its select list. A list that goes on to the end of the text takes it into its last item, and with it
the item has no name.
-/

namespace SqlTemplate.Schema

@[simp] theorem findHead?_semicolon (text : String) :
    findHead? false (text ++ ";").toList =
      (findHead? false text.toList).map fun head => head.followedBy [';'] := by
  have nothing : ∀ inWord, findHead? inWord ";".toList = none := by
    intro inWord
    have unread : readHead? [';'] = none := rfl
    cases inWord <;> simp [findHead?, unread]
  rw [String.toList_append]
  exact findHead?_followed (by decide) (by decide) (by decide) nothing false text.toList

@[simp] theorem untilClosed?_semicolon (nesting : Nesting) (text : List Char) :
    untilClosed? nesting (text ++ [';']) = untilClosed? nesting text := by
  induction text generalizing nesting with
  | nil => simp [untilClosed?]
  | cons c text ih => rw [List.cons_append, untilClosed?, untilClosed?, ih]

@[simp] theorem tableColumns_semicolon (text : List Char) :
    tableColumns (text ++ [';']) = tableColumns text := by
  have body : body? (text ++ [';']) = body? text := by
    rw [body?, body?, List.dropWhile_append]
    cases text.dropWhile (· != '(') with
    | nil => rfl
    | cons c rest => exact untilClosed?_semicolon ⟨none, 1⟩ rest
  rw [tableColumns, tableColumns, body]

theorem splitAtKeyword?_semicolon {keyword : String} (word : Keyword keyword) (text : List Char) :
    splitAtKeyword? keyword.toList false .outside (text ++ [';']) =
      (splitAtKeyword? keyword.toList false .outside text).map
        fun (before, after) => (before, after ++ [';']) := by
  have stops : Text.Stops Text.isBareLater [';'] := by decide
  exact splitAtKeyword?_followed word stops
    (fun inWord nesting => splitAtKeyword?_cons word (by decide) inWord nesting [])
    false .outside text

theorem exists_pieces_semicolon (nesting : Nesting) (text : List Char) :
    ∃ earlier last, pieces nesting text = earlier ++ [last] ∧
      pieces nesting (text ++ [';']) = earlier ++ [last ++ [';']] := by
  induction text generalizing nesting with
  | nil => exact ⟨[], [], rfl, by simp [pieces]⟩
  | cons c text ih =>
      rw [List.cons_append, pieces, pieces]
      split
      next =>
        obtain ⟨earlier, last, same, same'⟩ := ih nesting
        exact ⟨[] :: earlier, last, by rw [same]; rfl, by rw [same']; rfl⟩
      next =>
        obtain ⟨earlier, last, same, same'⟩ := ih (nesting.step c)
        rw [same, same']
        cases earlier with
        | nil => exact ⟨[], c :: last, rfl, rfl⟩
        | cons piece earlier => exact ⟨(c :: piece) :: earlier, last, rfl, rfl⟩

@[simp]
theorem itemName?_semicolon (piece : List Char) :
    itemName? (Text.trim (piece ++ [';'])) = none := by
  have foreign : EndsNoName ';' := by decide
  have stops : Text.Stops Text.isBlank [';'] := by decide
  have trimmed : Text.trim (piece ++ [';']) = Text.trimLeft piece ++ [';'] := by
    rw [Text.trim, Text.trimLeft, stops.dropWhile_append, ← Text.trimLeft, Text.trimRight_eq_self]
    simpa using stops.append_of_ne_nil (List.cons_ne_nil _ _) (Text.trimLeft piece).reverse
  have last : (Text.trimLeft piece ++ [';']).getLast? = some ';' := List.getLast?_concat
  have ends : Text.Stops Text.isBlank (Text.trimLeft piece ++ [';']).reverse := by
    simpa using stops.append_of_ne_nil (List.cons_ne_nil _ _) (Text.trimLeft piece).reverse
  have noAlias : alias? (Text.trimLeft piece ++ [';']) = none := by
    rw [Option.eq_none_iff_forall_ne_some]
    intro name found
    obtain ⟨_, label, _, inAlias⟩ := (alias?_eq_some_iff ends).mp found
    exact inAlias.getLast?_ne foreign last
  have noReference : referenceName? (Text.trimLeft piece ++ [';']) = none := by
    rw [Option.eq_none_iff_forall_ne_some]
    intro name found
    obtain ⟨ident, refers⟩ := exists_refers found
    exact refers.getLast?_ne foreign last
  rw [trimmed, itemName?, noAlias, noReference]
  rfl

def selected (pieces : List (List Char)) : List Column :=
  pieces.filterMap fun piece => (itemName? (Text.trim piece)).map fun name => ⟨name, "", .unknown⟩

theorem viewColumns_eq (text : List Char) :
    viewColumns text = ((selectList? text).map fun list =>
      distinct [] (selected (pieces .outside list))).getD [] := by
  rw [viewColumns]
  cases selectList? text with
  | none => rfl
  | some list =>
      simp only [items, List.filterMap_filter, List.filterMap_map, Option.map_some,
        Option.getD_some, selected]
      congr 2
      funext piece
      simp only [Function.comp]
      cases Text.trim piece <;> rfl

theorem mem_names_selected_iff {pieces : List (List Char)} {name : String} :
    name ∈ (selected pieces).map Column.name ↔
      ∃ piece ∈ pieces, itemName? (Text.trim piece) = some name := by
  simp only [selected, List.mem_map, List.mem_filterMap, Option.map_eq_some_iff]
  constructor
  · rintro ⟨_, ⟨piece, member, given, named, rfl⟩, rfl⟩
    exact ⟨piece, member, named⟩
  · rintro ⟨piece, member, named⟩
    exact ⟨_, ⟨piece, member, name, named, rfl⟩, rfl⟩

theorem selected_concat {earlier : List (List Char)} {last : List Char} {name : String}
    (named : itemName? (Text.trim last) = some name) :
    selected (earlier ++ [last]) = selected earlier ++ [⟨name, "", .unknown⟩] := by
  simp [selected, named]

/-- The select list of a view, from the text after the head, goes on to the end of the text. -/
def OpenList (text list : List Char) : Prop :=
  ∃ before after, splitAtKeyword? "select".toList false .outside text = some (before, after) ∧
    skipDistinct after = list ∧ splitAtKeyword? "from".toList false .outside list = none

/-- Of the items of an open list, the last one gives a column of its own. -/
def LastGives (text : List Char) (name : String) : Prop :=
  ∃ list earlier last, OpenList text list ∧ pieces .outside list = earlier ++ [last] ∧
    itemName? (Text.trim last) = some name ∧
    ∀ piece ∈ earlier, itemName? (Text.trim piece) ≠ some name

@[simp] theorem skipDistinct_semicolon (text : List Char) :
    skipDistinct (text ++ [';']) = skipDistinct text ++ [';'] := by
  rw [skipDistinct, skipDistinct, splitAtKeyword?_semicolon (by decide)]
  cases splitAtKeyword? "distinct".toList false .outside text with
  | none => rfl
  | some parts =>
      simp only [Option.map_some]
      split <;> rfl

theorem OpenList.selectList?_eq {text list : List Char} (opened : OpenList text list) :
    selectList? text = some list ∧ selectList? (text ++ [';']) = some (list ++ [';']) := by
  obtain ⟨before, after, select, rfl, unended⟩ := opened
  rw [selectList?, selectList?, splitAtKeyword?_semicolon (by decide), select]
  simp only [Option.map_some, skipDistinct_semicolon, cutFrom,
    splitAtKeyword?_semicolon keyword_from, unended, Option.map_none, and_self]

theorem selectList?_semicolon {text : List Char} (closed : ∀ list, ¬OpenList text list) :
    selectList? (text ++ [';']) = selectList? text := by
  rw [selectList?, selectList?, splitAtKeyword?_semicolon (by decide)]
  cases select : splitAtKeyword? "select".toList false .outside text with
  | none => rfl
  | some parts =>
      cases ended : splitAtKeyword? "from".toList false .outside (skipDistinct parts.2) with
      | none => exact absurd ⟨parts.1, parts.2, select, rfl, ended⟩ (closed _)
      | some cut =>
          simp only [Option.map_some, skipDistinct_semicolon, cutFrom,
            splitAtKeyword?_semicolon keyword_from, ended]

theorem OpenList.viewColumns_eq {text list : List Char} (opened : OpenList text list) :
    ∃ earlier last, pieces .outside list = earlier ++ [last] ∧
      viewColumns text = distinct [] (selected (earlier ++ [last])) ∧
      viewColumns (text ++ [';']) = distinct [] (selected earlier) := by
  obtain ⟨whole, whole'⟩ := opened.selectList?_eq
  obtain ⟨earlier, last, parts, parts'⟩ := exists_pieces_semicolon .outside list
  refine ⟨earlier, last, parts, ?_, ?_⟩
  · rw [Schema.viewColumns_eq, whole, Option.map_some, parts, Option.getD_some]
  · rw [Schema.viewColumns_eq, whole', Option.map_some, parts', Option.getD_some]
    simp [selected]

theorem LastGives.viewColumns_eq {text : List Char} {name : String} (gives : LastGives text name) :
    viewColumns text = viewColumns (text ++ [';']) ++ [⟨name, "", .unknown⟩] := by
  obtain ⟨list, earlier, last, opened, parts, named, new⟩ := gives
  obtain ⟨earlier', last', parts', columns, columns'⟩ := opened.viewColumns_eq
  rw [parts] at parts'
  obtain ⟨rfl, rfl⟩ : earlier = earlier' ∧ last = last' := by simpa using parts'
  have fresh : name ∉ (selected earlier).map Column.name := by
    rw [mem_names_selected_iff]
    rintro ⟨piece, member, same⟩
    exact new piece member same
  rw [columns, columns', selected_concat named, distinct_concat]
  simp [fresh]

theorem viewColumns_semicolon {text : List Char} (loses : ∀ name, ¬LastGives text name) :
    viewColumns (text ++ [';']) = viewColumns text := by
  by_cases opened : ∃ list, OpenList text list
  · obtain ⟨list, opened⟩ := opened
    obtain ⟨earlier, last, parts, columns, columns'⟩ := opened.viewColumns_eq
    rw [columns, columns']
    cases named : itemName? (Text.trim last) with
    | none => simp [selected, named]
    | some name =>
        rw [selected_concat named, distinct_concat]
        by_cases known : name ∈ (selected earlier).map Column.name
        · simp [known]
        · rw [mem_names_selected_iff] at known
          exact absurd ⟨list, earlier, last, opened, parts, named,
            fun piece member same => known ⟨piece, member, same⟩⟩ (loses name)
  · have same := selectList?_semicolon (not_exists.mp opened)
    rw [viewColumns_eq, same, ← viewColumns_eq]

/-- A text creates a view, nothing stands behind its select list, and the last item of the list
gives a column of its own. -/
def EndsInColumn (text name : String) : Prop :=
  ∃ head, findHead? false text.toList = some head ∧ head.kind = .view ∧ LastGives head.rest name

namespace Head

variable (head : Head)

def nameOr (fallback : String) : String :=
  if head.name.isEmpty then fallback else String.ofList head.name

def columns : List Column :=
  match head.kind with
  | .table => tableColumns head.rest
  | .view => viewColumns head.rest

theorem columns_semicolon (loses : head.kind = .view → ∀ name, ¬LastGives head.rest name) :
    (head.followedBy [';']).columns = head.columns := by
  rw [columns, columns, followedBy]
  cases kind : head.kind with
  | table => exact tableColumns_semicolon head.rest
  | view => exact viewColumns_semicolon (loses kind)

theorem columns_of_lastGives {name : String} (view : head.kind = .view)
    (gives : LastGives head.rest name) :
    head.columns = (head.followedBy [';']).columns ++ [⟨name, "", .unknown⟩] := by
  rw [columns, columns, followedBy]
  simp only [view]
  exact gives.viewColumns_eq

end Head

theorem entityOf_of_findHead? {text : String} {head : Head}
    (found : findHead? false text.toList = some head) (fallback : String) :
    entityOf text fallback = if (head.nameOr fallback).isEmpty then .error .noName
      else .ok ⟨head.nameOr fallback, head.kind, head.columns⟩ := by
  rw [entityOf, found]
  rfl

theorem entityOf_semicolon_of_findHead? {text : String} {head : Head}
    (found : findHead? false text.toList = some head) (fallback : String) :
    entityOf (text ++ ";") fallback = if (head.nameOr fallback).isEmpty then .error .noName
      else .ok ⟨head.nameOr fallback, head.kind, (head.followedBy [';']).columns⟩ := by
  rw [entityOf, findHead?_semicolon, found]
  rfl

theorem EndsInColumn.entityOf_semicolon {text name : String} (ends : EndsInColumn text name)
    {fallback : String} {entity : Entity} (read : entityOf text fallback = .ok entity) :
    ∃ columns, entity.columns = columns ++ [⟨name, "", .unknown⟩] ∧
      entityOf (text ++ ";") fallback = .ok { entity with columns } := by
  obtain ⟨head, found, view, gives⟩ := ends
  rw [entityOf_of_findHead? found] at read
  rw [entityOf_semicolon_of_findHead? found]
  split at read
  next => cases read
  next named =>
    cases read
    exact ⟨_, head.columns_of_lastGives view gives, if_neg named⟩

theorem entityOf_semicolon {text fallback : String}
    (kept : ∀ entity name, entityOf text fallback = .ok entity → ¬EndsInColumn text name) :
    entityOf (text ++ ";") fallback = entityOf text fallback := by
  cases found : findHead? false text.toList with
  | none => rw [entityOf, entityOf, findHead?_semicolon, found, Option.map_none]
  | some head =>
      rw [entityOf_of_findHead? found] at kept ⊢
      rw [entityOf_semicolon_of_findHead? found]
      split at kept
      next unnamed => rw [if_pos unnamed, if_pos unnamed]
      next named =>
        have loses : head.kind = .view → ∀ name, ¬LastGives head.rest name :=
          fun view name gives => kept _ name rfl ⟨head, found, view, gives⟩
        rw [head.columns_semicolon loses]

/-- A semicolon behind a text changes nothing, unless the text ends in a column: then the entity
loses this column, and nothing else. -/
theorem terminated_iff (text fallback : String) :
    (entityOf (text ++ ";") fallback = entityOf text fallback ↔
      ∀ entity name, entityOf text fallback = .ok entity → ¬EndsInColumn text name) ∧
    ∀ entity name, entityOf text fallback = .ok entity → EndsInColumn text name →
      ∃ columns, entity.columns = columns ++ [⟨name, "", .unknown⟩] ∧
        entityOf (text ++ ";") fallback = .ok { entity with columns } := by
  refine ⟨⟨?_, entityOf_semicolon⟩, fun entity name read ends => ends.entityOf_semicolon read⟩
  intro same entity name read ends
  obtain ⟨columns, whole, less⟩ := ends.entityOf_semicolon read
  rw [less, read, Except.ok.injEq] at same
  have shorter := congrArg Entity.columns same
  rw [whole] at shorter
  simp at shorter

theorem terminated_iff_two :
    ∃ entity columns, entityOf "CREATE VIEW v AS SELECT a, b" "t" = .ok entity ∧
      EndsInColumn "CREATE VIEW v AS SELECT a, b" "b" ∧
      entity.columns = columns ++ [⟨"b", "", .unknown⟩] ∧
      entityOf ("CREATE VIEW v AS SELECT a, b" ++ ";") "t" = .ok { entity with columns } := by
  have ends : EndsInColumn "CREATE VIEW v AS SELECT a, b" "b" :=
    ⟨_, rfl, rfl, " a, b".toList, [" a".toList], " b".toList,
      ⟨" AS ".toList, " a, b".toList, by decide, by decide, by decide⟩, by decide, by decide,
      by decide⟩
  obtain ⟨columns, whole, less⟩ :=
    (terminated_iff "CREATE VIEW v AS SELECT a, b" "t").2 _ "b" rfl ends
  exact ⟨_, columns, rfl, ends, whole, less⟩

theorem column_lost_to_semicolon :
    (entityOf "CREATE VIEW v AS SELECT a" "t").toOption =
        some ⟨"v", .view, [⟨"a", "", .unknown⟩]⟩ ∧
      (entityOf "CREATE VIEW v AS SELECT a;" "t").toOption = some ⟨"v", .view, []⟩ ∧
      (entityOf "CREATE VIEW v AS SELECT a FROM t;" "t").toOption =
        some ⟨"v", .view, [⟨"a", "", .unknown⟩]⟩ := by
  decide

end SqlTemplate.Schema
