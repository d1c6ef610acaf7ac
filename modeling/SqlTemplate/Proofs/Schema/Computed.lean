import SqlTemplate.Proofs.Schema.Views

/-!
Items of a select list that are computed. Without an alias such an item should give no column, but
a reference is looked for by its characters only: a number is one, and so is any other run that is
no bare word.
-/

namespace SqlTemplate.Schema

theorem Refers.qualified_iff {item : List Char} {ident : Ident} (refers : Refers item ident) :
    Ident.Qualified item ↔ ∀ run, .bare run ∈ ident.parts → Ident.BareWord run := by
  constructor
  · intro qualified run member
    obtain ⟨texts, split, inGrammar⟩ := qualified.exists_splitParts?
    rw [splitParts?_of_refers refers, Option.some.injEq] at split
    have part : Ident.PartText run :=
      inGrammar run (split ▸ List.mem_map_of_mem (f := Ident.Part.text) member)
    cases part with
    | bare word => exact word
    | quoted =>
        cases refers.fits _ member with
        | bare _ inside =>
            exact absurd (by decide) (outside_segments (inside '"' List.mem_cons_self))
  · intro words
    obtain ⟨part, rest, parts⟩ := List.exists_cons_of_ne_nil refers.filled
    rw [← refers.written, Ident.text, parts]
    apply Ident.qualified_textOf_of_partText
    intro other member
    rw [← parts] at member
    cases refers.fits other member with
    | bare => exact .bare (words _ member)
    | @quoted name filled =>
        exact .quoted (fun empty => filled (Ident.double_eq_nil_iff.mp empty))
          (Ident.doubled_double name)

theorem exists_gives_iff_of_computed {item : List Char} (unaliased : ∀ label, ¬Aliased item label)
    (computed : ¬Ident.Qualified item) :
    (∃ name, Gives item name) ↔
      ∃ ident, Refers item ident ∧ ∃ run, .bare run ∈ ident.parts ∧ ¬Ident.BareWord run := by
  constructor
  · rintro ⟨name, ⟨label, aliased, _⟩ | ⟨ident, refers, _⟩⟩
    · exact absurd aliased (unaliased label)
    · rw [refers.qualified_iff] at computed
      exact ⟨ident, refers, by simpa using computed⟩
  · rintro ⟨ident, refers, _⟩
    exact ⟨ident.name, Or.inr ⟨ident, refers, rfl⟩⟩

section

variable {items : List SelectItem} {text : List Char} (selects : Selects items text)

include selects in
theorem Selects.exists_column_iff (head : ViewHead) {name : List Char} :
    (∃ column ∈ viewColumns (head.rest text), column.name.toList = name) ↔
      ∃ item ∈ items, Gives item.body name := by
  rw [exists_named_iff, selects.viewColumns_eq, mem_names_distinct_iff, ← exists_named_iff]
  simp only [List.not_mem_nil, not_false_eq_true, true_and, List.mem_filterMap]
  constructor
  · rintro ⟨column, ⟨item, member, read⟩, rfl⟩
    obtain ⟨given, found, rfl⟩ := Option.map_eq_some_iff.mp read
    refine ⟨item, member, (itemName?_eq_some_iff item.balanced.allow item.ends).mp ?_⟩
    rw [found, String.ofList_toList]
  · rintro ⟨item, member, gives⟩
    have found := (itemName?_eq_some_iff item.balanced.allow item.ends).mpr gives
    exact ⟨⟨String.ofList name, "", .unknown⟩, ⟨item, member, by rw [found]; rfl⟩,
      String.toList_ofList⟩

end

/-- The columns of a view are what the items of its select list give. An item without an alias that
is no identifier gives none, unless it is a reference with a run that is no bare word. -/
theorem computed_skipped_iff {head : ViewHead} {items : List SelectItem} {text : List Char}
    (selects : Selects items text) (fallback : String) :
    ∃ entity, entityOf (head.source text) fallback = .ok entity ∧ entity.kind = .view ∧
      (∀ name, (∃ column ∈ entity.columns, column.name.toList = name) ↔
        ∃ item ∈ items, Gives item.body name) ∧
      ∀ item ∈ items, (∀ label, ¬Aliased item.body label) → ¬Ident.Qualified item.body →
        ((∃ name, Gives item.body name) ↔ ∃ ident, Refers item.body ident ∧
          ∃ run, .bare run ∈ ident.parts ∧ ¬Ident.BareWord run) :=
  ⟨_, head.entityOf_eq text fallback, rfl, fun _ => selects.exists_column_iff head,
    fun _ _ unaliased computed => exists_gives_iff_of_computed unaliased computed⟩

theorem refers_one : Refers "1".toList ⟨[.bare "1".toList]⟩ where
  written := rfl
  filled := List.cons_ne_nil _ _
  fits := by
    have run : FitsSegment (.bare "1".toList) := .bare (by decide) (by decide)
    simpa using run

theorem not_bareWord_one : ¬Ident.BareWord "1".toList := by
  intro word
  exact absurd (Ident.bareWord_cons_iff.mp word).1 (by decide)

theorem not_qualified_one : ¬Ident.Qualified "1".toList := by
  rw [refers_one.qualified_iff]
  intro words
  exact not_bareWord_one (words _ List.mem_cons_self)

theorem not_aliased_one (label : Ident.Part) : ¬Aliased "1".toList label := by
  rintro ⟨expression, _, ends⟩
  exact ends.not_refers refers_one

def selectOne : SelectItem where
  before := " ".toList
  body := "1".toList
  after := []
  blank := blank_space
  blank' := blank_nil
  filled := by decide
  starts := by decide
  ends := by decide
  balanced := balanced_of_plain (by decide)
  unended := not_mentions_of_splitAtKeyword? keyword_from (by decide)

theorem computed_skipped_iff_one :
    ∃ entity, entityOf "CREATE OR REPLACE VIEW days\nAS Select 1" "other" = .ok entity ∧
      (∀ label, ¬Aliased selectOne.body label) ∧ ¬Ident.Qualified selectOne.body ∧
      ∃ name, Gives selectOne.body name ∧ ∃ column ∈ entity.columns, column.name.toList = name := by
  have other : ¬Opens "distinct" selectOne.body := fun opens =>
    not_mentions_of_splitAtKeyword? (by decide) (by decide) opens.mentions
  have selects : Selects [selectOne] " 1".toList :=
    ⟨Text.stops_cons_iff.mpr (by decide), [], [], .all other, .nothing, by decide⟩
  obtain ⟨entity, read, _, columns, computed⟩ :=
    @computed_skipped_iff selectView _ _ selects "other"
  have written : selectView.source " 1".toList = "CREATE OR REPLACE VIEW days\nAS Select 1" := by
    decide
  rw [written] at read
  obtain ⟨name, gives⟩ := (computed selectOne List.mem_cons_self not_aliased_one
    not_qualified_one).mpr ⟨_, refers_one, _, List.mem_cons_self, not_bareWord_one⟩
  exact ⟨entity, read, not_aliased_one, not_qualified_one, name, gives,
    (columns name).mpr ⟨selectOne, List.mem_cons_self, gives⟩⟩

theorem number_read_as_column :
    (entityOf "CREATE VIEW v AS SELECT 1, b FROM t" "t").toOption =
        some ⟨"v", .view, [⟨"1", "", .unknown⟩, ⟨"b", "", .unknown⟩]⟩ ∧
      (∀ label, ¬Aliased "1".toList label) ∧ ¬Ident.Qualified "1".toList :=
  ⟨by decide, not_aliased_one, not_qualified_one⟩

end SqlTemplate.Schema
