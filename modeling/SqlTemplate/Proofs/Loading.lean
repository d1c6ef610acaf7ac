import SqlTemplate.Loading
import SqlTemplate.Proofs.Model.Operations
import SqlTemplate.Proofs.Schema.Heading
import SqlTemplate.Proofs.Template.Plain

/-!
What a text with a comment before it is loaded as. Comments are read like the rest of a text: words
in them may define a table or a view, alone or together with the words behind them, and placeholders
in them are compiled.
-/

namespace SqlTemplate

def commented (comment text : String) : String :=
  "--" ++ comment ++ "\n" ++ text

@[simp] theorem toList_commented (comment text : String) :
    (commented comment text).toList = '-' :: '-' :: (comment.toList ++ '\n' :: text.toList) := by
  simp [commented]

namespace Schema

/-- Words that define a table or a view begin in the comment, where a word may begin. They may go on
behind it. -/
def BeginsInComment (comment text : String) : Prop :=
  ∃ before opening, comment.toList = before ++ opening ∧ endsInWord false before = false ∧
    Defines (opening ++ '\n' :: text.toList)

theorem not_defines_cons {c : Char} {text : List Char} (outside : Text.isWord c = false) :
    ¬Defines (c :: text) := by
  intro defines
  obtain ⟨d, rest, same, word⟩ := defines.exists_cons
  cases same
  rw [outside] at word
  contradiction

theorem exists_findHead?_cons_of_outside {inWord : Bool} {c : Char} {rest : List Char}
    (outside : Text.isWord c = false) :
    (∃ head, findHead? inWord (c :: rest) = some head) ↔
      ∃ head, findHead? false rest = some head := by
  rw [exists_findHead?_cons_iff, outside]
  simp [not_defines_cons outside]

theorem exists_findHead?_line_iff {inWord : Bool} {line text : List Char} :
    (∃ head, findHead? inWord (line ++ '\n' :: text) = some head) ↔
      (∃ head, findHead? false text = some head) ∨
        ∃ before opening, line = before ++ opening ∧ endsInWord inWord before = false ∧
          Defines (opening ++ '\n' :: text) := by
  have newline : Text.isWord '\n' = false := by decide
  have behind : ∀ before, endsInWord inWord (line ++ '\n' :: before) = endsInWord false before := by
    intro before
    rw [endsInWord_append, endsInWord, newline]
  rw [exists_findHead?_iff, exists_findHead?_iff]
  constructor
  · rintro ⟨before, opened, same, outside, defines⟩
    rcases List.append_eq_append_iff.mp same with ⟨rest, rfl, opens⟩ | ⟨opening, rfl, rfl⟩
    · cases rest with
      | nil =>
          rw [List.nil_append] at opens
          exact absurd (opens ▸ defines) (not_defines_cons newline)
      | cons c rest =>
          rw [List.cons_append, List.cons.injEq] at opens
          obtain ⟨rfl, rfl⟩ := opens
          rw [behind] at outside
          exact Or.inl ⟨rest, opened, rfl, outside, defines⟩
    · exact Or.inr ⟨before, opening, rfl, outside, defines⟩
  · rintro (⟨before, opened, rfl, outside, defines⟩ | ⟨before, opening, rfl, outside, defines⟩)
    · exact ⟨line ++ '\n' :: before, opened, by simp, (behind before).trans outside, defines⟩
    · exact ⟨before, opening ++ '\n' :: text, by simp, outside, defines⟩

theorem isSchema_commented_iff {comment text : String} :
    isSchema (commented comment text) ↔ isSchema text ∨ BeginsInComment comment text := by
  have dash : Text.isWord '-' = false := by decide
  simp [isSchema, Option.isSome_iff_exists, exists_findHead?_cons_of_outside dash,
    exists_findHead?_line_iff, BeginsInComment]

theorem BeginsInComment.create {comment text : String} (begins : BeginsInComment comment text) :
    ∃ before opening, comment.toList = before ++ opening ∧ endsInWord false before = false ∧
      FirstWord "create" opening := by
  obtain ⟨before, opening, same, outside, defines⟩ := begins
  refine ⟨before, opening, same, outside, ?_⟩
  obtain ⟨spelled, rest, whole, spells, stops⟩ := defines.firstWord
  have word := spells.isWord (by decide +kernel)
  have newline : Text.Stops Text.isWord ('\n' :: text.toList) :=
    Text.stops_cons_iff.mpr (by decide)
  obtain ⟨later, rfl, rfl⟩ := Text.append_of_stops spelled whole word newline
  exact ⟨spelled, later, rfl, spells, stops.of_append⟩

end Schema

namespace Statement

variable {τ : Type}

theorem exists_parse_commented_iff {comment text : String} :
    (∃ statement : Statement τ, parse (commented comment text) = .ok statement) ↔
      (∃ statement : Statement τ, parse comment = .ok statement) ∧
        ∃ statement : Statement τ, parse text = .ok statement := by
  have dashes : ∀ c ∈ ['-', '-'], c ≠ '$' ∧ c ≠ '\x00' := by decide
  have newline : ∀ c ∈ ['\n'], c ≠ '$' ∧ c ≠ '\x00' := by decide
  have pieces : Piece.split (commented comment text).toList =
      ['-', '-'].map .char ++
        (Piece.split comment.toList ++ (['\n'].map .char ++ Piece.split text.toList)) := by
    rw [toList_commented, ← Piece.split_plain_append newline, ← Piece.split_append,
      ← Piece.split_plain_append dashes]
    · rfl
    · exact Text.stops_cons_iff.mpr (by decide)
  rw [exists_parse_iff, exists_parse_iff, exists_parse_iff, pieces]
  simp only [List.map_cons, List.map_nil, List.cons_append, List.nil_append, List.mem_cons,
    List.mem_append, reduceCtorEq, false_or]
  constructor
  · intro known
    exact ⟨fun placeholder member => known placeholder (Or.inl member),
      fun placeholder member => known placeholder (Or.inr member)⟩
  · rintro ⟨first, second⟩ placeholder (inComment | inText)
    · exact first placeholder inComment
    · exact second placeholder inText

end Statement

namespace Database

variable {σ ρ : Type}

theorem exists_load_query_iff {database : Database σ ρ} {text name : String} :
    (∃ query, database.load text name = .ok (.query query)) ↔
      Schema.isSchema text = false ∧
        ∃ statement : Statement (Compute σ), Statement.parse text = .ok statement := by
  rw [load]
  cases Schema.isSchema text with
  | true =>
      simp only [if_true, Bool.true_eq_false, false_and, iff_false, not_exists]
      intro query loaded
      obtain ⟨model, _, same⟩ := Result.map_eq_ok_iff.mp loaded
      cases same
  | false =>
      simp only [Bool.false_eq_true, if_false, true_and, Result.map_eq_ok_iff]
      cases parsed : (Statement.parse text : Except TemplateError (Statement (Compute σ))) with
      | error e => simp [Database.query, parsed, bindCompiled]
      | ok statement => simp [Database.query, parsed, bindCompiled]

/-- A comment decides what a text is exactly when words that define a table or a view begin in it.
The text is still loaded as a query exactly when they do not, what stands in the comment compiles,
and the text without the comment is loaded as a query. A comment without the word `create` never
decides. -/
theorem load_commented (database : Database σ ρ) (comment text name : String) :
    (Schema.isSchema (commented comment text) ↔
      Schema.isSchema text ∨ Schema.BeginsInComment comment text) ∧
    ((∃ query, database.load (commented comment text) name = .ok (.query query)) ↔
      ¬Schema.BeginsInComment comment text ∧
        (∃ statement : Statement (Compute σ), Statement.parse comment = .ok statement) ∧
        ∃ query, database.load text name = .ok (.query query)) ∧
    (Schema.BeginsInComment comment text →
      ∃ before opening, comment.toList = before ++ opening ∧
        Schema.endsInWord false before = false ∧ Schema.FirstWord "create" opening) := by
  refine ⟨Schema.isSchema_commented_iff, ?_, Schema.BeginsInComment.create⟩
  rw [exists_load_query_iff, exists_load_query_iff, Statement.exists_parse_commented_iff,
    ← Bool.not_eq_true, ← Bool.not_eq_true, Schema.isSchema_commented_iff, not_or]
  constructor
  · rintro ⟨⟨plain, outside⟩, first, second⟩
    exact ⟨outside, first, plain, second⟩
  · rintro ⟨outside, first, plain, second⟩
    exact ⟨⟨plain, outside⟩, first, second⟩

theorem load_commented_definition :
    Schema.BeginsInComment " CREATE TABLE x (a int)" "SELECT 1" ∧
      (∃ before opening, " CREATE TABLE x (a int)".toList = before ++ opening ∧
        Schema.endsInWord false before = false ∧ Schema.FirstWord "create" opening) ∧
      ¬∃ query, Model.emptyDatabase.load (commented " CREATE TABLE x (a int)" "SELECT 1") "c" =
        .ok (.query query) := by
  obtain ⟨schema, query, create⟩ :=
    load_commented Model.emptyDatabase " CREATE TABLE x (a int)" "SELECT 1" "c"
  have begins : Schema.BeginsInComment " CREATE TABLE x (a int)" "SELECT 1" :=
    (schema.mp (by decide +kernel)).resolve_left (by decide +kernel)
  exact ⟨begins, create begins, fun loaded => (query.mp loaded).1 begins⟩

/-- The rows of a table that only a comment mentions are found in place of those of the query. -/
theorem comment_decides :
    Schema.isSchema "SELECT 1" = false ∧
      Schema.isSchema "-- CREATE TABLE x (a int)\nSELECT 1" = true ∧
      ((Model.emptyDatabase.load "SELECT 1" "c").toOption.bind Loaded.query?).map
        (fun query => query.statement.text) = some "SELECT 1" ∧
      ((Model.emptyDatabase.load "-- CREATE TABLE x (a int)\nSELECT 1" "c").toOption.bind
        Loaded.model?).map (fun model => model.find.statement.text) = some "SELECT * FROM x" := by
  refine ⟨?_, ?_, ?_, ?_⟩ <;> decide +kernel

end Database

end SqlTemplate
