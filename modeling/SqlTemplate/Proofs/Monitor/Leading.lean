import Mathlib.Data.List.Infix
import SqlTemplate.Proofs.Monitor.Words

/-!
What stands before a statement. White space, opening parentheses and comments do not change its
kind. A comment whose text begins with a slash is the exception: that slash ends it, and the rest of
its text is read as the statement.
-/

namespace SqlTemplate.StatementKind

inductive Lead
  | blank (c : Char) (white : Text.isBlank c)
  | opening
  | line (text : List Char) (inLine : '\n' ∉ text)
  | block (text : List Char) (unended : ¬['*', '/'] <:+: text)

namespace Lead

def text : Lead → List Char
  | blank c _ => [c]
  | opening => ['(']
  | line text _ => '-' :: '-' :: (text ++ ['\n'])
  | block text _ => '/' :: '*' :: (text ++ ['*', '/'])

def textOf (leads : List Lead) : List Char :=
  leads.flatMap text

/-- A comment that is ended by the slash with which its text begins. -/
def EndsEarly : Lead → Prop
  | block text _ => ∃ rest, text = '/' :: rest
  | _ => False

/-- What is taken for the start of the statement: all behind the slash of a comment that ends
early. -/
def unread : List Lead → List Char
  | [] => []
  | block ('/' :: text) _ :: later => text ++ '*' :: '/' :: textOf later
  | _ :: later => unread later

theorem not_endsEarly {lead : Lead}
    (noSlash : ∀ text unended, lead ≠ block ('/' :: text) unended) : ¬lead.EndsEarly := by
  cases lead with
  | block text unended =>
      rintro ⟨rest, rfl⟩
      exact noSlash rest unended rfl
  | _ => exact id

theorem unread_eq_nil_iff {leads : List Lead} :
    unread leads = [] ↔ ∀ lead ∈ leads, ¬lead.EndsEarly := by
  fun_induction unread leads with
  | case1 => simp
  | case2 => simp [EndsEarly]
  | case3 lead later noSlash ih =>
      rw [ih, List.forall_mem_cons]
      exact (and_iff_right (not_endsEarly noSlash)).symm

end Lead

theorem topWords_slashComment (rest : List Char) :
    topWords false 0 ('/' :: '*' :: '/' :: rest) = topWords false 0 rest := by
  rw [topWords_block, afterComment]

theorem topWords_blockComment {text : List Char} (unended : ¬['*', '/'] <:+: text)
    (noSlash : ∀ rest, text ≠ '/' :: rest) (rest : List Char) :
    topWords false 0 ('/' :: '*' :: (text ++ '*' :: '/' :: rest)) = topWords false 0 rest := by
  -- The end is looked for from the star of the opening on, and that star ends nothing here.
  have unendedWhole : ¬['*', '/'] <:+: '*' :: text := by
    rw [List.infix_cons_iff, not_or]
    refine ⟨?_, unended⟩
    rintro ⟨after, same⟩
    cases same
    exact noSlash after rfl
  rw [topWords_block, ← List.cons_append, afterComment_append unendedWhole]

theorem topWords_lead {lead : Lead} (whole : ¬lead.EndsEarly) (rest : List Char) :
    topWords false 0 (lead.text ++ rest) = topWords false 0 rest := by
  cases lead with
  | blank c white => exact topWords_blank white
  | opening => exact topWords_opening
  | line text inLine =>
      simpa [Lead.text] using topWords_lineComment inLine rest
  | block text unended =>
      have noSlash : ∀ after, text ≠ '/' :: after := fun after same => whole ⟨after, same⟩
      simpa [Lead.text] using topWords_blockComment unended noSlash rest

theorem topWords_leads (leads : List Lead) (rest : List Char) :
    topWords false 0 (Lead.textOf leads ++ rest) =
      topWords false 0 (Lead.unread leads ++ rest) := by
  fun_induction Lead.unread leads with
  | case1 => rfl
  | case2 text unended later =>
      simpa [Lead.textOf, Lead.text] using
        topWords_slashComment (text ++ '*' :: '/' :: (Lead.textOf later ++ rest))
  | case3 lead later noSlash ih =>
      rw [← ih, Lead.textOf, List.flatMap_cons, List.append_assoc]
      exact topWords_lead (Lead.not_endsEarly noSlash) _

/-- The kind of a statement is not changed by white space, parentheses and comments before it, as
long as no comment ends early. Where one does, the statement begins behind the slash that ends it,
in the text of the comment. -/
theorem ofText_leads (leads : List Lead) (statement : List Char) :
    ((∀ lead ∈ leads, ¬lead.EndsEarly) →
      ofText (Lead.textOf leads ++ statement) = ofText statement) ∧
    ofText (Lead.textOf leads ++ statement) = ofText (Lead.unread leads ++ statement) ∧
    (Lead.unread leads = [] ↔ ∀ lead ∈ leads, ¬lead.EndsEarly) := by
  have read :
      ofText (Lead.textOf leads ++ statement) = ofText (Lead.unread leads ++ statement) := by
    rw [ofText, topWords_leads]
    rfl
  refine ⟨?_, read, Lead.unread_eq_nil_iff⟩
  intro whole
  rw [read, Lead.unread_eq_nil_iff.mpr whole]
  rfl

/-- A deletion counts as a query for the word in the comment before it. -/
theorem comment_classified :
    ¬['*', '/'] <:+: "/ SELECT ".toList ∧
      ofText ("/*".toList ++ "/ SELECT ".toList ++ "*/".toList ++ "DELETE FROM t".toList) =
        .select ∧
      ofText "DELETE FROM t".toList = .delete := by
  refine ⟨?_, ?_, ?_⟩ <;> decide +kernel

end SqlTemplate.StatementKind
