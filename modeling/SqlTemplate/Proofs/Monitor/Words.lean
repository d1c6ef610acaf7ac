import SqlTemplate.Monitor.Kind
import SqlTemplate.Proofs.Text.Blank

/-!
How the words of a statement are looked for, step by step: what is skipped, where a word is read,
and what parentheses change.
-/

namespace SqlTemplate.StatementKind

inductive OpensComment : List Char → Prop
  | line {rest : List Char} : OpensComment ('-' :: '-' :: rest)
  | block {rest : List Char} : OpensComment ('/' :: '*' :: rest)

variable {started : Bool} {depth : Nat} {c : Char} {rest : List Char}

theorem not_opensComment_of_ne (dash : c ≠ '-') (slash : c ≠ '/') : ¬OpensComment (c :: rest) := by
  intro opens
  cases opens with
  | line => exact dash rfl
  | block => exact slash rfl

def marks : List Char := ['\'', '"', '(', ')', '-', '/']

theorem not_opensComment_of_unmarked (unmarked : c ∉ marks) : ¬OpensComment (c :: rest) := by
  apply not_opensComment_of_ne <;> rintro rfl <;> exact unmarked (by decide)

theorem not_quote_of_unmarked (unmarked : c ∉ marks) : ¬(c = '\'' ∨ c = '"') := by
  rintro (rfl | rfl) <;> exact unmarked (by decide)

theorem ne_opening_of_unmarked (unmarked : c ∉ marks) : c ≠ '(' := by
  rintro rfl
  exact unmarked (by decide)

theorem ne_closing_of_unmarked (unmarked : c ∉ marks) : c ≠ ')' := by
  rintro rfl
  exact unmarked (by decide)

theorem topWords_line (rest : List Char) :
    topWords started depth ('-' :: '-' :: rest) =
      topWords started depth (rest.dropWhile (· != '\n')) := by
  rw [topWords]

theorem topWords_block (rest : List Char) :
    topWords started depth ('/' :: '*' :: rest) =
      topWords started depth (afterComment ('*' :: rest)) := by
  rw [topWords]

theorem topWords_cons (closed : ¬OpensComment (c :: rest)) :
    topWords started depth (c :: rest) =
      if c = '\'' ∨ c = '"' then topWords started depth (afterQuote c rest)
      else if c = '(' then topWords started (if started then depth + 1 else depth) rest
      else if c = ')' then topWords started (depth - 1) rest
      else if Text.isBareStart c then
        if depth = 0 then
          (c :: rest.takeWhile Text.isBareLater) ::
            topWords true depth (rest.dropWhile Text.isBareLater)
        else topWords started depth (rest.dropWhile Text.isBareLater)
      else topWords started depth rest := by
  rw [topWords]
  · rintro after rfl rfl
    exact closed .line
  · rintro after rfl rfl
    exact closed .block

theorem topWords_other (closed : ¬OpensComment (c :: rest)) (noQuote : ¬(c = '\'' ∨ c = '"'))
    (noOpening : c ≠ '(') (noClosing : c ≠ ')') (noStart : Text.isBareStart c = false) :
    topWords started depth (c :: rest) = topWords started depth rest := by
  rw [topWords_cons closed, if_neg noQuote, if_neg noOpening, if_neg noClosing, noStart,
    if_neg Bool.false_ne_true]

theorem topWords_unmarked (unmarked : c ∉ marks) (noStart : Text.isBareStart c = false) :
    topWords started depth (c :: rest) = topWords started depth rest :=
  topWords_other (not_opensComment_of_unmarked unmarked) (not_quote_of_unmarked unmarked)
    (ne_opening_of_unmarked unmarked) (ne_closing_of_unmarked unmarked) noStart

theorem isBareStart_of_isBlank (blank : Text.isBlank c) : Text.isBareStart c = false := by
  cases start : Text.isBareStart c with
  | false => rfl
  | true =>
      have word : Text.isAsciiWord c := by
        simp only [Text.isBareStart, Text.isAsciiWord, Char.isAlphanum, Bool.or_eq_true] at *
        rcases start with letter | underscore
        · exact .inl (.inl letter)
        · exact .inr underscore
      have solid := Text.isBlank_of_isWord (Text.isWord_of_isAsciiWord word)
      rw [solid] at blank
      contradiction

theorem topWords_blank (blank : Text.isBlank c) :
    topWords started depth (c :: rest) = topWords started depth rest :=
  topWords_unmarked (Text.not_mem_of_outside blank (by decide)) (isBareStart_of_isBlank blank)

theorem topWords_lineComment {text : List Char} (inLine : '\n' ∉ text) (rest : List Char) :
    topWords started depth ('-' :: '-' :: (text ++ '\n' :: rest)) =
      topWords started depth rest := by
  rw [topWords_line, Text.dropWhile_ne_append inLine, List.dropWhile_cons_of_neg (by decide),
    topWords_blank (by decide)]

theorem afterComment_append {text : List Char} (unended : ¬['*', '/'] <:+: text)
    (rest : List Char) : afterComment (text ++ '*' :: '/' :: rest) = rest := by
  induction text with
  | nil => rfl
  | cons c text ih =>
      rw [List.infix_cons_iff, not_or] at unended
      obtain ⟨notHere, notLater⟩ := unended
      rw [List.cons_append, afterComment, ih notLater]
      rintro after rfl same
      apply notHere
      cases text with
      | nil => cases same
      | cons d text =>
          cases same
          exact List.prefix_append ['*', '/'] text

theorem afterQuote_append {quote : Char} {inner : List Char} (inside : quote ∉ inner)
    (rest : List Char) : afterQuote quote (inner ++ quote :: rest) = rest := by
  induction inner with
  | nil => simp [afterQuote]
  | cons c inner ih =>
      rw [List.mem_cons, not_or] at inside
      rw [List.cons_append, afterQuote, if_neg (Ne.symm inside.1), ih inside.2]

theorem topWords_quoted {quote : Char} {inner : List Char} (isQuote : quote = '\'' ∨ quote = '"')
    (inside : quote ∉ inner) (rest : List Char) :
    topWords started depth (quote :: (inner ++ quote :: rest)) = topWords started depth rest := by
  have closed : ¬OpensComment (quote :: (inner ++ quote :: rest)) := by
    apply not_opensComment_of_ne <;> rintro rfl <;> revert isQuote <;> decide
  rw [topWords_cons closed, if_pos isQuote, afterQuote_append inside]

theorem topWords_opening :
    topWords started depth ('(' :: rest) =
      topWords started (if started then depth + 1 else depth) rest := by
  rw [topWords_cons (not_opensComment_of_ne (by decide) (by decide)), if_neg (by decide),
    if_pos rfl]

theorem topWords_closing :
    topWords started depth (')' :: rest) = topWords started (depth - 1) rest := by
  rw [topWords_cons (not_opensComment_of_ne (by decide) (by decide)), if_neg (by decide),
    if_neg (by decide), if_pos rfl]

theorem topWords_start (start : Text.isBareStart c) :
    topWords started depth (c :: rest) =
      if depth = 0 then
        (c :: rest.takeWhile Text.isBareLater) ::
          topWords true depth (rest.dropWhile Text.isBareLater)
      else topWords started depth (rest.dropWhile Text.isBareLater) := by
  have unmarked : c ∉ marks := Text.not_mem_of_outside start (by decide)
  rw [topWords_cons (not_opensComment_of_unmarked unmarked),
    if_neg (not_quote_of_unmarked unmarked), if_neg (ne_opening_of_unmarked unmarked),
    if_neg (ne_closing_of_unmarked unmarked), if_pos start]

end SqlTemplate.StatementKind
