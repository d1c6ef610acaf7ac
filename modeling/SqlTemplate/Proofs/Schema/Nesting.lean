import SqlTemplate.Proofs.Text.Run
import SqlTemplate.Schema.Nesting

/-!
Texts in which quotes and parentheses close in pairs. A scanner leaves such a text in the nesting in
which it enters it, and nothing in it closes or separates what stands around it.
-/

namespace SqlTemplate.Schema

/-- A character without a meaning to scanners; a comma may stand between parentheses. -/
def Plain (commas : Bool) (c : Char) : Prop :=
  c ≠ '\'' ∧ c ≠ '"' ∧ c ≠ '(' ∧ c ≠ ')' ∧ (c = ',' → commas = true)

instance (commas : Bool) (c : Char) : Decidable (Plain commas c) :=
  inferInstanceAs (Decidable (_ ∧ _))

theorem plain_of_class {p : Char → Bool} {commas : Bool} {c : Char} (inside : p c)
    (outside : ∀ d ∈ ['\'', '"', '(', ')', ','], p d = false) : Plain commas c := by
  have differs := Text.not_mem_of_outside inside outside
  simp only [List.mem_cons, List.not_mem_nil, or_false, not_or] at differs
  obtain ⟨single, double, opening, closing, comma⟩ := differs
  exact ⟨single, double, opening, closing, fun same => absurd same comma⟩

/-- Text with its quotes and parentheses in pairs. Only if `commas` says so may commas stand outside
them. -/
inductive Balanced : Bool → List Char → Prop
  | nil {commas : Bool} : Balanced commas []
  | plain {commas : Bool} {c : Char} {text : List Char} : Plain commas c →
      Balanced commas text → Balanced commas (c :: text)
  | quoted {commas : Bool} {quote : Char} {inner text : List Char} :
      quote = '\'' ∨ quote = '"' → quote ∉ inner → Balanced commas text →
      Balanced commas (quote :: (inner ++ quote :: text))
  | group {commas : Bool} {inner text : List Char} : Balanced true inner →
      Balanced commas text → Balanced commas ('(' :: (inner ++ ')' :: text))

/-- A scanner gets from the start of a text to its end without a stop. -/
inductive Passes (stop : Nesting → Char → Prop) : Nesting → List Char → Nesting → Prop
  | done {nesting : Nesting} : Passes stop nesting [] nesting
  | step {nesting out : Nesting} {c : Char} {text : List Char} : ¬stop nesting c →
      Passes stop (nesting.step c) text out → Passes stop nesting (c :: text) out

theorem Balanced.append {commas : Bool} {first second : List Char}
    (balanced : Balanced commas first) (balanced' : Balanced commas second) :
    Balanced commas (first ++ second) := by
  induction balanced with
  | nil => exact balanced'
  | plain plain _ ih => exact .plain plain (ih balanced')
  | quoted quote outside _ ih =>
      rw [List.cons_append, List.append_assoc, List.cons_append]
      exact .quoted quote outside (ih balanced')
  | group inner _ _ ih =>
      rw [List.cons_append, List.append_assoc, List.cons_append]
      exact .group inner (ih balanced')

theorem balanced_of_plain {commas : Bool} {text : List Char} (plain : ∀ c ∈ text, Plain commas c) :
    Balanced commas text := by
  induction text with
  | nil => exact .nil
  | cons c text ih =>
      obtain ⟨first, later⟩ := List.forall_mem_cons.mp plain
      exact .plain first (ih later)

theorem Balanced.allow {commas : Bool} {text : List Char} (balanced : Balanced commas text) :
    Balanced true text := by
  induction balanced with
  | nil => exact .nil
  | plain plain _ ih =>
      obtain ⟨single, double, opening, closing, _⟩ := plain
      exact .plain ⟨single, double, opening, closing, fun _ => rfl⟩ ih
  | quoted quote outside _ ih => exact .quoted quote outside ih
  | group inner _ _ ih => exact .group inner ih

section

variable {stop : Nesting → Char → Prop}

theorem Passes.append {first second : List Char} {nesting middle out : Nesting}
    (passes : Passes stop nesting first middle) (passes' : Passes stop middle second out) :
    Passes stop nesting (first ++ second) out := by
  induction passes with
  | done => exact passes'
  | step free _ ih => exact .step free (ih passes')

theorem quote_step_of_none {nesting : Nesting} (unquoted : nesting.quote = none) {c : Char} :
    (nesting.step c).quote = if c = '\'' ∨ c = '"' then some c else none := by
  unfold Nesting.step
  simp only [unquoted]
  split
  · rfl
  · split
    · rfl
    · split
      · rfl
      · exact unquoted

theorem quote_step_of_some {nesting : Nesting} {quote : Char} (inside : nesting.quote = some quote)
    {c : Char} : (nesting.step c).quote = if c = quote then none else some quote := by
  unfold Nesting.step
  simp only [inside]
  split
  · rfl
  · exact inside

theorem step_plain {commas : Bool} {c : Char} (plain : Plain commas c) (depth : Nat) :
    Nesting.step ⟨none, depth⟩ c = ⟨none, depth⟩ := by
  obtain ⟨single, double, opening, closing, _⟩ := plain
  simp [Nesting.step, single, double, opening, closing]

theorem step_quote {quote : Char} (isQuote : quote = '\'' ∨ quote = '"') (depth : Nat) :
    Nesting.step ⟨none, depth⟩ quote = ⟨some quote, depth⟩ := by
  simp [Nesting.step, isQuote]

theorem passes_in_quotes (outside : ∀ nesting c, stop nesting c → nesting.quote = none)
    {quote : Char} {inner : List Char} (absent : quote ∉ inner) (depth : Nat) :
    Passes stop ⟨some quote, depth⟩ (inner ++ [quote]) ⟨none, depth⟩ := by
  induction inner with
  | nil =>
      refine .step (fun stops => nomatch outside _ _ stops) ?_
      simpa [Nesting.step] using Passes.done
  | cons c inner ih =>
      rw [List.mem_cons, not_or] at absent
      refine .step (fun stops => nomatch outside _ _ stops) ?_
      simpa [Nesting.step, Ne.symm absent.1] using ih absent.2

/-- Where a scanner may stop: not in quotes, and only at a parenthesis that closes a group around
the text, or at a comma outside all groups in it. -/
structure StopsAround (stop : Nesting → Char → Prop) (commas : Bool) (depth : Nat) : Prop where
  outside : ∀ nesting c, stop nesting c → nesting.quote = none
  around : ∀ nesting c, stop nesting c →
    (c = ')' ∧ nesting.depth ≤ depth) ∨ (c = ',' ∧ nesting.depth ≤ depth ∧
      (commas = true → nesting.depth < depth))

theorem StopsAround.deeper {commas : Bool} {depth : Nat} (stops : StopsAround stop commas depth) :
    StopsAround stop true (depth + 1) := by
  refine ⟨stops.outside, ?_⟩
  intro nesting c stopped
  rcases stops.around nesting c stopped with ⟨closing, bound⟩ | ⟨comma, bound, _⟩
  · exact Or.inl ⟨closing, by omega⟩
  · exact Or.inr ⟨comma, by omega, fun _ => by omega⟩

theorem Balanced.passes {commas : Bool} {text : List Char} (balanced : Balanced commas text)
    {depth : Nat} (stops : StopsAround stop commas depth) :
    Passes stop ⟨none, depth⟩ text ⟨none, depth⟩ := by
  induction balanced generalizing depth with
  | nil => exact .done
  | @plain commas c text plain _ ih =>
      refine .step ?_ ?_
      · intro stopped
        rcases stops.around _ _ stopped with ⟨closing, _⟩ | ⟨comma, _, inner⟩
        · exact plain.2.2.2.1 closing
        · exact Nat.lt_irrefl _ (inner (plain.2.2.2.2 comma))
      · rw [step_plain plain]
        exact ih stops
  | @quoted commas quote inner text isQuote absent _ ih =>
      refine .step ?_ ?_
      · intro stopped
        rcases stops.around _ _ stopped with ⟨closing, _⟩ | ⟨comma, _⟩
        · subst closing
          revert isQuote
          decide
        · subst comma
          revert isQuote
          decide
      · rw [step_quote isQuote, List.append_cons]
        exact (passes_in_quotes stops.outside absent depth).append (ih stops)
  | @group commas inner text _ _ ihInner ih =>
      have opened : Nesting.step ⟨none, depth⟩ '(' = ⟨none, depth + 1⟩ := by
        simp [Nesting.step]
      have closed : Nesting.step ⟨none, depth + 1⟩ ')' = ⟨none, depth⟩ := by
        simp [Nesting.step]
      refine .step ?_ ?_
      · intro stopped
        rcases stops.around _ _ stopped with ⟨closing, _⟩ | ⟨comma, _⟩
        · cases closing
        · cases comma
      · rw [opened]
        refine (ihInner stops.deeper).append (.step ?_ ?_)
        · intro stopped
          rcases stops.around _ _ stopped with ⟨_, bound⟩ | ⟨comma, _⟩
          · exact Nat.not_succ_le_self depth bound
          · cases comma
        · rw [closed]
          exact ih stops

end

def Closes (nesting : Nesting) (c : Char) : Prop :=
  nesting.quote = none ∧ c = ')' ∧ nesting.depth = 1

theorem untilClosed?_of_passes {nesting out : Nesting} {text : List Char}
    (passes : Passes Closes nesting text out) (more : List Char) :
    untilClosed? nesting (text ++ more) = (untilClosed? out more).map (text ++ ·) := by
  induction passes with
  | done => simp
  | @step nesting out c text free _ ih =>
      rw [Closes] at free
      rw [List.cons_append, untilClosed?, if_neg free, ih, Option.map_map]
      rfl

theorem untilClosed?_balanced {text : List Char} (balanced : Balanced true text)
    (rest : List Char) : untilClosed? ⟨none, 1⟩ (text ++ ')' :: rest) = some text := by
  have stops : StopsAround Closes true 1 := by
    refine ⟨fun _ _ stopped => stopped.1, ?_⟩
    rintro nesting c ⟨_, closing, depth⟩
    exact Or.inl ⟨closing, by omega⟩
  rw [untilClosed?_of_passes (balanced.passes stops)]
  simp [untilClosed?]

theorem body?_skip {skipped : List Char} (unopened : '(' ∉ skipped) (text : List Char) :
    body? (skipped ++ text) = body? text := by
  rw [body?, Text.dropWhile_ne_append unopened]
  rfl

theorem body?_balanced {before text : List Char} (balanced : Balanced true text)
    (unopened : '(' ∉ before) (rest : List Char) :
    body? (before ++ '(' :: (text ++ ')' :: rest)) = some text := by
  rw [body?_skip unopened, body?, List.dropWhile_cons_of_neg (by decide)]
  exact untilClosed?_balanced balanced rest

def Separates (nesting : Nesting) (c : Char) : Prop :=
  c = ',' ∧ nesting = .outside

def startingWith (text : List Char) : List (List Char) → List (List Char)
  | [] => [text]
  | piece :: more => (text ++ piece) :: more

theorem pieces_ne_nil (nesting : Nesting) (text : List Char) : pieces nesting text ≠ [] := by
  fun_cases pieces nesting text <;> simp

theorem pieces_of_passes {nesting out : Nesting} {text : List Char}
    (passes : Passes Separates nesting text out) (more : List Char) :
    pieces nesting (text ++ more) = startingWith text (pieces out more) := by
  induction passes with
  | @done nesting =>
      obtain ⟨piece, others, parts⟩ := List.exists_cons_of_ne_nil (pieces_ne_nil nesting more)
      rw [List.nil_append, parts]
      rfl
  | @step nesting out c text free _ ih =>
      obtain ⟨piece, others, parts⟩ := List.exists_cons_of_ne_nil (pieces_ne_nil out more)
      rw [Separates] at free
      rw [List.cons_append, pieces, if_neg free, ih, parts]
      rfl

theorem Balanced.pieces_append {text : List Char} (balanced : Balanced false text)
    (more : List Char) :
    pieces .outside (text ++ more) = startingWith text (pieces .outside more) := by
  have stops : StopsAround Separates false 0 := by
    constructor
    · rintro _ c ⟨_, rfl⟩
      rfl
    · rintro _ c ⟨comma, rfl⟩
      exact Or.inr ⟨comma, Nat.le_refl 0, fun commas => nomatch commas⟩
  exact pieces_of_passes (balanced.passes stops) more

theorem Balanced.pieces_last {text : List Char} (balanced : Balanced false text) :
    pieces .outside text = [text] := by
  simpa [pieces, startingWith] using balanced.pieces_append []

theorem Balanced.pieces_comma {text : List Char} (balanced : Balanced false text)
    (more : List Char) :
    pieces .outside (text ++ ',' :: more) = text :: pieces .outside more := by
  rw [balanced.pieces_append, pieces, if_pos ⟨rfl, rfl⟩]
  simp [startingWith]

end SqlTemplate.Schema
