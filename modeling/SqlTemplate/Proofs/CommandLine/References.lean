import SqlTemplate.CommandLine.Configuration
import SqlTemplate.Proofs.Result
import SqlTemplate.Proofs.Text.Run

/-!
References to variables in settings. One pass from left to right replaces them: the literal text
around them stays what it is, and what a variable holds is not looked at again.
-/

namespace SqlTemplate.CommandLine.Configuration

inductive Part
  | literal (text : List Char)
  | reference (name : List Char)
  deriving DecidableEq

def opening : List Char := ['$', '\x7b']

def Part.text : Part → List Char
  | literal text => text
  | reference name => opening ++ (name ++ ['\x7d'])

def textOf (parts : List Part) : List Char :=
  parts.flatMap Part.text

def leading : List Part → List Char
  | .literal text :: rest => text ++ leading rest
  | _ => []

/-- References have names, and nothing else looks like the beginning of one, also where literals
meet. -/
def WellFormed : List Part → Prop
  | [] => True
  | .literal text :: rest => ¬opening <:+: text ++ leading rest ∧ WellFormed rest
  | .reference name :: rest => name ≠ [] ∧ '\x7d' ∉ name ∧ WellFormed rest

/-- Text at whose beginning no reference can be read, and what is wrong with it. -/
inductive Unfinished : List Char → (String → Flaw) → Prop
  | unclosed {rest : List Char} : '\x7d' ∉ rest →
      Unfinished (opening ++ rest) .unclosedReference
  | nameless {rest : List Char} : Unfinished (opening ++ '\x7d' :: rest) .emptyReference

variable {lookUp : String → Option String}

def Part.value (lookUp : String → Option String) : Part → List Char
  | literal text => text
  | reference name => ((lookUp (String.ofList name)).getD "").toList

def AllSet (lookUp : String → Option String) (parts : List Part) : Prop :=
  ∀ name, .reference name ∈ parts → ∃ value, lookUp (String.ofList name) = some value

def resolved (lookUp : String → Option String) :
    List Part → Except Flaw (List Char) → Except Flaw (List Char)
  | [], after => after
  | .literal text :: rest, after => (resolved lookUp rest after).map (text ++ ·)
  | .reference name :: rest, after =>
    match lookUp (String.ofList name) with
    | none => .error (.unsetVariable (String.ofList name))
    | some value => (resolved lookUp rest after).map (value.toList ++ ·)

theorem Unfinished.stops {ending : List Char} {flaw : String → Flaw}
    (unfinished : Unfinished ending flaw) : Text.Stops (· == '\x7b') ending := by
  cases unfinished <;> exact Text.stops_cons_iff.mpr (by decide)

theorem exists_leading (parts : List Part) {ending : List Char}
    (stops : Text.Stops (· == '\x7b') ending) :
    ∃ after, textOf parts ++ ending = leading parts ++ after ∧
      Text.Stops (· == '\x7b') after := by
  induction parts with
  | nil => exact ⟨ending, rfl, stops⟩
  | cons part rest ih =>
      cases part with
      | literal text =>
          obtain ⟨after, same, stopsAfter⟩ := ih
          refine ⟨after, ?_, stopsAfter⟩
          rw [leading, List.append_assoc, ← same, textOf, List.flatMap_cons, List.append_assoc]
          rfl
      | reference name =>
          exact ⟨_, rfl, Text.stops_cons_iff.mpr (by decide)⟩

theorem AllSet.tail {part : Part} {rest : List Part} (set : AllSet lookUp (part :: rest)) :
    AllSet lookUp rest :=
  fun name member => set name (List.mem_cons_of_mem part member)

theorem AllSet.append {parts rest : List Part} (first : AllSet lookUp parts)
    (later : AllSet lookUp rest) : AllSet lookUp (parts ++ rest) := by
  intro name member
  rcases List.mem_append.mp member with inParts | inRest
  · exact first name inParts
  · exact later name inRest

theorem not_opening_leading {parts : List Part} (wellFormed : WellFormed parts) :
    ¬opening <:+: leading parts := by
  cases parts with
  | nil => simp [leading, opening]
  | cons part rest =>
      cases part with
      | literal text => exact wellFormed.1
      | reference name => simp [leading, opening]

/-- Every text is made of such parts, alone or with an unfinished reference behind them. -/
theorem exists_parts (text : List Char) :
    ∃ parts, WellFormed parts ∧
      (text = textOf parts ∨
        ∃ ending flaw, Unfinished ending flaw ∧ text = textOf parts ++ ending) := by
  induction length : text.length using Nat.strongRecOn generalizing text with
  | ind n ih =>
      subst length
      by_cases opened : opening <+: text
      · obtain ⟨rest, rfl⟩ := opened
        by_cases closed : '\x7d' ∈ rest
        · obtain ⟨name, later, rfl, unclosed⟩ := List.eq_append_cons_of_mem closed
          cases name with
          | nil => exact ⟨[], trivial, Or.inr ⟨_, _, .nameless, rfl⟩⟩
          | cons c name =>
              obtain ⟨parts, wellFormed, made⟩ := ih later.length (by simp; omega) later rfl
              refine ⟨.reference (c :: name) :: parts,
                ⟨List.cons_ne_nil c name, unclosed, wellFormed⟩, ?_⟩
              rcases made with rfl | ⟨ending, flaw, unfinished, rfl⟩
              · exact Or.inl (by simp [textOf, Part.text])
              · exact Or.inr ⟨ending, flaw, unfinished, by simp [textOf, Part.text]⟩
        · exact ⟨[], trivial, Or.inr ⟨_, _, .unclosed closed, rfl⟩⟩
      · cases text with
        | nil => exact ⟨[], trivial, Or.inl rfl⟩
        | cons c text =>
            obtain ⟨parts, wellFormed, made⟩ := ih text.length (by simp) text rfl
            have leads : leading parts <+: text := by
              rcases made with rfl | ⟨ending, flaw, unfinished, rfl⟩
              · obtain ⟨after, same, _⟩ := exists_leading parts Text.stops_nil
                exact ⟨after, by rw [← same, List.append_nil]⟩
              · obtain ⟨after, same, _⟩ := exists_leading parts unfinished.stops
                exact ⟨after, same.symm⟩
            have clean : ¬opening <:+: [c] ++ leading parts := by
              intro inside
              rcases List.infix_cons_iff.mp inside with here | later
              · exact opened (here.trans ((List.prefix_cons_inj c).mpr leads))
              · exact not_opening_leading wellFormed later
            refine ⟨.literal [c] :: parts, ⟨clean, wellFormed⟩, ?_⟩
            rcases made with rfl | ⟨ending, flaw, unfinished, rfl⟩
            · exact Or.inl (by simp [textOf, Part.text])
            · exact Or.inr ⟨ending, flaw, unfinished, by simp [textOf, Part.text]⟩

end SqlTemplate.CommandLine.Configuration
