import SqlTemplate.Proofs.Result
import SqlTemplate.Proofs.Template.Mark
import SqlTemplate.Template.Compile

/-!
Templates compiled without slots: the text before, between and after the computations is scanned
piece by piece for named placeholders, and the computations stay what they are. On texts without
NUL this is what compiling through slots gives.
-/

namespace SqlTemplate.Template.Direct

variable {τ : Type}

/-- The text of a template before its first computation, with raw values spliced in, and each
computation with the text after it. -/
def stretches : List String → List (Embedded τ) → List Char × List (τ × List Char)
  | [], _ => ([], [])
  | fragment :: _, [] => (fragment.toList, [])
  | fragment :: fragments, .raw value :: embedded =>
    (fragment.toList ++ value.display.toList ++ (stretches fragments embedded).1,
      (stretches fragments embedded).2)
  | fragment :: fragments, .computed compute :: embedded =>
    (fragment.toList, (compute, (stretches fragments embedded).1) ::
      (stretches fragments embedded).2)

inductive Item (τ : Type)
  | char (c : Char)
  | named (name : List Char) (tag : Option (List Char))
  | computed (compute : τ)

/-- A text read from left to right. A character stands for itself where no placeholder begins. -/
inductive Scanned : List Char → List (Item τ) → Prop
  | done : Scanned [] []
  | mark {text name rest : List Char} {tag : Option (List Char)} {items : List (Item τ)} :
      Placeholder.Marked text name tag rest → Scanned rest items →
      Scanned text (.named name tag :: items)
  | char {c : Char} {rest : List Char} {items : List (Item τ)} :
      (∀ name tag after, ¬Placeholder.Marked (c :: rest) name tag after) → Scanned rest items →
      Scanned (c :: rest) (.char c :: items)

/-- Stretches of text, each scanned on its own, with the computations between them. -/
inductive Reads : List Char → List (τ × List Char) → List (Item τ) → Prop
  | last {text : List Char} {items : List (Item τ)} : Scanned text items → Reads text [] items
  | next {text after : List Char} {compute : τ} {later : List (τ × List Char)}
      {items rest : List (Item τ)} : Scanned text items → Reads after later rest →
      Reads text ((compute, after) :: later) (items ++ .computed compute :: rest)

def tags : List (Item τ) → List (List Char)
  | [] => []
  | .named _ (some tag) :: rest => tag :: tags rest
  | _ :: rest => tags rest

def IsTag (tag : List Char) : Prop :=
  ∃ type : ParamType, tag.map Char.toLower = type.tag.toList

/-- The text of some items. A marker stands for each placeholder and each computation; they count
from `next`. -/
def textOf (next : Nat) : List (Item τ) → List Char
  | [] => []
  | .char c :: rest => c :: textOf next rest
  | .named _ _ :: rest => '$' :: (Number.digits next ++ textOf (next + 1) rest)
  | .computed _ :: rest => '$' :: (Number.digits next ++ textOf (next + 1) rest)

/-- One parameter for each placeholder and each computation; the computations count from `slot`. -/
def paramsOf (slot : Nat) : List (Item τ) → Except TemplateError (List (Param τ))
  | [] => .ok []
  | .char _ :: rest => paramsOf slot rest
  | .named name tag :: rest => do
    let type ← ParamType.ofTagIfAny tag
    (paramsOf slot rest).map (⟨String.ofList name, type, .named⟩ :: ·)
  | .computed compute :: rest =>
    (paramsOf (slot + 1) rest).map
      (⟨"__transform_" ++ String.ofList (Number.digits slot) ++ "__", .string,
        .computed compute⟩ :: ·)

def assemble (items : List (Item τ)) : Except TemplateError (Statement τ) :=
  (paramsOf 0 items).map fun params => ⟨String.ofList (textOf 1 items), params⟩

/-! What scanning gives is unique, and there is always something. -/

theorem Scanned.unique {text : List Char} {items other : List (Item τ)}
    (scanned : Scanned text items) (again : Scanned text other) : other = items := by
  induction scanned generalizing other with
  | done =>
      cases again with
      | done => rfl
      | mark marked _ => cases marked
  | @mark text name rest tag items marked _ ih =>
      have found := Placeholder.marked_iff_read?.mp marked
      cases again with
      | done => cases marked
      | mark marked' rest' =>
          have found' := Placeholder.marked_iff_read?.mp marked'
          rw [found] at found'
          cases found'
          rw [ih rest']
      | char unmarked _ => exact absurd marked (unmarked _ _ _)
  | @char c rest items unmarked _ ih =>
      cases again with
      | mark marked _ => exact absurd marked (unmarked _ _ _)
      | char _ rest' => rw [ih rest']

theorem exists_scanned (text : List Char) : ∃ items : List (Item τ), Scanned text items := by
  induction length : text.length using Nat.strongRecOn generalizing text with
  | ind n ih =>
      subst length
      by_cases marks : ∃ name tag rest, Placeholder.Marked text name tag rest
      · obtain ⟨name, tag, rest, marked⟩ := marks
        obtain ⟨items, scanned⟩ := ih rest.length marked.length_lt rest rfl
        exact ⟨_, .mark marked scanned⟩
      · cases text with
        | nil => exact ⟨[], .done⟩
        | cons c rest =>
            obtain ⟨items, scanned⟩ := ih rest.length (by simp) rest rfl
            refine ⟨_, .char ?_ scanned⟩
            intro name tag after marked
            exact marks ⟨name, tag, after, marked⟩

theorem Reads.unique {text : List Char} {later : List (τ × List Char)}
    {items other : List (Item τ)} (reads : Reads text later items)
    (again : Reads text later other) : other = items := by
  induction reads generalizing other with
  | last scanned =>
      cases again with
      | last scanned' => exact scanned.unique scanned'
  | next scanned _ ih =>
      cases again with
      | next scanned' rest' => rw [scanned.unique scanned', ih rest']

theorem exists_reads (text : List Char) (later : List (τ × List Char)) :
    ∃ items, Reads text later items := by
  obtain ⟨items, scanned⟩ := exists_scanned (τ := τ) text
  induction later generalizing text items with
  | nil => exact ⟨items, .last scanned⟩
  | cons first later ih =>
      obtain ⟨compute, after⟩ := first
      obtain ⟨items', scanned'⟩ := exists_scanned after
      obtain ⟨rest, reads⟩ := ih after items' scanned'
      exact ⟨_, .next scanned reads⟩

/-! The only failure is a tag that names no type. -/

theorem ofTag?_eq_none_iff {tag : List Char} : ParamType.ofTag? tag = none ↔ ¬IsTag tag := by
  simp only [ParamType.ofTag?, List.find?_eq_none, beq_iff_eq, IsTag, not_exists]
  constructor
  · intro none type same
    exact none type (by cases type <;> decide) same.symm
  · intro none type _ same
    exact none type same.symm

theorem ofTag_of_isTag {tag : List Char} (known : IsTag tag) :
    ∃ type, ParamType.ofTag tag = .ok type := by
  cases declared : ParamType.ofTag? tag with
  | none => exact absurd known (ofTag?_eq_none_iff.mp declared)
  | some type => exact ⟨type, by rw [ParamType.ofTag, declared]⟩

theorem ofTag_of_not_isTag {tag : List Char} (unknown : ¬IsTag tag) :
    ParamType.ofTag tag = .error (.unknownType (String.ofList tag)) := by
  rw [ParamType.ofTag, ofTag?_eq_none_iff.mpr unknown]

def FirstUnknown (tags : List (List Char)) (tag : List Char) : Prop :=
  ∃ earlier later, tags = earlier ++ tag :: later ∧ (∀ other ∈ earlier, IsTag other) ∧ ¬IsTag tag

theorem firstUnknown_cons_iff {first tag : List Char} {tags : List (List Char)}
    (known : IsTag first) : FirstUnknown (first :: tags) tag ↔ FirstUnknown tags tag := by
  constructor
  · rintro ⟨earlier, later, same, knownEarlier, unknown⟩
    cases earlier with
    | nil =>
        cases same
        exact absurd known unknown
    | cons other earlier =>
        cases same
        exact ⟨earlier, later, rfl, fun other member =>
          knownEarlier other (List.mem_cons_of_mem _ member), unknown⟩
  · rintro ⟨earlier, later, rfl, knownEarlier, unknown⟩
    refine ⟨first :: earlier, later, rfl, ?_, unknown⟩
    intro other member
    rcases List.mem_cons.mp member with here | inEarlier
    · exact here ▸ known
    · exact knownEarlier other inEarlier

theorem firstUnknown_cons_of_not {first tag : List Char} {tags : List (List Char)}
    (unknown : ¬IsTag first) : FirstUnknown (first :: tags) tag ↔ tag = first := by
  constructor
  · rintro ⟨earlier, later, same, knownEarlier, _⟩
    cases earlier with
    | nil =>
        cases same
        rfl
    | cons other earlier =>
        cases same
        exact absurd (knownEarlier first List.mem_cons_self) unknown
  · rintro rfl
    exact ⟨[], tags, rfl, by simp, unknown⟩

theorem exists_firstUnknown_iff {tags : List (List Char)} :
    (∃ tag, FirstUnknown tags tag) ↔ ∃ tag ∈ tags, ¬IsTag tag := by
  induction tags with
  | nil =>
      simp only [List.not_mem_nil, false_and, exists_false, iff_false, not_exists]
      rintro tag ⟨earlier, later, same, _⟩
      simp at same
  | cons first tags ih =>
      by_cases known : IsTag first
      · simp [firstUnknown_cons_iff known, ih, known]
      · simp [firstUnknown_cons_of_not known, known]

theorem paramsOf_eq_error_iff (slot : Nat) (items : List (Item τ)) (e : TemplateError) :
    paramsOf slot items = .error e ↔
      ∃ tag, FirstUnknown (tags items) tag ∧ e = .unknownType (String.ofList tag) := by
  induction items generalizing slot with
  | nil =>
      simp only [paramsOf, tags, reduceCtorEq, false_iff]
      rintro ⟨tag, ⟨earlier, later, same, _⟩, _⟩
      simp at same
  | cons item rest ih =>
      cases item with
      | char c => exact ih slot
      | computed compute =>
          rw [paramsOf, Result.map_eq_error_iff]
          exact ih (slot + 1)
      | named name tag? =>
          rw [paramsOf, Result.bind_eq_error_iff]
          simp only [Result.map_eq_error_iff, ih]
          cases tag? with
          | none => simp [ParamType.ofTagIfAny, tags]
          | some first =>
              by_cases known : IsTag first
              · obtain ⟨type, declared⟩ := ofTag_of_isTag known
                simp [ParamType.ofTagIfAny, declared, tags, firstUnknown_cons_iff known]
              · have declared := ofTag_of_not_isTag known
                simp [ParamType.ofTagIfAny, declared, tags, firstUnknown_cons_of_not known, eq_comm]

end SqlTemplate.Template.Direct
