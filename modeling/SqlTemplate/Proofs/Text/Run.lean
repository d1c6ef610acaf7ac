import SqlTemplate.Text.After

/-! The longest run of characters of one class at the start of a text. -/

namespace SqlTemplate.Text

/-- What all characters of a text are like is decided on those in it. Without this it may be decided
on all characters there are, one after the other. -/
instance decidableForallMem (q : Char → Prop) [DecidablePred q] (text : List Char) :
    Decidable (∀ c ∈ text, q c) :=
  List.decidableBAll q text

variable {p : Char → Bool}

/-- No character of the class comes first. -/
def Stops (p : Char → Bool) (text : List Char) : Prop :=
  ∀ c rest, text = c :: rest → p c = false

theorem not_mem_of_outside {c : Char} {chars : List Char} (inside : p c)
    (outside : ∀ d ∈ chars, p d = false) : c ∉ chars := by
  intro member
  rw [outside c member] at inside
  contradiction

@[simp] theorem stops_nil : Stops p [] := by
  intro c rest same
  cases same

@[simp]
theorem stops_cons_iff {c : Char} {rest : List Char} : Stops p (c :: rest) ↔ p c = false := by
  constructor
  · intro stops
    exact stops c rest rfl
  · intro outside other after same
    cases same
    exact outside

instance decidableStops (p : Char → Bool) (text : List Char) : Decidable (Stops p text) :=
  match text with
  | [] => isTrue stops_nil
  | c :: _ => decidable_of_iff (p c = false) stops_cons_iff.symm

theorem Stops.of_append {text rest : List Char} (stops : Stops p (text ++ rest)) :
    Stops p text := by
  intro c after same
  exact stops c (after ++ rest) (by rw [same, List.cons_append])

theorem Stops.take {text : List Char} (stops : Stops p text) (count : Nat) :
    Stops p (text.take count) := by
  rw [← List.take_append_drop count text] at stops
  exact stops.of_append

theorem stops_of_outside {text : List Char} (outside : ∀ c ∈ text, p c = false) : Stops p text := by
  rintro c rest rfl
  exact outside c List.mem_cons_self

theorem Stops.append {text rest : List Char} (first : Stops p text) (second : Stops p rest) :
    Stops p (text ++ rest) := by
  cases text with
  | nil => exact second
  | cons c after => exact stops_cons_iff.mpr (stops_cons_iff.mp first)

theorem Stops.append_of_ne_nil {text : List Char} (stops : Stops p text) (filled : text ≠ [])
    (rest : List Char) : Stops p (text ++ rest) := by
  obtain ⟨c, after, rfl⟩ := List.exists_cons_of_ne_nil filled
  exact stops_cons_iff.mpr (stops_cons_iff.mp stops)

theorem Stops.of_reverse_append {text rest : List Char} (stops : Stops p (text ++ rest).reverse) :
    Stops p rest.reverse := by
  rw [List.reverse_append] at stops
  exact stops.of_append

theorem Stops.mono {q : Char → Bool} {text : List Char} (within : ∀ c, q c → p c)
    (stops : Stops p text) : Stops q text := by
  intro c after same
  have outside := stops c after same
  cases inside : q c with
  | false => rfl
  | true =>
      rw [within c inside] at outside
      contradiction

theorem stops_dropWhile (p : Char → Bool) (text : List Char) : Stops p (text.dropWhile p) := by
  induction text with
  | nil => exact stops_nil
  | cons c rest ih =>
      by_cases inside : p c
      · rwa [List.dropWhile_cons_of_pos inside]
      · rw [List.dropWhile_cons_of_neg inside]
        exact stops_cons_iff.mpr (by simpa using inside)

theorem takeWhile_append_of_stops {run rest : List Char} (inside : ∀ c ∈ run, p c)
    (stops : Stops p rest) : (run ++ rest).takeWhile p = run := by
  rw [List.takeWhile_append_of_pos inside]
  cases rest with
  | nil => simp
  | cons c after => simp [stops_cons_iff.mp stops]

theorem takeWhile_eq_self {text : List Char} (inside : ∀ c ∈ text, p c) :
    text.takeWhile p = text := by
  simpa using takeWhile_append_of_stops inside stops_nil

theorem dropWhile_append_of_stops {run rest : List Char} (inside : ∀ c ∈ run, p c)
    (stops : Stops p rest) : (run ++ rest).dropWhile p = rest := by
  rw [List.dropWhile_append_of_pos inside]
  cases rest with
  | nil => rfl
  | cons c after => simp [stops_cons_iff.mp stops]

theorem dropWhile_ne_append {d : Char} {run : List Char} (absent : d ∉ run) (rest : List Char) :
    (run ++ rest).dropWhile (· != d) = rest.dropWhile (· != d) := by
  apply List.dropWhile_append_of_pos
  intro c member
  rw [bne_iff_ne]
  rintro rfl
  exact absent member

theorem splitAtFirst?_mark {d : Char} {run : List Char} (absent : d ∉ run) (rest : List Char) :
    splitAtFirst? [d] (run ++ d :: rest) = some (run, rest) := by
  induction run with
  | nil => simp [splitAtFirst?, after?]
  | cons c run ih =>
      rw [List.mem_cons, not_or] at absent
      simp [splitAtFirst?, after?, absent.1, ih absent.2]

theorem Stops.takeWhile_append (text : List Char) {more : List Char} (stops : Stops p more) :
    (text ++ more).takeWhile p = text.takeWhile p := by
  induction text with
  | nil => simpa using @takeWhile_append_of_stops p [] more (by simp) stops
  | cons c rest ih =>
      simp only [List.cons_append, List.takeWhile_cons, ih]

theorem Stops.dropWhile_append (text : List Char) {more : List Char} (stops : Stops p more) :
    (text ++ more).dropWhile p = text.dropWhile p ++ more := by
  induction text with
  | nil => simpa using @dropWhile_append_of_stops p [] more (by simp) stops
  | cons c rest ih =>
      by_cases inside : p c
      · simpa [inside] using ih
      · simp [inside]

theorem append_of_stops (opening : List Char) {out text more : List Char}
    (same : text ++ more = opening ++ out) (inside : ∀ c ∈ opening, p c) (stops : Stops p more) :
    ∃ rest, text = opening ++ rest ∧ out = rest ++ more := by
  induction opening generalizing text with
  | nil => exact ⟨text, rfl, same.symm⟩
  | cons c opening ih =>
      have first : p c := inside c List.mem_cons_self
      cases text with
      | nil =>
          have outside := stops c (opening ++ out) same
          rw [first] at outside
          contradiction
      | cons d text =>
          simp only [List.cons_append, List.cons.injEq] at same
          have insideRest : ∀ e ∈ opening, p e :=
            fun e member => inside e (List.mem_cons_of_mem c member)
          obtain ⟨rest, rfl, rfl⟩ := ih same.2 insideRest
          exact ⟨rest, by rw [same.1, List.cons_append], rfl⟩

end SqlTemplate.Text
