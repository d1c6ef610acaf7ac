import SqlTemplate.Proofs.Schema.Heading
import SqlTemplate.Proofs.Schema.Nesting

/-!
Keywords that are whole words outside quotes and parentheses. The text before such a place in a
balanced text is balanced itself, so a keyword is found where the first one stands.
-/

namespace SqlTemplate.Schema

def Nesting.through (nesting : Nesting) (text : List Char) : Nesting :=
  text.foldl Nesting.step nesting

@[simp] theorem Nesting.through_append (nesting : Nesting) (first second : List Char) :
    nesting.through (first ++ second) = (nesting.through first).through second :=
  List.foldl_append

theorem Passes.through {stop : Nesting → Char → Prop} {nesting out : Nesting} {text : List Char}
    (passes : Passes stop nesting text out) : nesting.through text = out := by
  induction passes with
  | done => rfl
  | step _ _ ih => exact ih

theorem Balanced.through {commas : Bool} {text : List Char} (balanced : Balanced commas text)
    (depth : Nat) : Nesting.through ⟨none, depth⟩ text = ⟨none, depth⟩ := by
  have free : StopsAround (fun _ _ => False) commas depth :=
    ⟨fun _ _ stopped => stopped.elim, fun _ _ stopped => stopped.elim⟩
  exact (balanced.passes free).through

theorem through_in_quotes {quote : Char} {text : List Char} (absent : quote ∉ text) (depth : Nat) :
    Nesting.through ⟨some quote, depth⟩ text = ⟨some quote, depth⟩ := by
  induction text with
  | nil => rfl
  | cons c text ih =>
      rw [List.mem_cons, not_or] at absent
      have here : Nesting.step ⟨some quote, depth⟩ c = ⟨some quote, depth⟩ := by
        simp [Nesting.step, Ne.symm absent.1]
      rw [Nesting.through, List.foldl_cons, here]
      exact ih absent.2

theorem through_quoted {quote : Char} {inner : List Char} (absent : quote ∉ inner) (depth : Nat)
    (text : List Char) : Nesting.through ⟨some quote, depth⟩ (inner ++ quote :: text) =
      Nesting.through ⟨none, depth⟩ text := by
  rw [Nesting.through_append, through_in_quotes absent]
  simp [Nesting.through, Nesting.step]

@[simp] theorem through_opened (depth : Nat) (text : List Char) :
    Nesting.through ⟨none, depth⟩ ('(' :: text) = Nesting.through ⟨none, depth + 1⟩ text := by
  simp [Nesting.through, Nesting.step]

theorem Balanced.through_group {commas : Bool} {inner : List Char}
    (balanced : Balanced commas inner) (depth : Nat) (text : List Char) :
    Nesting.through ⟨none, depth + 1⟩ (inner ++ ')' :: text) =
      Nesting.through ⟨none, depth⟩ text := by
  rw [Nesting.through_append, balanced.through]
  simp [Nesting.through, Nesting.step]

theorem place_cases {inner text before after : List Char} {close : Char}
    (same : inner ++ close :: text = before ++ after) :
    (∃ rest, inner = before ++ rest) ∨
      ∃ more, before = inner ++ close :: more ∧ text = more ++ after := by
  rcases List.append_eq_append_iff.mp same with ⟨more, rfl, closes⟩ | ⟨rest, inside, _⟩
  · cases more with
    | nil => exact Or.inl ⟨[], by simp⟩
    | cons c more =>
        rw [List.cons_append, List.cons.injEq] at closes
        obtain ⟨rfl, later⟩ := closes
        exact Or.inr ⟨more, rfl, later⟩
  · exact Or.inl ⟨rest, inside⟩

/-- No place in a balanced text lies outside the nesting it is entered in, and the text before a
place in just that nesting is balanced. -/
theorem Balanced.place {commas : Bool} {text before after : List Char}
    (balanced : Balanced commas text) (same : text = before ++ after) (depth : Nat) :
    depth ≤ (Nesting.through ⟨none, depth⟩ before).depth ∧
      (Nesting.through ⟨none, depth⟩ before = ⟨none, depth⟩ → Balanced commas before) := by
  induction balanced generalizing before after depth with
  | nil =>
      obtain ⟨rfl, _⟩ := List.append_eq_nil_iff.mp same.symm
      exact ⟨Nat.le_refl depth, fun _ => .nil⟩
  | @plain commas c text plain _ ih =>
      cases before with
      | nil => exact ⟨Nat.le_refl depth, fun _ => .nil⟩
      | cons d before =>
          rw [List.cons_append, List.cons.injEq] at same
          obtain ⟨rfl, same⟩ := same
          rw [Nesting.through, List.foldl_cons, step_plain plain]
          obtain ⟨bound, balanced⟩ := ih same depth
          exact ⟨bound, fun out => .plain plain (balanced out)⟩
  | @quoted commas quote inner text isQuote absent _ ih =>
      cases before with
      | nil => exact ⟨Nat.le_refl depth, fun _ => .nil⟩
      | cons d before =>
          rw [List.cons_append, List.cons.injEq] at same
          obtain ⟨rfl, same⟩ := same
          have opened : Nesting.through ⟨none, depth⟩ (quote :: before) =
              Nesting.through ⟨some quote, depth⟩ before := by
            rw [Nesting.through, List.foldl_cons, step_quote isQuote]
            rfl
          rw [opened]
          rcases place_cases same with ⟨rest, rfl⟩ | ⟨more, rfl, later⟩
          · have inside : quote ∉ before := fun member => absent (List.mem_append_left _ member)
            rw [through_in_quotes inside]
            exact ⟨Nat.le_refl depth, fun out => nomatch out⟩
          · obtain ⟨bound, balanced⟩ := ih later depth
            rw [through_quoted absent]
            exact ⟨bound, fun out => .quoted isQuote absent (balanced out)⟩
  | @group commas inner text inside _ ihInner ih =>
      cases before with
      | nil => exact ⟨Nat.le_refl depth, fun _ => .nil⟩
      | cons d before =>
          rw [List.cons_append, List.cons.injEq] at same
          obtain ⟨rfl, same⟩ := same
          rw [through_opened]
          rcases place_cases same with ⟨rest, within⟩ | ⟨more, rfl, later⟩
          · obtain ⟨bound, _⟩ := ihInner within (depth + 1)
            refine ⟨by omega, ?_⟩
            intro out
            rw [out] at bound
            exact absurd bound (Nat.not_succ_le_self depth)
          · obtain ⟨bound, balanced⟩ := ih later depth
            rw [inside.through_group]
            exact ⟨bound, fun out => .group inside (balanced out)⟩

def Opens (keyword : String) (text : List Char) : Prop :=
  ∃ spelled after, text = spelled ++ after ∧ spelled.map Char.toLower = keyword.toList ∧
    Text.Stops Text.isBareLater after

/-- A keyword stands in a text as a whole word outside quotes and parentheses. -/
def Mentions (keyword : String) (text : List Char) : Prop :=
  ∃ before after, text = before ++ after ∧ Balanced true before ∧
    Text.Stops Text.isBareLater before.reverse ∧ Opens keyword after

theorem Opens.mentions {keyword : String} {text : List Char} (opens : Opens keyword text) :
    Mentions keyword text :=
  ⟨[], text, rfl, .nil, Text.stops_nil, opens⟩

theorem afterKeyword?_eq_some_iff {keyword text after : List Char} :
    afterKeyword? keyword text = some after ↔
      ∃ spelled, text = spelled ++ after ∧ spelled.map Char.toLower = keyword := by
  induction keyword generalizing text with
  | nil =>
      rw [afterKeyword?, Option.some.injEq]
      constructor
      · rintro rfl
        exact ⟨[], rfl, rfl⟩
      · rintro ⟨spelled, rfl, none⟩
        rw [List.map_eq_nil_iff.mp none]
        rfl
  | cons k keyword ih =>
      cases text with
      | nil =>
          rw [afterKeyword?]
          constructor
          · intro found
            cases found
          · rintro ⟨spelled, same, spells⟩
            rw [(List.append_eq_nil_iff.mp same.symm).1] at spells
            cases spells
      | cons c text =>
          rw [afterKeyword?]
          split
          next read =>
            rw [ih]
            constructor
            · rintro ⟨spelled, rfl, rfl⟩
              exact ⟨c :: spelled, rfl, by rw [List.map_cons, read]⟩
            · rintro ⟨spelled, same, spells⟩
              cases spelled with
              | nil => cases spells
              | cons d spelled =>
                  rw [List.cons_append, List.cons.injEq] at same
                  rw [List.map_cons, List.cons.injEq] at spells
                  exact ⟨spelled, same.2, spells.2⟩
          next unread =>
            constructor
            · intro found
              cases found
            · rintro ⟨spelled, same, spells⟩
              cases spelled with
              | nil => cases spells
              | cons d spelled =>
                  rw [List.cons_append, List.cons.injEq] at same
                  rw [List.map_cons, List.cons.injEq, ← same.1] at spells
                  exact absurd spells.1 unread

theorem afterKeyword?_append {keyword text more : List Char}
    (lower : ∀ letter ∈ keyword, letter.isLower) (stops : Text.Stops Text.isBareLater more) :
    afterKeyword? keyword (text ++ more) = (afterKeyword? keyword text).map (· ++ more) := by
  induction keyword generalizing text with
  | nil => rfl
  | cons k keyword ih =>
      obtain ⟨first, later⟩ := List.forall_mem_cons.mp lower
      cases text with
      | nil =>
          cases more with
          | nil => rfl
          | cons c rest =>
              have unread : c.toLower ≠ k := by
                intro same
                have bare : Text.isBareLater c := by
                  simp [Text.isBareLater, Text.isAsciiWord, Char.isAlphanum,
                    isAlpha_of_toLower first same]
                rw [Text.stops_cons_iff.mp stops] at bare
                contradiction
              simp [afterKeyword?, unread]
      | cons c text =>
          rw [List.cons_append, afterKeyword?, afterKeyword?]
          split
          next => exact ih later
          next => rfl

theorem continuesWord_eq_false_iff {text : List Char} :
    continuesWord text = false ↔ Text.Stops Text.isBareLater text := by
  cases text with
  | nil => exact iff_of_true rfl Text.stops_nil
  | cons c rest =>
      rw [Text.stops_cons_iff]
      rfl

theorem continuesWord_append {more : List Char} (stops : Text.Stops Text.isBareLater more)
    (text : List Char) : continuesWord (text ++ more) = continuesWord text := by
  cases text with
  | nil => exact continuesWord_eq_false_iff.mpr stops
  | cons c text => rfl

section

variable {keyword : String} (word : Keyword keyword)

include word in
theorem isBareLater_of_spelled {spelled : List Char}
    (spells : spelled.map Char.toLower = keyword.toList) : ∀ c ∈ spelled, Text.isBareLater c := by
  intro c member
  have letter : c.toLower ∈ keyword.toList := by
    rw [← spells]
    exact List.mem_map_of_mem member
  have alpha := isAlpha_of_toLower (word.2 _ letter) rfl
  simp [Text.isBareLater, Text.isAsciiWord, Char.isAlphanum, alpha]

include word in
theorem ne_nil_of_spelled {spelled : List Char}
    (spells : spelled.map Char.toLower = keyword.toList) : spelled ≠ [] := by
  rintro rfl
  exact word.1 spells.symm

theorem mem_of_mentions {text : List Char} (mentions : Mentions keyword text) :
    ∀ letter ∈ keyword.toList, ∃ c ∈ text, c.toLower = letter := by
  obtain ⟨before, after, rfl, _, _, spelled, rest, rfl, spells, _⟩ := mentions
  intro letter member
  rw [← spells] at member
  obtain ⟨c, inside, rfl⟩ := List.mem_map.mp member
  exact ⟨c, by simp [inside], rfl⟩

include word in
theorem Opens.of_append {text more : List Char} (opens : Opens keyword (text ++ more))
    (stops : Text.Stops Text.isBareLater more) : Opens keyword text := by
  obtain ⟨spelled, after, same, spells, ends⟩ := opens
  obtain ⟨rest, rfl, rfl⟩ :=
    Text.append_of_stops spelled same (isBareLater_of_spelled word spells) stops
  exact ⟨spelled, rest, rfl, spells, ends.of_append⟩

theorem opens_of_afterKeyword? {text after : List Char}
    (read : afterKeyword? keyword.toList text = some after) (ends : continuesWord after = false) :
    Opens keyword text := by
  obtain ⟨spelled, same, spells⟩ := afterKeyword?_eq_some_iff.mp read
  exact ⟨spelled, after, same, spells, continuesWord_eq_false_iff.mp ends⟩

/-- The text before the keyword is longer by a text that was passed. -/
def behind (text : List Char) (parts : List Char × List Char) : List Char × List Char :=
  (text ++ parts.1, parts.2)

@[simp] theorem map_behind_nil (parts : Option (List Char × List Char)) :
    parts.map (behind []) = parts := by
  cases parts <;> rfl

@[simp]
theorem map_behind_behind (first second : List Char) (parts : Option (List Char × List Char)) :
    (parts.map (behind second)).map (behind first) = parts.map (behind (first ++ second)) := by
  cases parts <;> simp [behind]

include word in
theorem afterKeyword?_eq_none {c : Char} (outside : Text.isBareLater c = false) (rest : List Char) :
    afterKeyword? keyword.toList (c :: rest) = none := by
  cases read : afterKeyword? keyword.toList (c :: rest) with
  | none => rfl
  | some after =>
      obtain ⟨spelled, same, spells⟩ := afterKeyword?_eq_some_iff.mp read
      obtain ⟨d, later, rfl⟩ := List.exists_cons_of_ne_nil (ne_nil_of_spelled word spells)
      rw [List.cons_append, List.cons.injEq] at same
      have bare := isBareLater_of_spelled word spells d List.mem_cons_self
      rw [← same.1, outside] at bare
      contradiction

include word in
theorem splitAtKeyword?_cons {c : Char} (outside : Text.isBareLater c = false) (inWord : Bool)
    (nesting : Nesting) (rest : List Char) :
    splitAtKeyword? keyword.toList inWord nesting (c :: rest) =
      (splitAtKeyword? keyword.toList false (nesting.step c) rest).map (behind [c]) := by
  rw [splitAtKeyword?, afterKeyword?_eq_none word outside, outside]
  split
  next after found => simp at found
  next => rfl

include word in
theorem splitAtKeyword?_run {run : List Char} {nesting : Nesting}
    (outside : ∀ c ∈ run, Text.isBareLater c = false) (still : ∀ c ∈ run, nesting.step c = nesting)
    (more : List Char) : splitAtKeyword? keyword.toList false nesting (run ++ more) =
      (splitAtKeyword? keyword.toList false nesting more).map (behind run) := by
  induction run with
  | nil => exact (map_behind_nil _).symm
  | cons c run ih =>
      obtain ⟨first, later⟩ := List.forall_mem_cons.mp outside
      obtain ⟨first', later'⟩ := List.forall_mem_cons.mp still
      rw [List.cons_append, splitAtKeyword?_cons word first, first', ih later later',
        map_behind_behind]
      rfl

include word in
theorem splitAtKeyword?_inWord {more : List Char} (stops : Text.Stops Text.isBareLater more)
    (inWord : Bool) (nesting : Nesting) :
    splitAtKeyword? keyword.toList inWord nesting more =
      splitAtKeyword? keyword.toList false nesting more := by
  cases more with
  | nil => rfl
  | cons c rest =>
      have outside := Text.stops_cons_iff.mp stops
      rw [splitAtKeyword?_cons word outside, splitAtKeyword?_cons word outside]

include word in
theorem splitAtKeyword?_spelled {spelled after : List Char}
    (spells : spelled.map Char.toLower = keyword.toList)
    (stops : Text.Stops Text.isBareLater after) :
    splitAtKeyword? keyword.toList false .outside (spelled ++ after) = some ([], after) := by
  have read : afterKeyword? keyword.toList (spelled ++ after) = some after :=
    afterKeyword?_eq_some_iff.mpr ⟨spelled, rfl, spells⟩
  obtain ⟨c, later, rfl⟩ := List.exists_cons_of_ne_nil (ne_nil_of_spelled word spells)
  rw [List.cons_append] at read ⊢
  have ends : (some after).filter (fun after => !continuesWord after) = some after := by
    simp [Option.filter, continuesWord_eq_false_iff.mpr stops]
  simp [splitAtKeyword?, read, ends]

theorem splitAtKeyword?_parts {inWord : Bool} {nesting : Nesting} {text before after : List Char}
    (found : splitAtKeyword? keyword.toList inWord nesting text = some (before, after)) :
    ∃ spelled, text = before ++ (spelled ++ after) ∧ spelled.map Char.toLower = keyword.toList ∧
      Text.Stops Text.isBareLater after := by
  induction text generalizing inWord nesting before with
  | nil => cases found
  | cons c text ih =>
      rw [splitAtKeyword?] at found
      split at found
      next rest read =>
        cases found
        obtain ⟨here, stops⟩ := Option.filter_eq_some_iff.mp read
        split at here
        next =>
          obtain ⟨spelled, same, spells⟩ := afterKeyword?_eq_some_iff.mp here
          exact ⟨spelled, same, spells, continuesWord_eq_false_iff.mp (by simpa using stops)⟩
        next => cases here
      next =>
        obtain ⟨⟨first, second⟩, later, same⟩ := Option.map_eq_some_iff.mp found
        cases same
        obtain ⟨spelled, rfl, spells, stops⟩ := ih later
        exact ⟨spelled, rfl, spells, stops⟩

theorem splitAtKeyword?_sound {inWord : Bool} {nesting : Nesting} {text before after : List Char}
    (found : splitAtKeyword? keyword.toList inWord nesting text = some (before, after)) :
    ∃ rest, text = before ++ rest ∧ Opens keyword rest := by
  obtain ⟨spelled, same, spells, stops⟩ := splitAtKeyword?_parts found
  exact ⟨spelled ++ after, same, spelled, after, rfl, spells, stops⟩

include word in
theorem exists_splitAtKeyword? {before after : List Char} {inWord : Bool} {nesting : Nesting}
    (out : nesting.through before = .outside) (apart : before = [] → inWord = false)
    (stops : Text.Stops Text.isBareLater before.reverse) (opens : Opens keyword after) :
    ∃ parts, splitAtKeyword? keyword.toList inWord nesting (before ++ after) = some parts := by
  induction before generalizing inWord nesting with
  | nil =>
      obtain ⟨spelled, rest, rfl, spells, ends⟩ := opens
      obtain rfl : nesting = .outside := out
      exact ⟨_, apart rfl ▸ splitAtKeyword?_spelled word spells ends⟩
  | cons c before ih =>
      rw [List.reverse_cons] at stops
      have last : before = [] → Text.isBareLater c = false := by
        rintro rfl
        exact Text.stops_cons_iff.mp stops
      obtain ⟨parts, later⟩ := ih out last stops.of_append
      rw [List.cons_append, splitAtKeyword?]
      split
      next => exact ⟨_, rfl⟩
      next => exact ⟨_, by rw [later, Option.map_some]⟩

include word in
theorem not_mentions_of_splitAtKeyword? {text : List Char}
    (none : splitAtKeyword? keyword.toList false .outside text = none) :
    ¬Mentions keyword text := by
  rintro ⟨before, after, rfl, balanced, stops, opens⟩
  obtain ⟨parts, found⟩ :=
    exists_splitAtKeyword? word (balanced.through 0) (fun _ => rfl) stops opens
  change splitAtKeyword? keyword.toList false .outside (before ++ after) = some parts at found
  rw [found] at none
  cases none

include word in
/-- The text is read from any place in it. What is before the place ends in no word, if none is
read there. -/
theorem Balanced.splitAtKeyword?_from {commas : Bool} {text more : List Char}
    (balanced : Balanced commas text) (absent : ¬Mentions keyword text)
    (stops : Text.Stops Text.isBareLater more) {before rest : List Char} {inWord : Bool}
    (same : text = before ++ rest)
    (apart : inWord = false → Text.Stops Text.isBareLater before.reverse) :
    splitAtKeyword? keyword.toList inWord (Nesting.outside.through before) (rest ++ more) =
      (splitAtKeyword? keyword.toList false .outside more).map (behind rest) := by
  induction rest generalizing before inWord with
  | nil =>
      rw [List.append_nil] at same
      have out : Nesting.outside.through before = .outside := same ▸ balanced.through 0
      rw [List.nil_append, out, splitAtKeyword?_inWord word stops]
      cases splitAtKeyword? keyword.toList false .outside more <;> rfl
  | cons c rest ih =>
      have none : (if Nesting.outside.through before = .outside ∧ !inWord then
          afterKeyword? keyword.toList (c :: rest ++ more) else none).filter
            (fun after => !continuesWord after) = none := by
        rw [Option.filter_eq_none_iff]
        intro after read
        split at read
        next place =>
          -- A keyword that begins here would end before the text behind, and be mentioned.
          intro ends
          exact absent ⟨before, c :: rest, same, ((balanced.place same 0).2 place.1).allow,
            apart (by simpa using place.2),
            (opens_of_afterKeyword? read (by simpa using ends)).of_append word stops⟩
        next => cases read
      have apart' : Text.isBareLater c = false →
          Text.Stops Text.isBareLater (before ++ [c]).reverse := by
        intro outside
        rw [List.reverse_append]
        exact Text.stops_cons_iff.mpr outside
      have later := @ih (before ++ [c]) (Text.isBareLater c) (by simpa using same) apart'
      rw [Nesting.through_append] at later
      rw [List.cons_append] at none ⊢
      rw [splitAtKeyword?, none]
      change (splitAtKeyword? _ _ (Nesting.through _ [c]) _).map _ = _
      rw [later, Option.map_map]
      rfl

include word in
theorem Balanced.splitAtKeyword?_append {commas : Bool} {text more : List Char}
    (balanced : Balanced commas text) (absent : ¬Mentions keyword text)
    (stops : Text.Stops Text.isBareLater more) :
    splitAtKeyword? keyword.toList false .outside (text ++ more) =
      (splitAtKeyword? keyword.toList false .outside more).map (behind text) :=
  balanced.splitAtKeyword?_from word absent stops (List.nil_append text).symm
    fun _ => Text.stops_nil

include word in
theorem splitAtKeyword?_followed {more : List Char}
    (stops : Text.Stops Text.isBareLater more)
    (nothing : ∀ inWord nesting, splitAtKeyword? keyword.toList inWord nesting more = none)
    (inWord : Bool) (nesting : Nesting) (text : List Char) :
    splitAtKeyword? keyword.toList inWord nesting (text ++ more) =
      (splitAtKeyword? keyword.toList inWord nesting text).map
        fun (before, after) => (before, after ++ more) := by
  induction text generalizing inWord nesting with
  | nil => exact nothing inWord nesting
  | cons c text ih =>
      have whole : (afterKeyword? keyword.toList (c :: text ++ more)).filter
            (fun after => !continuesWord after) =
          ((afterKeyword? keyword.toList (c :: text)).filter
            fun after => !continuesWord after).map (· ++ more) := by
        rw [afterKeyword?_append word.2 stops]
        cases afterKeyword? keyword.toList (c :: text) with
        | none => rfl
        | some after =>
            cases continues : continuesWord after <;>
              simp [Option.filter, continuesWord_append stops, continues]
      rw [List.cons_append] at whole ⊢
      rw [splitAtKeyword?, splitAtKeyword?, ih]
      by_cases place : nesting = .outside ∧ (!inWord) = true
      · rw [if_pos place, if_pos place, whole]
        cases (afterKeyword? keyword.toList (c :: text)).filter
            fun after => !continuesWord after with
        | some after => rfl
        | none =>
            cases splitAtKeyword? keyword.toList (Text.isBareLater c) (nesting.step c) text <;> rfl
      · rw [if_neg place, if_neg place]
        cases splitAtKeyword? keyword.toList (Text.isBareLater c) (nesting.step c) text <;> rfl

end

end SqlTemplate.Schema
