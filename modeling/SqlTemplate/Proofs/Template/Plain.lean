import SqlTemplate.Proofs.Template.Resolved
import SqlTemplate.Proofs.Template.Seam

/-!
Statements of plain texts, in which nothing is embedded. Every placeholder that stands in the text
is read, since none overlaps another, and the text is a statement exactly when each of them is
named and has a known type.
-/

namespace SqlTemplate

namespace Placeholder

def Known : Placeholder → Prop
  | .named _ none => True
  | .named _ (some tag) => Template.Direct.IsTag tag
  | .slot _ => False

def StandsIn (name : List Char) (tag : Option (List Char)) (text : List Char) : Prop :=
  ∃ before opened rest, text = before ++ opened ∧ Marked opened name tag rest

theorem StandsIn.append_left {name text : List Char} {tag : Option (List Char)}
    (stands : StandsIn name tag text) (before : List Char) :
    StandsIn name tag (before ++ text) := by
  obtain ⟨earlier, opened, rest, rfl, marked⟩ := stands
  exact ⟨before ++ earlier, opened, rest, (List.append_assoc _ _ _).symm, marked⟩

theorem StandsIn.opening_mem {name text : List Char} {tag : Option (List Char)}
    (stands : StandsIn name tag text) : '$' ∈ text ∧ '(' ∈ text := by
  obtain ⟨before, opened, rest, rfl, marked⟩ := stands
  obtain ⟨after, rfl⟩ := marked.opens
  simp

theorem StandsIn.of_inner {name inner rest before opened after : List Char}
    {tag : Option (List Char)} (inside : ∀ c ∈ inner, isInner c)
    (same : inner ++ rest = before ++ opened) (marked : Marked opened name tag after) :
    StandsIn name tag rest := by
  obtain ⟨opening, rfl⟩ := marked.opens
  rcases List.append_eq_append_iff.mp same with ⟨later, rfl, rfl⟩ | ⟨overlap, rfl, opens⟩
  · exact ⟨later, _, after, rfl, marked⟩
  · cases overlap with
    | nil => exact ⟨[], _, after, opens.symm, marked⟩
    | cons c overlap =>
        -- The dollar sign of the placeholder would be an inner character.
        rw [List.cons_append, List.cons.injEq] at opens
        have dollar := inside c (by simp)
        rw [← opens.1] at dollar
        exact absurd dollar (by decide)

theorem mem_split_iff {text name : List Char} {tag : Option (List Char)} :
    .mark (.named name tag) ∈ Piece.split text ↔ StandsIn name tag text := by
  induction length : text.length using Nat.strongRecOn generalizing text with
  | ind n ih =>
      subst length
      cases found : read? text with
      | some result =>
          obtain ⟨placeholder, rest⟩ := result
          obtain ⟨c, inner, same, inside⟩ := inner_of_read? found
          rw [Piece.split_of_read? found, List.mem_cons, ih _ (length_lt_of_read? found) rfl]
          constructor
          · rintro (here | later)
            · cases here
              exact ⟨[], text, rest, rfl, marked_iff_read?.mpr found⟩
            · rw [same]
              exact later.append_left (c :: inner)
          · rintro ⟨before, opened, after, parts, marked⟩
            cases before with
            | nil =>
                rw [parts, List.nil_append, marked_iff_read?.mp marked] at found
                cases found
                exact Or.inl rfl
            | cons d before =>
                rw [same, List.cons_append, List.cons.injEq] at parts
                exact Or.inr (StandsIn.of_inner inside parts.2 marked)
      | none =>
          cases text with
          | nil =>
              rw [Piece.split_nil]
              constructor
              · intro member
                cases member
              · intro stands
                cases stands.opening_mem.1
          | cons c rest =>
              rw [Piece.split_cons found, List.mem_cons, ih rest.length (by simp) rfl]
              constructor
              · rintro (here | later)
                · cases here
                · exact later.append_left [c]
              · rintro ⟨before, opened, after, parts, marked⟩
                cases before with
                | nil =>
                    rw [parts, List.nil_append, marked_iff_read?.mp marked] at found
                    cases found
                | cons d before =>
                    rw [List.cons_append, List.cons.injEq] at parts
                    exact Or.inr ⟨before, opened, after, parts.2, marked⟩

theorem nul_mem_of_slot_mem_split {text digits : List Char}
    (member : .mark (.slot digits) ∈ Piece.split text) : '\x00' ∈ text := by
  fun_induction Piece.split text with
  | case1 text placeholder rest found ih =>
      obtain ⟨c, inner, rfl, _⟩ := inner_of_read? found
      rcases List.mem_cons.mp member with here | later
      · cases here
        rw [eq_nul_of_read?_slot found]
        exact List.mem_cons_self
      · exact List.mem_cons_of_mem _ (List.mem_append_right _ (ih later))
  | case2 => cases member
  | case3 c rest nothing ih =>
      rcases List.mem_cons.mp member with here | later
      · cases here
      · exact List.mem_cons_of_mem _ (ih later)

/-! A text without NUL has named placeholders only. -/

theorem markless_iff {text : List Char} (clean : '\x00' ∉ text) :
    (∀ placeholder, .mark placeholder ∉ Piece.split text) ↔
      ∀ name tag, ¬StandsIn name tag text := by
  constructor
  · intro markless name tag stands
    exact markless _ (mem_split_iff.mpr stands)
  · intro none placeholder member
    cases placeholder with
    | named name tag => exact none name tag (mem_split_iff.mp member)
    | slot digits => exact clean (nul_mem_of_slot_mem_split member)

theorem allKnown_iff {text : List Char} (clean : '\x00' ∉ text) :
    (∀ placeholder, .mark placeholder ∈ Piece.split text → placeholder.Known) ↔
      ∀ name tag, StandsIn name (some tag) text → Template.Direct.IsTag tag := by
  constructor
  · intro known name tag stands
    exact known _ (mem_split_iff.mpr stands)
  · intro known placeholder member
    cases placeholder with
    | named name tag =>
        cases tag with
        | none => trivial
        | some tag => exact known name tag (mem_split_iff.mp member)
    | slot digits => exact absurd (nul_mem_of_slot_mem_split member) clean

end Placeholder

namespace Template

variable {τ : Type}

theorem not_mem_of_markCount_eq_zero {pieces : List Piece} (none : markCount pieces = 0)
    {placeholder : Placeholder} : .mark placeholder ∉ pieces := by
  induction pieces with
  | nil => exact List.not_mem_nil
  | cons piece rest ih =>
      cases piece with
      | char c => simpa using ih none
      | mark other => cases none

@[simp] theorem markCount_append (first second : List Piece) :
    markCount (first ++ second) = markCount first + markCount second := by
  fun_induction markCount first with
  | case1 => simp
  | case2 c rest ih => rw [List.cons_append, markCount, ih]
  | case3 placeholder rest ih =>
      rw [List.cons_append, markCount, ih]
      omega

theorem resolve_slot_ne_ok {digits : List Char} {param : Param τ} {left : List (Option τ)} :
    resolve [] (.slot digits) ≠ .ok (param, left) := by
  intro resolved
  rw [resolve] at resolved
  have taken := heldCount_of_takeSlot resolved
  simp [heldCount] at taken

theorem exists_resolve_iff {placeholder : Placeholder} :
    (∃ param : Param τ, resolve [] placeholder = .ok (param, [])) ↔ placeholder.Known := by
  cases placeholder with
  | named name tag =>
      cases tag with
      | none => exact iff_of_true ⟨_, rfl⟩ trivial
      | some tag =>
          by_cases known : Direct.IsTag tag
          · obtain ⟨type, declared⟩ := Direct.ofTag_of_isTag known
            refine iff_of_true ⟨.ofName (String.ofList name) type, ?_⟩ known
            rw [resolve, ParamType.ofTagIfAny, declared]
            rfl
          · refine iff_of_false ?_ known
            rintro ⟨param, resolved⟩
            rw [resolve, ParamType.ofTagIfAny, Direct.ofTag_of_not_isTag known] at resolved
            cases resolved
  | slot digits =>
      refine iff_of_false ?_ id
      rintro ⟨param, resolved⟩
      exact resolve_slot_ne_ok resolved

theorem resolve_nil_left {placeholder : Placeholder} {param : Param τ} {left : List (Option τ)}
    (resolved : resolve [] placeholder = .ok (param, left)) : left = [] := by
  cases placeholder with
  | named name tag =>
      obtain ⟨type, _, same⟩ := Result.bind_eq_ok_iff.mp resolved
      cases same
      rfl
  | slot digits => exact absurd resolved resolve_slot_ne_ok

theorem Resolved.left_eq_nil {pieces : List Piece} {segments : List (Statement.Segment τ)}
    {slots left : List (Option τ)} (resolved : Resolved slots pieces segments left)
    (none : slots = []) : left = [] := by
  induction resolved with
  | done => exact none
  | char _ ih => exact ih none
  | mark first _ ih =>
      subst none
      exact ih (resolve_nil_left first)

theorem exists_resolveAll_iff {pieces : List Piece} :
    (∃ segments : List (Statement.Segment τ), resolveAll [] pieces = .ok (segments, [])) ↔
      ∀ placeholder, .mark placeholder ∈ pieces → placeholder.Known := by
  induction pieces with
  | nil => exact iff_of_true ⟨[], rfl⟩ (by simp)
  | cons piece rest ih =>
      cases piece with
      | char c =>
          simp only [resolveAll_char, Result.map_eq_ok_iff, List.mem_cons, reduceCtorEq, false_or]
          rw [← ih]
          constructor
          · rintro ⟨_, ⟨segments, left⟩, resolved, same⟩
            cases same
            exact ⟨segments, resolved⟩
          · rintro ⟨segments, resolved⟩
            exact ⟨_, _, resolved, rfl⟩
      | mark placeholder =>
          simp only [List.mem_cons, Piece.mark.injEq, forall_eq_or_imp]
          rw [← ih, ← exists_resolve_iff (τ := τ)]
          constructor
          · rintro ⟨segments, resolved⟩
            cases first : resolve ([] : List (Option τ)) placeholder with
            | error e =>
                rw [resolveAll_mark_error first] at resolved
                cases resolved
            | ok result =>
                obtain ⟨param, left⟩ := result
                obtain rfl := resolve_nil_left first
                rw [resolveAll_mark first, Result.map_eq_ok_iff] at resolved
                obtain ⟨⟨later, out⟩, tail, same⟩ := resolved
                cases same
                exact ⟨⟨param, rfl⟩, later, tail⟩
          · rintro ⟨⟨param, first⟩, later, tail⟩
            refine ⟨.param param :: later, ?_⟩
            rw [resolveAll_mark first, tail]
            rfl

@[simp]
theorem resolveAll_chars_append (slots : List (Option τ)) (text : List Char) (rest : List Piece) :
    resolveAll slots (text.map .char ++ rest) =
      (resolveAll slots rest).map fun (segments, left) => (text.map .char ++ segments, left) := by
  induction text with
  | nil =>
      rw [List.map_nil, List.nil_append]
      cases resolveAll slots rest <;> rfl
  | cons c text ih =>
      rw [List.map_cons, List.cons_append, resolveAll_char, ih]
      cases resolveAll slots rest <;> rfl

@[simp] theorem resolveAll_chars (slots : List (Option τ)) (text : List Char) :
    resolveAll slots (text.map .char) = .ok (text.map .char, slots) := by
  simpa [resolveAll, Except.map] using resolveAll_chars_append slots text []

end Template

namespace Statement

open Template

variable {τ : Type}

@[simp] theorem textOf_chars_append (next : Nat) (text : List Char) (rest : List (Segment τ)) :
    textOf next (text.map .char ++ rest) = text ++ textOf next rest := by
  induction text with
  | nil => rfl
  | cons c text ih => rw [List.map_cons, List.cons_append, textOf, ih, List.cons_append]

@[simp] theorem paramsOf_chars_append (text : List Char) (rest : List (Segment τ)) :
    paramsOf (text.map .char ++ rest) = paramsOf rest := by
  induction text with
  | nil => rfl
  | cons c text ih => rw [List.map_cons, List.cons_append, paramsOf, ih]

@[simp] theorem textOf_chars (next : Nat) (text : List Char) :
    textOf next (text.map .char : List (Segment τ)) = text := by
  simpa [textOf] using textOf_chars_append next text ([] : List (Segment τ))

@[simp] theorem paramsOf_chars (text : List Char) :
    paramsOf (text.map .char : List (Segment τ)) = [] := by
  simpa [paramsOf] using paramsOf_chars_append text ([] : List (Segment τ))

theorem parse_eq_ok_iff {text : String} {statement : Statement τ} :
    parse text = .ok statement ↔
      ∃ segments, resolveAll [] (Piece.split text.toList) = .ok (segments, []) ∧
        statement = ofSegments segments := by
  have parsed : (parse text : Except TemplateError (Statement τ)) =
      (resolveAll [] (Piece.split text.toList) >>= fun (segments, left) =>
        if left.any Option.isSome then .error .slotLost else .ok (ofSegments segments)) :=
    compile_of_balanced (by rfl)
  rw [parsed, Result.bind_eq_ok_iff]
  constructor
  · rintro ⟨⟨segments, left⟩, resolved, finished⟩
    obtain rfl := (resolved_of_resolveAll resolved).left_eq_nil rfl
    cases finished
    exact ⟨segments, resolved, rfl⟩
  · rintro ⟨segments, resolved, rfl⟩
    exact ⟨_, resolved, rfl⟩

theorem exists_parse_iff {text : String} :
    (∃ statement : Statement τ, parse text = .ok statement) ↔
      ∀ placeholder, .mark placeholder ∈ Piece.split text.toList → placeholder.Known := by
  rw [← exists_resolveAll_iff (τ := τ)]
  constructor
  · rintro ⟨statement, parsed⟩
    obtain ⟨segments, resolved, _⟩ := parse_eq_ok_iff.mp parsed
    exact ⟨segments, resolved⟩
  · rintro ⟨segments, resolved⟩
    exact ⟨_, parse_eq_ok_iff.mpr ⟨segments, resolved, rfl⟩⟩

/-- A text without placeholders is a statement as it stands, and no other text is one. -/
theorem parse_eq_plain_iff {text : String} :
    (parse text : Except TemplateError (Statement τ)) = .ok ⟨text, []⟩ ↔
      ∀ placeholder, .mark placeholder ∉ Piece.split text.toList := by
  constructor
  · intro parsed placeholder member
    obtain ⟨segments, resolved, same⟩ := parse_eq_ok_iff.mp parsed
    have marks := (resolved_of_resolveAll resolved).length_params
    rw [show paramsOf segments = [] from (congrArg Statement.params same).symm] at marks
    exact not_mem_of_markCount_eq_zero marks.symm member
  · intro markless
    refine parse_eq_ok_iff.mpr ⟨text.toList.map .char, ?_, ?_⟩
    · rw [Piece.split_of_markless markless]
      exact resolveAll_chars [] text.toList
    · rw [ofSegments, textOf_chars, paramsOf_chars, String.ofList_toList]

theorem parse_one_mark {text : String} {before after : List Char} {placeholder : Placeholder}
    {param : Param τ}
    (split : Piece.split text.toList = before.map .char ++ .mark placeholder :: after.map .char)
    (resolved : resolve [] placeholder = .ok (param, [])) :
    parse text = .ok ⟨String.ofList (before ++ '$' :: '1' :: after), [param]⟩ := by
  refine parse_eq_ok_iff.mpr ⟨before.map .char ++ .param param :: after.map .char, ?_, ?_⟩
  · rw [split, resolveAll_chars_append, resolveAll_mark resolved, resolveAll_chars]
    rfl
  · rw [ofSegments, textOf_chars_append, paramsOf_chars_append, textOf, paramsOf, textOf_chars,
      paramsOf_chars]
    rfl

end Statement

end SqlTemplate
