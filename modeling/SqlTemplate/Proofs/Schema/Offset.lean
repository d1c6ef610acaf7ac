import SqlTemplate.Proofs.Schema.ByteScan
import SqlTemplate.Proofs.Schema.Views

/-!
Entities read by the offsets of bytes. No cut falls within a character, no byte is looked at that is
not there and no count falls below zero, so entities are read as from characters.
-/

namespace SqlTemplate.Schema

/-! ## Bodies -/

theorem one_le_depth_step {nesting : Nesting} {c : Char} (opened : 1 ≤ nesting.depth)
    (free : ¬(nesting.quote = none ∧ c = ')')) : 1 ≤ (nesting.step c).depth := by
  obtain ⟨quote, depth⟩ := nesting
  cases quote with
  | some quote =>
      simp only [Nesting.step]
      split <;> exact opened
  | none =>
      have differs : c ≠ ')' := fun same => free ⟨rfl, same⟩
      simp only [Nesting.step, differs, if_false]
      split
      next => exact opened
      next =>
        split
        next => exact Nat.le_add_left 1 depth
        next => exact opened

/-- Within a parenthesis the count of open ones is never zero where one is closed. -/
theorem closingOffset_eq {nesting : Nesting} (opened : 1 ≤ nesting.depth) (offset : Nat)
    (text : List Char) : closingOffset nesting offset text =
      .ok ((untilClosed? nesting text).map fun inner => offset + Text.byteLength inner) := by
  induction text generalizing nesting offset with
  | nil => rfl
  | cons c rest ih =>
      have longer : (fun inner => offset + Text.byteLength inner) ∘ (c :: ·) =
          fun inner => offset + c.utf8Size + Text.byteLength inner := by
        funext inner
        simp only [Function.comp_apply, Text.byteLength]
        omega
      rw [closingOffset, untilClosed?]
      by_cases closes : nesting.quote = none ∧ c = ')'
      · obtain ⟨quote, depth⟩ := nesting
        obtain ⟨rfl, rfl⟩ := closes
        obtain ⟨outer, rfl⟩ := Nat.exists_eq_add_one_of_ne_zero (Nat.ne_of_gt opened)
        have step : Nesting.step ⟨none, outer + 1⟩ ')' = ⟨none, outer⟩ := by
          simp [Nesting.step]
        rw [if_pos ⟨rfl, rfl⟩]
        cases outer with
        | zero => rfl
        | succ inner =>
            rw [step, if_neg (by simp), Option.map_map, longer]
            exact ih (Nat.le_add_left 1 inner) _
      · have unclosed : ¬(nesting.quote = none ∧ c = ')' ∧ nesting.depth = 1) := by
          rintro ⟨unquoted, closing, _⟩
          exact closes ⟨unquoted, closing⟩
        rw [if_neg closes, if_neg unclosed, Option.map_map, longer]
        exact ih (one_le_depth_step opened closes) _

/-- Behind no opening parenthesis the count would fall below zero. -/
example : closingOffset .outside 0 [')', '('] = .error .count := rfl

theorem exists_of_untilClosed? {nesting : Nesting} {text inner : List Char}
    (closed : untilClosed? nesting text = some inner) : ∃ rest, text = inner ++ ')' :: rest := by
  induction text generalizing nesting inner with
  | nil => cases closed
  | cons c text ih =>
      rw [untilClosed?] at closed
      split at closed
      next closes =>
        cases closed
        exact ⟨text, by rw [closes.2.1]; rfl⟩
      next =>
        obtain ⟨later, found, rfl⟩ := Option.map_eq_some_iff.mp closed
        obtain ⟨rest, rfl⟩ := ih found
        exact ⟨rest, rfl⟩

/-- Before a parenthesis closes, the quotes that are open close. -/
theorem exists_unquoted {quote : Char} {depth : Nat} {text inner : List Char}
    (closed : untilClosed? ⟨some quote, depth⟩ text = some inner) :
    ∃ quoted later after, text = quoted ++ quote :: later ∧ quote ∉ quoted ∧
      untilClosed? ⟨none, depth⟩ later = some after := by
  induction text generalizing inner with
  | nil => cases closed
  | cons c text ih =>
      rw [untilClosed?, if_neg (by simp)] at closed
      obtain ⟨after, found, _⟩ := Option.map_eq_some_iff.mp closed
      by_cases here : c = quote
      · subst here
        have out : Nesting.step ⟨some c, depth⟩ c = ⟨none, depth⟩ := by simp [Nesting.step]
        rw [out] at found
        exact ⟨[], text, after, rfl, List.not_mem_nil, found⟩
      · have still : Nesting.step ⟨some quote, depth⟩ c = ⟨some quote, depth⟩ := by
          simp [Nesting.step, here]
        rw [still] at found
        obtain ⟨quoted, later, after, rfl, absent, found⟩ := ih found
        refine ⟨c :: quoted, later, after, rfl, ?_, found⟩
        rw [List.mem_cons, not_or]
        exact ⟨Ne.symm here, absent⟩

theorem untilClosed?_group {group : List Char} (balanced : Balanced true group) (depth : Nat)
    (later : List Char) : untilClosed? ⟨none, depth + 2⟩ (group ++ ')' :: later) =
      (untilClosed? ⟨none, depth + 1⟩ later).map fun after => group ++ ')' :: after := by
  have stops : StopsAround Closes true (depth + 2) := by
    refine ⟨fun _ _ stopped => stopped.1, ?_⟩
    rintro nesting c ⟨_, closing, bound⟩
    exact Or.inl ⟨closing, by omega⟩
  have step : Nesting.step ⟨none, depth + 2⟩ ')' = ⟨none, depth + 1⟩ := by
    simp [Nesting.step]
  rw [untilClosed?_of_passes (balanced.passes stops), untilClosed?, if_neg (by simp), step,
    Option.map_map]
  rfl

/-- The text up to a closing parenthesis is balanced as far as the first one that closes more than
the text opens. -/
theorem exists_balanced_of_untilClosed? {depth : Nat} {text inner : List Char}
    (closed : untilClosed? ⟨none, depth + 1⟩ text = some inner) :
    ∃ group later, Balanced true group ∧ text = group ++ ')' :: later := by
  generalize size : text.length = count
  induction count using Nat.strongRecOn generalizing depth text inner with
  | ind count ih =>
      cases text with
      | nil => cases closed
      | cons c rest =>
          rw [List.length_cons] at size
          by_cases closing : c = ')'
          · subst closing
            exact ⟨[], rest, .nil, rfl⟩
          rw [untilClosed?, if_neg (fun closes => closing closes.2.1)] at closed
          obtain ⟨after, found, _⟩ := Option.map_eq_some_iff.mp closed
          by_cases isQuote : c = '\'' ∨ c = '"'
          · rw [step_quote isQuote] at found
            obtain ⟨quoted, later, after, rfl, absent, found⟩ := exists_unquoted found
            rw [List.length_append, List.length_cons] at size
            obtain ⟨group, later, balanced, rfl⟩ := ih later.length (by omega) found rfl
            exact ⟨c :: (quoted ++ c :: group), later, .quoted isQuote absent balanced, by simp⟩
          by_cases opening : c = '('
          · subst opening
            have step : Nesting.step ⟨none, depth + 1⟩ '(' = ⟨none, depth + 2⟩ := by
              simp [Nesting.step]
            rw [step] at found
            obtain ⟨group, later, balanced, rfl⟩ := ih rest.length (by omega) found rfl
            rw [untilClosed?_group balanced] at found
            obtain ⟨after, found, _⟩ := Option.map_eq_some_iff.mp found
            rw [List.length_append, List.length_cons] at size
            obtain ⟨group', later, balanced', rfl⟩ := ih later.length (by omega) found rfl
            exact ⟨'(' :: (group ++ ')' :: group'), later, .group balanced balanced', by simp⟩
          · rw [not_or] at isQuote
            have plain : Plain true c := ⟨isQuote.1, isQuote.2, opening, closing, fun _ => rfl⟩
            rw [step_plain plain] at found
            obtain ⟨group, later, balanced, rfl⟩ := ih rest.length (by omega) found rfl
            exact ⟨c :: group, later, .plain plain balanced, rfl⟩

theorem body?_of_not_mem {text : List Char} (unopened : '(' ∉ text) : body? text = none := by
  have skipped := body?_skip unopened []
  rwa [List.append_nil] at skipped

theorem body?_opened {before : List Char} (unopened : '(' ∉ before) (rest : List Char) :
    body? (before ++ '(' :: rest) = untilClosed? ⟨none, 1⟩ rest := by
  rw [body?_skip unopened, body?, List.dropWhile_cons_of_neg (by decide)]

theorem body?_eq_some_iff {text body : List Char} : body? text = some body ↔
    ∃ before rest, text = before ++ '(' :: (body ++ ')' :: rest) ∧ '(' ∉ before ∧
      Balanced true body := by
  constructor
  · intro found
    by_cases opened : '(' ∈ text
    · obtain ⟨before, rest, rfl, unopened⟩ := List.eq_append_cons_of_mem opened
      rw [body?_opened unopened] at found
      obtain ⟨group, later, balanced, rfl⟩ := exists_balanced_of_untilClosed? found
      rw [untilClosed?_balanced balanced, Option.some.injEq] at found
      exact ⟨before, later, by rw [found], unopened, found ▸ balanced⟩
    · rw [body?_of_not_mem opened] at found
      cases found
  · rintro ⟨before, rest, rfl, unopened, balanced⟩
    exact body?_balanced balanced unopened rest

@[simp] theorem bodyByOffset_eq (text : List Char) : bodyByOffset text = .ok (body? text) := by
  have outside : ∀ part : List Char, '(' ∉ part → ∀ d ∈ part, (d == '(') = false := by
    intro part unopened d member
    rw [beq_eq_false_iff_ne]
    rintro rfl
    exact unopened member
  by_cases opened : '(' ∈ text
  · obtain ⟨before, rest, rfl, unopened⟩ := List.eq_append_cons_of_mem opened
    have closing : closingOffset .outside 0 ('(' :: rest) =
        .ok ((untilClosed? ⟨none, 1⟩ rest).map fun inner => 1 + Text.byteLength inner) :=
      closingOffset_eq (show 1 ≤ (⟨none, 1⟩ : Nesting).depth from Nat.le_refl 1) 1 rest
    rw [body?_opened unopened, bodyByOffset,
      Text.offsetOf?_append (outside before unopened) (by decide)]
    simp only [Text.sliceFrom_byteLength, bind, Except.bind, closing]
    cases closed : untilClosed? ⟨none, 1⟩ rest with
    | none => rfl
    | some inner =>
        obtain ⟨later, rfl⟩ := exists_of_untilClosed? closed
        have cut := Text.slice_byteLength (before ++ ['(']) inner (')' :: later)
        have start : Text.byteLength (before ++ ['(']) = Text.byteLength before + 1 :=
          Text.byteLength_append before ['(']
        rw [start, List.append_assoc, List.singleton_append, Nat.add_assoc] at cut
        simp only [Option.map_some, cut]
        rfl
  · rw [body?_of_not_mem opened, bodyByOffset, Text.offsetOf?_eq_none (outside text opened)]

/-! ## Pieces -/

theorem pieces_cons_eq {nesting : Nesting} {c : Char} (within : ¬(c = ',' ∧ nesting = .outside))
    (rest : List Char) :
    pieces nesting (c :: rest) = startingWith [c] (pieces (nesting.step c) rest) := by
  have parts := pieces_ne_nil (nesting.step c) rest
  rw [pieces, if_neg within]
  split
  next piece more found =>
    rw [found]
    rfl
  next found => exact absurd found parts

theorem intercalate_startingWith (text : List Char) {parts : List (List Char)}
    (filled : parts ≠ []) :
    [','].intercalate (startingWith text parts) = text ++ [','].intercalate parts := by
  obtain ⟨piece, more, rfl⟩ := List.exists_cons_of_ne_nil filled
  cases more with
  | nil => simp [startingWith]
  | cons next more => simp [startingWith, List.intercalate_cons_cons]

@[simp] theorem intercalate_pieces (nesting : Nesting) (text : List Char) :
    [','].intercalate (pieces nesting text) = text := by
  induction text generalizing nesting with
  | nil => simp [pieces]
  | cons c rest ih =>
      by_cases comma : c = ',' ∧ nesting = .outside
      · obtain ⟨piece, more, parts⟩ := List.exists_cons_of_ne_nil (pieces_ne_nil nesting rest)
        have whole := ih nesting
        rw [parts] at whole
        rw [pieces, if_pos comma, parts, List.intercalate_cons_cons, whole, comma.1]
        rfl
      · rw [pieces_cons_eq comma, intercalate_startingWith _ (pieces_ne_nil _ _), ih]
        rfl

theorem startingWith_append (first second : List Char) {parts : List (List Char)}
    (filled : parts ≠ []) : startingWith first (startingWith second parts) =
      startingWith (first ++ second) parts := by
  obtain ⟨piece, more, rfl⟩ := List.exists_cons_of_ne_nil filled
  simp [startingWith]

theorem piecesFrom_eq (before piece rest : List Char) (nesting : Nesting) :
    piecesFrom (before ++ (piece ++ rest)) nesting (Text.byteLength before)
      (Text.byteLength before + Text.byteLength piece) rest =
        .ok (startingWith piece (pieces nesting rest)) := by
  induction rest generalizing before piece nesting with
  | nil =>
      have cut := Text.sliceFrom_byteLength before (piece ++ [])
      rw [piecesFrom, cut, pieces, startingWith]
      rfl
  | cons c rest ih =>
      by_cases comma : c = ',' ∧ nesting = .outside
      · have cut := Text.slice_byteLength before piece (c :: rest)
        have later := ih (before ++ (piece ++ [c])) [] nesting
        have start : Text.byteLength (before ++ (piece ++ [c])) =
            Text.byteLength before + Text.byteLength piece + 1 := by
          rw [comma.1, Text.byteLength_append, Text.byteLength_append, ← Nat.add_assoc]
          rfl
        have same : before ++ (piece ++ [c]) ++ ([] ++ rest) = before ++ (piece ++ c :: rest) := by
          simp
        have size : c.utf8Size = 1 := comma.1 ▸ rfl
        rw [start, same, Text.byteLength, Nat.add_zero] at later
        obtain ⟨first, more, parts⟩ := List.exists_cons_of_ne_nil (pieces_ne_nil nesting rest)
        rw [piecesFrom, if_pos comma, cut, size, pieces, if_pos comma, startingWith,
          List.append_nil]
        simp only [bind, Except.bind, later, parts]
        rfl
      · have later := ih before (piece ++ [c]) (nesting.step c)
        have stop : Text.byteLength (piece ++ [c]) = Text.byteLength piece + c.utf8Size :=
          Text.byteLength_append piece [c]
        rw [stop, List.append_assoc, List.singleton_append, ← Nat.add_assoc] at later
        rw [piecesFrom, if_neg comma, later, pieces_cons_eq comma,
          startingWith_append _ _ (pieces_ne_nil _ _)]

@[simp] theorem piecesByOffset_eq (text : List Char) :
    piecesByOffset text = .ok (pieces .outside text) := by
  obtain ⟨piece, more, parts⟩ := List.exists_cons_of_ne_nil (pieces_ne_nil .outside text)
  have cut : piecesByOffset text = .ok (startingWith [] (pieces .outside text)) :=
    piecesFrom_eq [] [] text .outside
  rw [cut, parts]
  rfl

@[simp] theorem itemsByOffset_eq (text : List Char) : itemsByOffset text = .ok (items text) := by
  rw [itemsByOffset, piecesByOffset_eq]
  rfl

/-! ## Names -/

theorem readQuoted?_cases (text : List Char) (offset : Nat) :
    (readQuoted? text = none ∧ closingQuote? offset text = none) ∨
      ∃ name rest, text = name ++ '"' :: rest ∧ readQuoted? text = some (name ++ ['"'], rest) ∧
        closingQuote? offset text = some (offset + Text.byteLength name) := by
  fun_induction readQuoted? text generalizing offset with
  | case1 => exact Or.inl ⟨rfl, rfl⟩
  | case2 rest ih =>
      rw [closingQuote?]
      rcases ih (offset + 2) with ⟨none, none'⟩ | ⟨name, later, rfl, found, closing⟩
      · exact Or.inl ⟨by rw [none]; rfl, none'⟩
      · refine Or.inr ⟨'"' :: '"' :: name, later, rfl, by rw [found]; rfl, ?_⟩
        have size : '"'.utf8Size = 1 := rfl
        rw [closing, Text.byteLength, Text.byteLength, size, Option.some.injEq]
        omega
  | case3 rest other =>
      refine Or.inr ⟨[], rest, rfl, rfl, ?_⟩
      rw [closingQuote?.eq_3 offset '"' rest other, if_pos rfl]
      rfl
  | case4 c rest other plain ih =>
      rw [closingQuote?.eq_3 offset c rest other, if_neg plain]
      rcases ih (offset + c.utf8Size) with ⟨none, none'⟩ | ⟨name, later, rfl, found, closing⟩
      · exact Or.inl ⟨by rw [none]; rfl, none'⟩
      · refine Or.inr ⟨c :: name, later, rfl, by rw [found]; rfl, ?_⟩
        rw [closing, Text.byteLength, Nat.add_assoc]

@[simp] theorem nameByOffset_eq (definition : List Char) :
    nameByOffset definition = .ok (splitName? definition) := by
  fun_cases splitName? definition with
  | case1 text =>
      rw [nameByOffset]
      rcases readQuoted?_cases text 0 with ⟨none, none'⟩ | ⟨name, rest, rfl, found, closing⟩
      · rw [none, none']
        rfl
      · have whole := Text.sliceTo_byteLength ('"' :: (name ++ ['"'])) rest
        have behind := Text.sliceFrom_byteLength (name ++ ['"']) rest
        have stop : Text.byteLength (name ++ ['"']) = 0 + Text.byteLength name + 1 := by
          rw [Text.byteLength_append, Nat.zero_add]
          rfl
        have stop' : Text.byteLength ('"' :: (name ++ ['"'])) = 0 + Text.byteLength name + 2 := by
          have size : '"'.utf8Size = 1 := rfl
          rw [Text.byteLength, stop, size]
          omega
        rw [stop', List.cons_append, List.append_assoc, List.singleton_append] at whole
        rw [stop, List.append_assoc, List.singleton_append] at behind
        rw [closing, found]
        simp only [whole, behind, bind, Except.bind]
        rfl
  | case2 text unquoted =>
      have run := List.takeWhile_append_dropWhile (p := fun c => !Text.isBlank c) (l := definition)
      have cut := Text.sliceTo_byteLength (definition.takeWhile fun c => !Text.isBlank c)
        (definition.dropWhile fun c => !Text.isBlank c)
      have behind := Text.sliceFrom_byteLength (definition.takeWhile fun c => !Text.isBlank c)
        (definition.dropWhile fun c => !Text.isBlank c)
      rw [run] at cut behind
      rw [nameByOffset.eq_2 definition unquoted, Text.length_bytes, Text.getD_offsetOf?]
      simp only [cut, behind, bind, Except.bind]
      rfl

theorem append_of_splitName? {definition name rest : List Char}
    (split : splitName? definition = some (name, rest)) : name ++ rest = definition := by
  fun_cases splitName? definition with
  | case1 text =>
      obtain ⟨⟨start, later⟩, found, same⟩ := Option.map_eq_some_iff.mp split
      cases same
      rcases readQuoted?_cases text 0 with ⟨none, _⟩ | ⟨inner, rest, rfl, found', _⟩
      · rw [none] at found
        cases found
      · rw [found'] at found
        cases found
        simp
  | case2 _ unquoted =>
      rw [splitName?.eq_2 definition unquoted] at split
      cases split
      exact List.takeWhile_append_dropWhile

/-! ## Heads -/

theorem suffix_of_afterWord? {word text rest : List Char}
    (read : afterWord? word text = some rest) :
    rest <:+ text := by
  obtain ⟨spelled, rfl, _⟩ := afterWord?_eq_some_iff.mp read
  exact List.suffix_append spelled rest

theorem suffix_of_afterBlanks? {text rest : List Char} (read : afterBlanks? text = some rest) :
    rest <:+ text := by
  obtain ⟨blanks, _, _, rfl, _⟩ := afterBlanks?_eq_some_iff.mp read
  exact List.suffix_append blanks rest

theorem suffix_of_afterWordAndBlanks? {word : String} {text rest : List Char}
    (read : afterWordAndBlanks? word text = some rest) : rest <:+ text := by
  obtain ⟨after, word, blanks⟩ := Option.bind_eq_some_iff.mp read
  exact (suffix_of_afterBlanks? blanks).trans (suffix_of_afterWord? word)

theorem skipExists_suffix (text : List Char) : skipExists text <:+ text := by
  rw [skipExists]
  cases read : ((afterBlanks? text).bind (afterWordAndBlanks? "if")).bind
      (afterWordAndBlanks? "not") |>.bind (afterWord? "exists".toList) with
  | none => exact List.suffix_refl text
  | some rest =>
      obtain ⟨third, read, exists_⟩ := Option.bind_eq_some_iff.mp read
      obtain ⟨second, read, not_⟩ := Option.bind_eq_some_iff.mp read
      obtain ⟨first, blanks, if_⟩ := Option.bind_eq_some_iff.mp read
      exact (suffix_of_afterWord? exists_).trans ((suffix_of_afterWordAndBlanks? not_).trans
        ((suffix_of_afterWordAndBlanks? if_).trans (suffix_of_afterBlanks? blanks)))

theorem suffix_of_readKind? {text rest : List Char} {kind : EntityKind}
    (read : readKind? text = some (kind, rest)) : rest <:+ text := by
  unfold readKind? at read
  split at read
  next table =>
    obtain ⟨_, same, read⟩ := Option.bind_eq_some_iff.mp read
    cases same
    dsimp only at read
    split at read
    next => cases read
    next =>
      cases read
      exact suffix_of_afterWord? table
  next =>
    obtain ⟨_, matched, read⟩ := Option.bind_eq_some_iff.mp read
    obtain ⟨_, view, rfl⟩ := Option.map_eq_some_iff.mp matched
    dsimp only at read
    split at read
    next => cases read
    next =>
      cases read
      exact suffix_of_afterWord? view

theorem readName_suffix (text : List Char) : (readName text).2 <:+ text := by
  rw [readName]
  split
  next => exact List.suffix_refl text
  next rest read =>
    dsimp only
    split
    next => exact List.suffix_refl text
    next => exact (List.dropWhile_suffix isNameChar).trans (suffix_of_afterBlanks? read)

theorem suffix_of_readHead? {text : List Char} {head : Head} (read : readHead? text = some head) :
    head.rest <:+ text := by
  obtain ⟨after, create, read⟩ := Option.bind_eq_some_iff.mp read
  obtain ⟨⟨kind, rest⟩, named, same⟩ := Option.bind_eq_some_iff.mp read
  obtain ⟨_, first, _, _, replaced⟩ := skipReplace_eq after
  obtain ⟨_, second, _, _, modified⟩ := skipModifier_eq (skipReplace after)
  cases same
  have named' := suffix_of_readKind? named
  have replaced' : skipReplace after <:+ after := ⟨first, replaced.symm⟩
  have modified' : skipModifier (skipReplace after) <:+ skipReplace after := ⟨second, modified.symm⟩
  exact (readName_suffix _).trans ((skipExists_suffix rest).trans (named'.trans
    (modified'.trans (replaced'.trans (suffix_of_afterWordAndBlanks? create)))))

theorem suffix_of_findHead? {inWord : Bool} {text : List Char} {head : Head}
    (found : findHead? inWord text = some head) : head.rest <:+ text := by
  induction text generalizing inWord with
  | nil => cases found
  | cons c rest ih =>
      rw [findHead?] at found
      split at found
      next read =>
        cases found
        split at read
        next => cases read
        next => exact suffix_of_readHead? read
      next => exact (ih found).trans (List.suffix_cons c rest)

/-! ## Columns and entities -/

@[simp] theorem columnByOffset_eq (definition : List Char) :
    columnByOffset definition = .ok (columnOf? definition) := by
  rw [columnByOffset, nameByOffset_eq, columnOf?]
  cases splitName? definition <;> rfl

@[simp] theorem tableColumnsByOffset_eq (text : List Char) :
    tableColumnsByOffset text = .ok (tableColumns text) := by
  have each : columnByOffset = fun definition => pure (columnOf? definition) := by
    funext definition
    exact columnByOffset_eq definition
  rw [tableColumnsByOffset, bodyByOffset_eq, tableColumns]
  cases body? text with
  | none => rfl
  | some body =>
      simp only [bind, Except.bind, itemsByOffset_eq, each, List.mapM_pure]
      change Except.ok (distinct [] (((items body).map columnOf?).filterMap id)) = _
      rw [List.filterMap_map]
      rfl

theorem cuts_of_splitAtKeyword? {keyword : String} (word : Keyword keyword)
    {text before after : List Char}
    (found : splitAtKeyword? keyword.toList false .outside text = some (before, after)) :
    Text.sliceTo text (Text.byteLength before) = .ok before ∧
      Text.sliceFrom text (Text.byteLength before + (Text.bytes keyword.toList).length) =
        .ok after := by
  obtain ⟨spelled, rfl, spells, _⟩ := splitAtKeyword?_parts found
  have behind := Text.sliceFrom_byteLength (before ++ spelled) after
  rw [List.append_assoc, Text.byteLength_append, byteLength_spelled word spells,
    ← Text.length_bytes keyword.toList] at behind
  exact ⟨Text.sliceTo_byteLength before _, behind⟩

@[simp] theorem skipDistinctByOffset_eq (text : List Char) :
    skipDistinctByOffset text = .ok (skipDistinct text) := by
  have word : Keyword "distinct" := by decide
  rw [skipDistinctByOffset, findKeyword_eq word, skipDistinct]
  cases found : splitAtKeyword? "distinct".toList false .outside text with
  | none => rfl
  | some parts =>
      obtain ⟨cut, behind⟩ := cuts_of_splitAtKeyword? word found
      simp only [Option.map_some, bind, Except.bind, cut, behind]
      split <;> rfl

@[simp]
theorem cutFromByOffset_eq (text : List Char) : cutFromByOffset text = .ok (cutFrom text) := by
  have word : Keyword "from" := by decide
  rw [cutFromByOffset, findKeyword_eq word, cutFrom]
  cases found : splitAtKeyword? "from".toList false .outside text with
  | none => rfl
  | some parts => exact (cuts_of_splitAtKeyword? word found).1

@[simp] theorem selectListByOffset_eq (text : List Char) :
    selectListByOffset text = .ok (selectList? text) := by
  have word : Keyword "select" := by decide
  rw [selectListByOffset, findKeyword_eq word, selectList?]
  cases found : splitAtKeyword? "select".toList false .outside text with
  | none => rfl
  | some parts =>
      obtain ⟨_, behind⟩ := cuts_of_splitAtKeyword? word found
      simp only [Option.map_some, bind, Except.bind, behind, skipDistinctByOffset_eq,
        cutFromByOffset_eq]
      rfl

@[simp] theorem viewColumnsByOffset_eq (text : List Char) :
    viewColumnsByOffset text = .ok (viewColumns text) := by
  rw [viewColumnsByOffset, selectListByOffset_eq, viewColumns]
  cases selectList? text with
  | none => rfl
  | some list =>
      simp only [bind, Except.bind, itemsByOffset_eq]
      rfl

theorem entityByOffset_eq (text fallback : String) :
    entityByOffset text fallback = .ok (entityOf text fallback) := by
  rw [entityByOffset, entityOf]
  cases found : findHead? false text.toList with
  | none => rfl
  | some head =>
      obtain ⟨before, same⟩ := suffix_of_findHead? found
      have cut := Text.sliceFrom_byteLength before head.rest
      have start : Text.byteLength before =
          (Text.bytes text.toList).length - (Text.bytes head.rest).length := by
        rw [← same, Text.length_bytes, Text.length_bytes, Text.byteLength_append,
          Nat.add_sub_cancel]
      rw [same, start] at cut
      dsimp only
      generalize (if head.name.isEmpty then fallback else String.ofList head.name) = name
      split
      next => rfl
      next =>
        simp only [bind, Except.bind, cut]
        cases head.kind with
        | table =>
            rw [tableColumnsByOffset_eq]
            rfl
        | view =>
            rw [viewColumnsByOffset_eq]
            rfl

/-! ## All scanners -/

/-- A cut fails just where it is not between two characters. Entities are read without such a cut, a
byte that is missing or a count below zero. A keyword starts and ends between characters, a body is
balanced, and pieces and names lose nothing of the text they are cut from. -/
theorem scanned_on_boundaries :
    (∀ text offset, (∃ parts, Text.cutAt offset text = .ok parts) ↔
      Text.isBoundary (Text.bytes text) offset) ∧
    (∀ text fallback, entityByOffset text fallback = .ok (entityOf text fallback)) ∧
    (∀ keyword, Keyword keyword → ∀ text,
      (∃ found, findKeyword keyword.toList text = .ok found) ∧
      ∀ offset, findKeyword keyword.toList text = .ok (some offset) →
        Text.isBoundary (Text.bytes text) offset ∧
        Text.isBoundary (Text.bytes text) (offset + (Text.bytes keyword.toList).length)) ∧
    (∀ text, bodyByOffset text = .ok (body? text) ∧
      ∀ body, bodyByOffset text = .ok (some body) ↔ ∃ before rest,
        text = before ++ '(' :: (body ++ ')' :: rest) ∧ '(' ∉ before ∧ Balanced true body) ∧
    (∀ text, itemsByOffset text = .ok (items text) ∧
      ∃ parts, piecesByOffset text = .ok parts ∧ [','].intercalate parts = text) ∧
    ∀ definition, nameByOffset definition = .ok (splitName? definition) ∧
      ∀ name rest, nameByOffset definition = .ok (some (name, rest)) →
        name ++ rest = definition := by
  refine ⟨?_, entityByOffset_eq, ?_, ?_, ?_, ?_⟩
  · intro text offset
    exact Text.exists_cutAt_iff
  · intro keyword word text
    refine ⟨⟨_, findKeyword_eq word text⟩, ?_⟩
    intro offset found
    exact isBoundary_of_findKeyword word found
  · intro text
    refine ⟨bodyByOffset_eq text, ?_⟩
    intro body
    rw [bodyByOffset_eq, Except.ok.injEq, body?_eq_some_iff]
  · intro text
    exact ⟨itemsByOffset_eq text, _, piecesByOffset_eq text, intercalate_pieces .outside text⟩
  · intro definition
    refine ⟨nameByOffset_eq definition, ?_⟩
    intro name rest split
    rw [nameByOffset_eq, Except.ok.injEq] at split
    exact append_of_splitName? split

/-- Letters with accents on both sides of a keyword, and in a quoted name. -/
theorem scanned_on_boundaries_accented :
    Keyword "from" ∧
    findKeyword "from".toList "éFROMñ".toList = .ok (some 2) ∧
    (Text.isBoundary (Text.bytes "éFROMñ".toList) 2 ∧
      Text.isBoundary (Text.bytes "éFROMñ".toList) (2 + (Text.bytes "from".toList).length)) ∧
    nameByOffset "\"é\"\"ñ\"ü".toList = .ok (some ("\"é\"\"ñ\"".toList, "ü".toList)) ∧
    "\"é\"\"ñ\"".toList ++ "ü".toList = "\"é\"\"ñ\"ü".toList := by
  obtain ⟨_, _, keywords, _, _, names⟩ := scanned_on_boundaries
  have word : Keyword "from" := by decide
  have found : findKeyword "from".toList "éFROMñ".toList = .ok (some 2) := by decide +kernel
  have split : nameByOffset "\"é\"\"ñ\"ü".toList =
      .ok (some ("\"é\"\"ñ\"".toList, "ü".toList)) := by
    decide +kernel
  exact ⟨word, found, (keywords "from" word _).2 2 found, split, (names _).2 _ _ split⟩

end SqlTemplate.Schema
