import SqlTemplate.Proofs.Schema.Keyword
import SqlTemplate.Proofs.Text.Lowercase
import SqlTemplate.Proofs.Text.Offset
import SqlTemplate.Schema.Offset

/-!
Keywords looked for in the bytes of a text. Bytes of a character beyond ASCII belong to no word,
open and close nothing and begin no keyword, so the search finds a keyword just where the search in
the characters does, and what it finds starts and ends between two characters.
-/

namespace SqlTemplate.Schema

/-- The bytes of a text as characters of their numbers. -/
def byteChars (text : List Char) : List Char :=
  (Text.bytes text).map Char.ofUInt8

@[simp]
theorem length_byteChars (text : List Char) : (byteChars text).length = Text.byteLength text := by
  rw [byteChars, List.length_map, Text.length_bytes]

@[simp] theorem toNat_ofUInt8 (byte : UInt8) : (Char.ofUInt8 byte).toNat = byte.toNat :=
  rfl

theorem ofUInt8_eq {byte : UInt8} {c : Char} (same : byte.toNat = c.toNat) :
    Char.ofUInt8 byte = c := by
  rw [← Char.ofNat_toNat c, ← same, ← toNat_ofUInt8, Char.ofNat_toNat]

theorem byteChars_ascii {c : Char} (small : c.toNat < 128) (rest : List Char) :
    byteChars (c :: rest) = c :: byteChars rest := by
  rcases Text.utf8EncodeChar_cases c with ⟨_, byte, encoded, value⟩ | ⟨large, _⟩
  · rw [byteChars, Text.bytes_cons, encoded, List.singleton_append, List.map_cons, ofUInt8_eq value]
    rfl
  · omega

theorem byteChars_wide {c : Char} (wide : 128 ≤ c.toNat) : ∃ first run,
    (∀ d ∈ first :: run, 128 ≤ d.toNat) ∧
      ∀ rest, byteChars (c :: rest) = first :: (run ++ byteChars rest) := by
  rcases Text.utf8EncodeChar_cases c with ⟨small, _⟩ | ⟨_, lead, later, encoded, large, continuing⟩
  · omega
  · refine ⟨Char.ofUInt8 lead, later.map Char.ofUInt8, ?_, ?_⟩
    · rw [List.forall_mem_cons, toNat_ofUInt8]
      refine ⟨by omega, ?_⟩
      intro d member
      obtain ⟨byte, inside, rfl⟩ := List.mem_map.mp member
      exact (continuing byte inside).1
    · intro rest
      rw [byteChars, Text.bytes_cons, encoded, List.map_append]
      rfl

theorem ne_of_wide {c d : Char} (wide : 128 ≤ c.toNat) (small : d.toNat < 128) : c ≠ d := by
  rintro rfl
  omega

theorem isBareLater_wide {c : Char} (wide : 128 ≤ c.toNat) : Text.isBareLater c = false := by
  have value : c.val.toNat = c.toNat := rfl
  have lastUpper : 'Z'.val.toNat = 90 := rfl
  have lastLower : 'z'.val.toNat = 122 := rfl
  have lastDigit : '9'.val.toNat = 57 := rfl
  unfold Text.isBareLater Text.isAsciiWord Char.isAlphanum Char.isAlpha Char.isUpper Char.isLower
    Char.isDigit
  simp only [Bool.or_eq_false_iff, Bool.and_eq_false_iff, decide_eq_false_iff_not,
    beq_eq_false_iff_ne, ge_iff_le, UInt32.le_iff_toNat_le, value]
  exact ⟨⟨⟨⟨by omega, Or.inr (by omega)⟩, Or.inr (by omega)⟩, ne_of_wide wide (by decide)⟩,
    ne_of_wide wide (by decide)⟩

theorem plain_wide {c : Char} (wide : 128 ≤ c.toNat) (commas : Bool) : Plain commas c :=
  ⟨ne_of_wide wide (by decide), ne_of_wide wide (by decide), ne_of_wide wide (by decide),
    ne_of_wide wide (by decide), fun same => absurd same (ne_of_wide wide (by decide))⟩

theorem toNat_lt_of_toLower {letter c : Char} (lower : letter.isLower) (same : c.toLower = letter) :
    c.toNat < 128 := by
  apply Nat.lt_of_not_le
  intro wide
  have alpha := isAlpha_of_toLower lower same
  have bare := isBareLater_wide wide
  simp [Text.isBareLater, Text.isAsciiWord, Char.isAlphanum, alpha] at bare

theorem byteChars_spelled {keyword spelled : List Char} (lower : ∀ letter ∈ keyword, letter.isLower)
    (spells : spelled.map Char.toLower = keyword) : byteChars spelled = spelled := by
  have small : ∀ c ∈ spelled, c.toNat < 128 := by
    intro c member
    have letter : c.toLower ∈ keyword := spells ▸ List.mem_map_of_mem member
    exact toNat_lt_of_toLower (lower _ letter) rfl
  clear spells
  induction spelled with
  | nil => rfl
  | cons c spelled ih =>
      obtain ⟨first, later⟩ := List.forall_mem_cons.mp small
      rw [byteChars_ascii first, ih later]

theorem afterKeyword?_byteChars {keyword : List Char} (lower : ∀ letter ∈ keyword, letter.isLower)
    (text : List Char) :
    afterKeyword? keyword (byteChars text) = (afterKeyword? keyword text).map byteChars := by
  induction keyword generalizing text with
  | nil => rfl
  | cons k keyword ih =>
      obtain ⟨first, later⟩ := List.forall_mem_cons.mp lower
      cases text with
      | nil => rfl
      | cons c rest =>
          by_cases small : c.toNat < 128
          · rw [byteChars_ascii small, afterKeyword?, afterKeyword?]
            split
            next => exact ih later rest
            next => rfl
          · obtain ⟨lead, run, wide, encoded⟩ := byteChars_wide (Nat.le_of_not_lt small)
            have differs : ∀ d : Char, 128 ≤ d.toNat → d.toLower ≠ k :=
              fun d wide same => absurd (toNat_lt_of_toLower first same) (Nat.not_lt_of_le wide)
            rw [encoded, afterKeyword?, if_neg (differs lead (wide lead List.mem_cons_self)),
              afterKeyword?, if_neg (differs c (Nat.le_of_not_lt small))]
            rfl

@[simp] theorem continuesWord_byteChars (text : List Char) :
    continuesWord (byteChars text) = continuesWord text := by
  cases text with
  | nil => rfl
  | cons c rest =>
      by_cases small : c.toNat < 128
      · rw [byteChars_ascii small]
        rfl
      · obtain ⟨lead, run, wide, encoded⟩ := byteChars_wide (Nat.le_of_not_lt small)
        rw [encoded]
        exact (isBareLater_wide (wide lead List.mem_cons_self)).trans
          (isBareLater_wide (Nat.le_of_not_lt small)).symm

def keywordHere (keyword : List Char) (inWord : Bool) (nesting : Nesting) (text : List Char) :
    Option (List Char) :=
  (if nesting = .outside ∧ !inWord then afterKeyword? keyword text else none).filter
    fun after => !continuesWord after

theorem splitAtKeyword?_eq (keyword : List Char) (inWord : Bool) (nesting : Nesting) (c : Char)
    (rest : List Char) : splitAtKeyword? keyword inWord nesting (c :: rest) =
      match keywordHere keyword inWord nesting (c :: rest) with
      | some after => some ([], after)
      | none =>
        (splitAtKeyword? keyword (Text.isBareLater c) (nesting.step c) rest).map (behind [c]) :=
  rfl

theorem keywordHere_byteChars {keyword : List Char} (lower : ∀ letter ∈ keyword, letter.isLower)
    (inWord : Bool) (nesting : Nesting) (text : List Char) :
    keywordHere keyword inWord nesting (byteChars text) =
      (keywordHere keyword inWord nesting text).map byteChars := by
  rw [keywordHere, keywordHere, afterKeyword?_byteChars lower]
  split
  next =>
    rw [Option.filter_map]
    simp [Function.comp_def]
  next => rfl

def Nesting.Ascii (nesting : Nesting) : Prop :=
  ∀ quote ∈ nesting.quote, quote.toNat < 128

theorem Nesting.Ascii.step {nesting : Nesting} (ascii : nesting.Ascii) (c : Char) :
    (nesting.step c).Ascii := by
  intro quote opened
  cases inside : nesting.quote with
  | none =>
      rw [quote_step_of_none inside] at opened
      split at opened
      next isQuote =>
        cases opened
        rcases isQuote with rfl | rfl <;> decide
      next => cases opened
  | some outer =>
      rw [quote_step_of_some inside] at opened
      split at opened
      next => cases opened
      next =>
        cases opened
        exact ascii _ inside

theorem Nesting.Ascii.step_wide {nesting : Nesting} (ascii : nesting.Ascii) {c : Char}
    (wide : 128 ≤ c.toNat) : nesting.step c = nesting := by
  obtain ⟨quote, depth⟩ := nesting
  cases quote with
  | none => exact step_plain (plain_wide wide true) depth
  | some quote =>
      have differs : c ≠ quote := ne_of_wide wide (ascii quote rfl)
      simp [Nesting.step, differs]

section

variable {keyword : String} (word : Keyword keyword)

include word in
theorem splitAtKeyword?_wide {first : Char} {run : List Char}
    (wide : ∀ c ∈ first :: run, 128 ≤ c.toNat) {nesting : Nesting} (ascii : nesting.Ascii)
    (inWord : Bool) (more : List Char) :
    splitAtKeyword? keyword.toList inWord nesting (first :: (run ++ more)) =
      (splitAtKeyword? keyword.toList false nesting more).map (behind (first :: run)) := by
  obtain ⟨here, later⟩ := List.forall_mem_cons.mp wide
  rw [splitAtKeyword?_cons word (isBareLater_wide here), ascii.step_wide here,
    splitAtKeyword?_run word (fun c member => isBareLater_wide (later c member))
      (fun c member => ascii.step_wide (later c member)), map_behind_behind]
  rfl

def byteParts (parts : List Char × List Char) : List Char × List Char :=
  (byteChars parts.1, byteChars parts.2)

include word in
theorem splitAtKeyword?_byteChars {nesting : Nesting} (ascii : nesting.Ascii) (inWord : Bool)
    (text : List Char) :
    splitAtKeyword? keyword.toList inWord nesting (byteChars text) =
      (splitAtKeyword? keyword.toList inWord nesting text).map byteParts := by
  induction text generalizing inWord nesting with
  | nil => rfl
  | cons c rest ih =>
      by_cases small : c.toNat < 128
      · have here := keywordHere_byteChars word.2 inWord nesting (c :: rest)
        rw [byteChars_ascii small] at here ⊢
        have commute : behind [c] ∘ byteParts = byteParts ∘ behind [c] := by
          funext parts
          simp [behind, byteParts, byteChars_ascii small]
        rw [splitAtKeyword?_eq, splitAtKeyword?_eq, here, ih (ascii.step c), Option.map_map]
        cases keywordHere keyword.toList inWord nesting (c :: rest) with
        | some after => rfl
        | none => simp only [Option.map_none, Option.map_map, commute]
      · have large := Nat.le_of_not_lt small
        obtain ⟨lead, run, wide, encoded⟩ := byteChars_wide large
        rw [encoded, splitAtKeyword?_wide word wide ascii, ih ascii,
          splitAtKeyword?_cons word (isBareLater_wide large), ascii.step_wide large, Option.map_map,
          Option.map_map]
        congr 1
        funext parts
        simp [behind, byteParts, encoded]

theorem afterKeyword?_eq (keyword text : List Char) : afterKeyword? keyword text =
    if (text.take keyword.length).map Char.toLower = keyword then some (text.drop keyword.length)
    else none := by
  induction keyword generalizing text with
  | nil => rfl
  | cons k keyword ih =>
      cases text with
      | nil => rfl
      | cons c text =>
          rw [afterKeyword?, ih]
          simp only [List.length_cons, List.take_succ_cons, List.drop_succ_cons, List.map_cons,
            List.cons.injEq]
          by_cases read : c.toLower = k
          · simp [read]
          · simp [read]

theorem isSome_keywordHere (keyword : List Char) (inWord : Bool) (text : List Char) :
    (keywordHere keyword inWord .outside text).isSome =
      (decide ((text.take keyword.length).map Char.toLower = keyword) && !inWord &&
        !continuesWord (text.drop keyword.length)) := by
  rw [keywordHere, afterKeyword?_eq]
  by_cases read : (text.take keyword.length).map Char.toLower = keyword
  · rw [if_pos read, decide_eq_true read]
    cases inWord with
    | true => rfl
    | false => cases continues : continuesWord (text.drop keyword.length) <;> simp [continues]
  · rw [if_neg read, decide_eq_false read, ite_self]
    rfl

def endsInWordByte (before : List UInt8) : Bool :=
  (before.getLast?.map isWordByte).getD false

@[simp] theorem endsWord_length (before rest : List UInt8) :
    endsWord (before ++ rest) before.length = .ok (endsInWordByte before) := by
  rcases List.eq_nil_or_concat before with rfl | ⟨start, byte, rfl⟩
  · rfl
  · simp only [List.concat_eq_append]
    rw [endsWord, if_neg (by simp), List.length_append, List.length_singleton, Text.countDown]
    simp [Text.byteAt, endsInWordByte, bind, Except.bind, pure, Except.pure]

@[simp] theorem wordGoesOn_length (before rest : List UInt8) :
    wordGoesOn (before ++ rest) before.length = .ok (continuesWord (rest.map Char.ofUInt8)) := by
  cases rest with
  | nil => simp [wordGoesOn, continuesWord]
  | cons byte rest =>
      rw [wordGoesOn, if_neg (by simp), Text.byteAt]
      simp [Except.map, continuesWord, isWordByte]

theorem toLower_of_isLower {c : Char} (lower : c.isLower) : c.toLower = c := by
  have last : 'Z'.val.toNat = 90 := rfl
  have first : 'a'.val.toNat = 97 := rfl
  unfold Char.isLower at lower
  simp only [Bool.and_eq_true, decide_eq_true_eq, ge_iff_le, UInt32.le_iff_toNat_le] at lower
  unfold Char.toLower
  split
  next upper =>
    have bound := UInt32.le_iff_toNat_le.mp upper.2
    omega
  next => rfl

include word in
theorem map_toLower_keyword : keyword.toList.map Char.toLower = keyword.toList := by
  rw [List.map_congr_left fun letter member => toLower_of_isLower (word.2 letter member),
    List.map_id']

include word in
theorem map_lowerByte_bytes : (Text.bytes keyword.toList).map lowerByte = keyword.toList := by
  have same := map_toLower_keyword word
  have plain := byteChars_spelled word.2 same
  calc (Text.bytes keyword.toList).map lowerByte
      = (byteChars keyword.toList).map Char.toLower := by rw [byteChars, List.map_map]; rfl
    _ = keyword.toList := by rw [plain, same]

include word in
theorem standsAt_length (before rest : List UInt8) :
    standsAt (Text.bytes keyword.toList) (before ++ rest) before.length =
      .ok (keywordHere keyword.toList (endsInWordByte before) .outside
        (rest.map Char.ofUInt8)).isSome := by
  have letters := map_lowerByte_bytes word
  have size : (Text.bytes keyword.toList).length = keyword.toList.length := by
    rw [← congrArg List.length letters, List.length_map]
  generalize Text.bytes keyword.toList = spelling at letters size
  rw [isSome_keywordHere, standsAt, ← size, ← List.map_take, List.map_map, ← List.map_drop]
  by_cases fits : spelling.length ≤ rest.length
  · have within : before.length + spelling.length ≤ (before ++ rest).length := by
      rw [List.length_append]
      omega
    have goesOn := wordGoesOn_length (before ++ rest.take spelling.length)
      (rest.drop spelling.length)
    rw [List.append_assoc, List.take_append_drop, List.length_append,
      List.length_take_of_le fits] at goesOn
    have spelled : ((rest.take spelling.length).map (Char.toLower ∘ Char.ofUInt8) =
        keyword.toList) ↔ (rest.take spelling.length).map lowerByte = spelling.map lowerByte := by
      rw [letters]
      rfl
    simp only [within, Text.sliceBytes_length fits, endsWord_length, goesOn, spelled, bind,
      Except.bind, if_true]
    by_cases same : (rest.take spelling.length).map lowerByte = spelling.map lowerByte
    · rw [if_neg (not_not_intro same), decide_eq_true same]
      cases endsInWordByte before <;> rfl
    · rw [if_pos same, decide_eq_false same]
      rfl
  · have unread : (rest.take spelling.length).map (Char.toLower ∘ Char.ofUInt8) ≠
        keyword.toList := by
      intro same
      have size' := congrArg List.length same
      rw [List.length_map, List.length_take, ← size] at size'
      omega
    rw [if_neg (by rw [List.length_append]; omega), decide_eq_false unread]
    rfl

theorem not_isBareLater_of_mark {c : Char} (mark : c ∈ ['\'', '"', '(', ')']) :
    Text.isBareLater c = false := by
  have marks : ∀ d ∈ ['\'', '"', '(', ')'], Text.isBareLater d = false := by decide
  exact marks c mark

theorem step_of_not_mark {c : Char} (plain : c ∉ ['\'', '"', '(', ')']) :
    Nesting.outside.step c = .outside := by
  simp only [List.mem_cons, List.not_mem_nil, or_false, not_or] at plain
  obtain ⟨single, double, opening, closing⟩ := plain
  exact step_plain (show Plain true c from ⟨single, double, opening, closing, fun _ => rfl⟩) 0

include word in
theorem keywordHere_eq_none {nesting : Nesting} {c : Char}
    (unchecked : ¬(nesting = .outside ∧ c ∉ ['\'', '"', '(', ')'])) (inWord : Bool)
    (rest : List Char) : keywordHere keyword.toList inWord nesting (c :: rest) = none := by
  rw [keywordHere]
  split
  next place =>
    have mark : c ∈ ['\'', '"', '(', ')'] := by
      apply Decidable.of_not_not
      intro plain
      exact unchecked ⟨place.1, plain⟩
    rw [afterKeyword?_eq_none word (not_isBareLater_of_mark mark)]
    rfl
  next => rfl

include word in
/-- The bytes from any place on are searched as characters of their numbers are, and nothing that is
looked at on the way is missing. -/
theorem keywordFrom_length (before rest : List UInt8) (nesting : Nesting) :
    keywordFrom (Text.bytes keyword.toList) (before ++ rest) nesting before.length rest =
      .ok ((splitAtKeyword? keyword.toList (endsInWordByte before) nesting
        (rest.map Char.ofUInt8)).map fun parts => before.length + parts.1.length) := by
  induction rest generalizing before nesting with
  | nil => rfl
  | cons byte rest ih =>
      have last : endsInWordByte (before ++ [byte]) = Text.isBareLater (Char.ofUInt8 byte) := by
        simp [endsInWordByte, isWordByte]
      have later := ih (before ++ [byte]) (nesting.step (Char.ofUInt8 byte))
      have longer : (fun parts : List Char × List Char =>
          (before ++ [byte]).length + parts.1.length) =
          (fun parts => before.length + parts.1.length) ∘ behind [Char.ofUInt8 byte] := by
        funext parts
        simp only [behind, Function.comp_apply, List.length_append, List.length_singleton]
        omega
      rw [List.append_assoc, List.singleton_append, last, longer, ← Option.map_map,
        List.length_append, List.length_singleton] at later
      have here := standsAt_length word before (byte :: rest)
      rw [List.map_cons] at here ⊢
      rw [keywordFrom, splitAtKeyword?_eq]
      split
      next checked =>
        obtain ⟨rfl, plain⟩ := checked
        rw [step_of_not_mark plain] at later
        rw [here]
        cases keywordHere keyword.toList (endsInWordByte before) .outside
            (Char.ofUInt8 byte :: rest.map Char.ofUInt8) with
        | some after => rfl
        | none =>
            rw [step_of_not_mark plain]
            exact later
      next unchecked =>
        rw [keywordHere_eq_none word unchecked]
        exact later

include word in
theorem findKeyword_eq (text : List Char) : findKeyword keyword.toList text =
    .ok ((splitAtKeyword? keyword.toList false .outside text).map fun parts =>
      Text.byteLength parts.1) := by
  have ascii : Nesting.outside.Ascii := fun quote opened => nomatch opened
  have found : findKeyword keyword.toList text =
      .ok ((splitAtKeyword? keyword.toList false .outside (byteChars text)).map
        fun parts => 0 + parts.1.length) :=
    keywordFrom_length word [] (Text.bytes text) .outside
  rw [found, splitAtKeyword?_byteChars word ascii, Option.map_map]
  congr 2
  funext parts
  simp [byteParts]

include word in
theorem byteLength_spelled {spelled : List Char}
    (spells : spelled.map Char.toLower = keyword.toList) :
    Text.byteLength spelled = Text.byteLength keyword.toList := by
  have plain := byteChars_spelled word.2 spells
  have plain' := byteChars_spelled word.2 (map_toLower_keyword word)
  rw [← length_byteChars, ← length_byteChars, plain, plain', ← spells, List.length_map]

include word in
theorem isBoundary_of_findKeyword {text : List Char} {offset : Nat}
    (found : findKeyword keyword.toList text = .ok (some offset)) :
    Text.isBoundary (Text.bytes text) offset ∧
      Text.isBoundary (Text.bytes text) (offset + (Text.bytes keyword.toList).length) := by
  rw [findKeyword_eq word, Except.ok.injEq, Option.map_eq_some_iff] at found
  obtain ⟨⟨before, after⟩, split, rfl⟩ := found
  obtain ⟨spelled, rfl, spells, _⟩ := splitAtKeyword?_parts split
  rw [Text.isBoundary_iff, Text.isBoundary_iff, Text.length_bytes, ← byteLength_spelled word spells]
  exact ⟨⟨before, _, rfl, rfl⟩, before ++ spelled, after, by rw [List.append_assoc],
    Text.byteLength_append before spelled⟩

end

end SqlTemplate.Schema
