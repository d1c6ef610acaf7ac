import SqlTemplate.Proofs.Result
import SqlTemplate.Proofs.Text.Clip
import SqlTemplate.Proofs.Text.Run
import SqlTemplate.Text.Offset

/-!
Offsets of bytes against the characters of a text. The boundaries are the numbers of bytes that the
starts of the text have; just there a text can be cut, and going back from a limit to the last one
finds the longest start of the text within the limit.
-/

namespace SqlTemplate.Text

def Continues (byte : UInt8) : Prop :=
  0x80 ≤ byte.toNat ∧ byte.toNat < 0xC0

theorem continues_ofNat (n : Nat) : Continues (UInt8.ofNat (n % 0x40 + 0x80)) := by
  simp only [Continues, UInt8.toNat_ofNat']
  omega

theorem utf8EncodeChar_cases (c : Char) :
    (c.toNat < 0x80 ∧ ∃ byte, String.utf8EncodeChar c = [byte] ∧ byte.toNat = c.toNat) ∨
      (0x80 ≤ c.toNat ∧ ∃ byte later, String.utf8EncodeChar c = byte :: later ∧
        0xC0 ≤ byte.toNat ∧ ∀ other ∈ later, Continues other) := by
  have value : c.val.toNat = c.toNat := rfl
  unfold String.utf8EncodeChar
  simp only [value]
  split
  next small =>
    refine Or.inl ⟨by omega, _, rfl, ?_⟩
    rw [UInt8.toNat_ofNat']
    omega
  next large =>
    right
    refine ⟨by omega, ?_⟩
    split
    next =>
      refine ⟨_, _, rfl, ?_, List.forall_mem_singleton.mpr (continues_ofNat _)⟩
      rw [UInt8.toNat_ofNat']
      omega
    next =>
      split
      next =>
        refine ⟨_, _, rfl, ?_, List.forall_mem_cons.mpr ⟨continues_ofNat _,
          List.forall_mem_singleton.mpr (continues_ofNat _)⟩⟩
        rw [UInt8.toNat_ofNat']
        omega
      next =>
        refine ⟨_, _, rfl, ?_, List.forall_mem_cons.mpr ⟨continues_ofNat _, List.forall_mem_cons.mpr
          ⟨continues_ofNat _, List.forall_mem_singleton.mpr (continues_ofNat _)⟩⟩⟩
        rw [UInt8.toNat_ofNat']
        omega

@[simp] theorem bytes_cons (c : Char) (rest : List Char) :
    bytes (c :: rest) = String.utf8EncodeChar c ++ bytes rest := by
  simp [bytes]

@[simp]
theorem bytes_append (text more : List Char) : bytes (text ++ more) = bytes text ++ bytes more := by
  simp [bytes]

@[simp] theorem length_bytes (text : List Char) : (bytes text).length = byteLength text := by
  induction text with
  | nil => rfl
  | cons c rest ih =>
      rw [bytes_cons, List.length_append, String.length_utf8EncodeChar, ih, byteLength]

theorem leads_bytes {text : List Char} {byte : UInt8} {later : List UInt8}
    (same : bytes text = byte :: later) : ¬Continues byte := by
  cases text with
  | nil => cases same
  | cons c rest =>
      rw [bytes_cons] at same
      rintro ⟨least, greatest⟩
      rcases utf8EncodeChar_cases c with
        ⟨small, lead, encoded, value⟩ | ⟨_, lead, _, encoded, large, _⟩
      · rw [encoded, List.singleton_append, List.cons.injEq] at same
        rw [same.1] at value
        omega
      · rw [encoded, List.cons_append, List.cons.injEq] at same
        rw [same.1] at large
        omega

theorem isBoundary_byteLength (before behind : List Char) :
    isBoundary (bytes (before ++ behind)) (byteLength before) := by
  rw [isBoundary, Bool.or_eq_true, bytes_append, ← length_bytes,
    List.getElem?_append_right (Nat.le_refl _), Nat.sub_self]
  right
  cases encoded : bytes behind with
  | nil => simp
  | cons byte later =>
      have leads := leads_bytes encoded
      simp only [List.getElem?_cons_zero, Bool.or_eq_true, decide_eq_true_eq]
      rw [Continues] at leads
      omega

theorem not_isBoundary_within {c : Char} {offset : Nat} (positive : 0 < offset)
    (within : offset < c.utf8Size) (rest : List Char) :
    isBoundary (bytes (c :: rest)) offset = false := by
  rw [← String.length_utf8EncodeChar] at within
  rw [isBoundary, bytes_cons, List.getElem?_append_left within]
  rcases utf8EncodeChar_cases c with
    ⟨_, lead, encoded, _⟩ | ⟨_, lead, later, encoded, _, continuing⟩
  · rw [encoded, List.length_singleton] at within
    omega
  · obtain ⟨earlier, rfl⟩ := Nat.exists_eq_add_one_of_ne_zero (Nat.ne_of_gt positive)
    rw [encoded, List.length_cons] at within
    have short : earlier < later.length := by omega
    obtain ⟨least, greatest⟩ := continuing _ (List.getElem_mem short)
    simp only [encoded, List.getElem?_cons_succ, List.getElem?_eq_getElem short]
    simp
    omega

theorem isBoundary_behind (c : Char) (offset : Nat) (rest : List Char) :
    isBoundary (bytes (c :: rest)) (c.utf8Size + offset) = isBoundary (bytes rest) offset := by
  have positive := c.utf8Size_pos
  have size := String.length_utf8EncodeChar c
  by_cases zero : offset = 0
  · have here := isBoundary_byteLength [c] rest
    subst zero
    simpa [isBoundary, byteLength] using here
  · have behind : (bytes (c :: rest))[c.utf8Size + offset]? = (bytes rest)[offset]? := by
      rw [bytes_cons, List.getElem?_append_right (by omega), size, Nat.add_sub_cancel_left]
    have first : (c.utf8Size + offset == 0) = (offset == 0) := by
      rw [beq_eq_false_iff_ne.mpr zero, beq_eq_false_iff_ne]
      omega
    have last : (c.utf8Size + offset == (bytes (c :: rest)).length) =
        (offset == (bytes rest).length) := by
      rw [bytes_cons, List.length_append, size, Bool.eq_iff_iff, beq_iff_eq, beq_iff_eq]
      omega
    rw [isBoundary, isBoundary, behind, first, last]

theorem exists_cut_of_isBoundary {text : List Char} {offset : Nat}
    (boundary : isBoundary (bytes text) offset) :
    ∃ before behind, text = before ++ behind ∧ byteLength before = offset := by
  induction text generalizing offset with
  | nil =>
      have zero : offset = 0 := by simpa [isBoundary, bytes] using boundary
      exact ⟨[], [], rfl, zero.symm⟩
  | cons c rest ih =>
      by_cases zero : offset = 0
      · exact ⟨[], c :: rest, rfl, zero.symm⟩
      by_cases within : offset < c.utf8Size
      · rw [not_isBoundary_within (Nat.pos_of_ne_zero zero) within rest] at boundary
        contradiction
      · obtain ⟨later, rfl⟩ := Nat.exists_eq_add_of_le (Nat.le_of_not_lt within)
        rw [isBoundary_behind] at boundary
        obtain ⟨before, behind, rfl, rfl⟩ := ih boundary
        exact ⟨c :: before, behind, rfl, rfl⟩

theorem isBoundary_iff {text : List Char} {offset : Nat} : isBoundary (bytes text) offset ↔
    ∃ before behind, text = before ++ behind ∧ byteLength before = offset := by
  constructor
  · exact exists_cut_of_isBoundary
  · rintro ⟨before, behind, rfl, rfl⟩
    exact isBoundary_byteLength before behind

@[simp] theorem cutAt_byteLength (before behind : List Char) :
    cutAt (byteLength before) (before ++ behind) = .ok (before, behind) := by
  induction before with
  | nil => cases behind <;> rfl
  | cons c before ih =>
      have positive := c.utf8Size_pos
      rw [List.cons_append, byteLength, cutAt, if_neg (by omega), if_pos (Nat.le_add_right _ _),
        Nat.add_sub_cancel_left, ih]
      rfl

theorem eq_of_cutAt {text before behind : List Char} {offset : Nat}
    (cut : cutAt offset text = .ok (before, behind)) :
    text = before ++ behind ∧ byteLength before = offset := by
  induction text generalizing before offset with
  | nil =>
      by_cases zero : offset = 0
      · rw [cutAt, if_pos zero, Except.ok.injEq, Prod.mk.injEq] at cut
        obtain ⟨rfl, rfl⟩ := cut
        exact ⟨rfl, zero.symm⟩
      · rw [cutAt, if_neg zero] at cut
        contradiction
  | cons c rest ih =>
      by_cases zero : offset = 0
      · rw [cutAt, if_pos zero, Except.ok.injEq, Prod.mk.injEq] at cut
        obtain ⟨rfl, rfl⟩ := cut
        exact ⟨rfl, zero.symm⟩
      by_cases fits : c.utf8Size ≤ offset
      · rw [cutAt, if_neg zero] at cut
        simp only [if_pos fits] at cut
        obtain ⟨⟨start, later⟩, found, same⟩ := Result.map_eq_ok_iff.mp cut
        rw [Prod.mk.injEq] at same
        obtain ⟨rfl, rfl⟩ := same
        obtain ⟨rfl, size⟩ := ih found
        refine ⟨rfl, ?_⟩
        rw [byteLength, size]
        omega
      · rw [cutAt, if_neg zero] at cut
        simp only [if_neg fits] at cut
        contradiction

theorem exists_cutAt_iff {text : List Char} {offset : Nat} :
    (∃ parts, cutAt offset text = .ok parts) ↔ isBoundary (bytes text) offset := by
  rw [isBoundary_iff]
  constructor
  · rintro ⟨⟨before, behind⟩, cut⟩
    exact ⟨before, behind, eq_of_cutAt cut⟩
  · rintro ⟨before, behind, rfl, rfl⟩
    exact ⟨_, cutAt_byteLength before behind⟩

@[simp] theorem sliceFrom_byteLength (before behind : List Char) :
    sliceFrom (before ++ behind) (byteLength before) = .ok behind := by
  rw [sliceFrom, cutAt_byteLength]
  rfl

@[simp] theorem sliceTo_byteLength (before behind : List Char) :
    sliceTo (before ++ behind) (byteLength before) = .ok before := by
  rw [sliceTo, cutAt_byteLength]
  rfl

@[simp] theorem slice_byteLength (before inner behind : List Char) :
    slice (before ++ (inner ++ behind)) (byteLength before) (byteLength before + byteLength inner) =
      .ok inner := by
  rw [slice, ← byteLength_append, ← List.append_assoc, sliceTo_byteLength]
  exact sliceFrom_byteLength before inner

theorem sliceBytes_length {before rest : List UInt8} {count : Nat} (fits : count ≤ rest.length) :
    sliceBytes (before ++ rest) before.length (before.length + count) = .ok (rest.take count) := by
  simp [sliceBytes, fits]

theorem offsetOf?_eq (p : Char → Bool) (text : List Char) : offsetOf? p text =
    (text.dropWhile fun c => !p c).head?.map fun _ =>
      byteLength (text.takeWhile fun c => !p c) := by
  induction text with
  | nil => rfl
  | cons c rest ih =>
      cases here : p c with
      | true => simp [offsetOf?, here, byteLength]
      | false => simp [offsetOf?, here, ih, byteLength, Function.comp_def]

theorem offsetOf?_append {p : Char → Bool} {before : List Char} {c : Char}
    (outside : ∀ d ∈ before, p d = false) (inside : p c) (rest : List Char) :
    offsetOf? p (before ++ c :: rest) = some (byteLength before) := by
  have run : ∀ d ∈ before, (!p d) = true := fun d member => by rw [outside d member]; rfl
  have stops : Stops (fun d => !p d) (c :: rest) := stops_cons_iff.mpr (by rw [inside]; rfl)
  rw [offsetOf?_eq, dropWhile_append_of_stops run stops, takeWhile_append_of_stops run stops]
  rfl

theorem offsetOf?_eq_none {p : Char → Bool} {text : List Char} (outside : ∀ d ∈ text, p d = false) :
    offsetOf? p text = none := by
  induction text with
  | nil => rfl
  | cons c rest ih =>
      obtain ⟨first, later⟩ := List.forall_mem_cons.mp outside
      rw [offsetOf?, first, ih later]
      rfl

theorem getD_offsetOf? (p : Char → Bool) (text : List Char) :
    (offsetOf? p text).getD (byteLength text) = byteLength (text.takeWhile fun c => !p c) := by
  have run := List.takeWhile_append_dropWhile (p := fun c => !p c) (l := text)
  rw [offsetOf?_eq]
  cases rest : text.dropWhile fun c => !p c with
  | nil =>
      rw [rest, List.append_nil] at run
      rw [run]
      rfl
  | cons c later => rfl

/-- A start of a text within a limit of bytes, with no boundary of the text behind it that is within
the limit, too. -/
structure Longest (limit : Nat) (text kept : List Char) : Prop where
  start : kept <+: text
  fits : byteLength kept ≤ limit
  last : ∀ offset ≤ limit, isBoundary (bytes text) offset → offset ≤ byteLength kept

theorem lastBoundary_spec (bytes : List UInt8) (offset : Nat) :
    ∃ stop ≤ offset, lastBoundary bytes offset = .ok stop ∧ isBoundary bytes stop ∧
      ∀ other ≤ offset, isBoundary bytes other → other ≤ stop := by
  induction offset with
  | zero =>
      have first : isBoundary bytes 0 := rfl
      refine ⟨0, Nat.le_refl 0, ?_, first, fun other bound _ => bound⟩
      rw [lastBoundary, if_pos first]
  | succ before ih =>
      by_cases here : isBoundary bytes (before + 1)
      · refine ⟨before + 1, Nat.le_refl _, ?_, here, fun other bound _ => bound⟩
        rw [lastBoundary, if_pos here]
      · obtain ⟨stop, bound, found, boundary, last⟩ := ih
        refine ⟨stop, Nat.le_succ_of_le bound, ?_, boundary, ?_⟩
        · rw [lastBoundary, if_neg here]
          exact found
        · intro other within isOne
          have different : other ≠ before + 1 := by
            rintro rfl
            exact here isOne
          exact last other (by omega) isOne

theorem byteLength_le_of_prefix {start text : List Char} (isStart : start <+: text) :
    byteLength start ≤ byteLength text := by
  obtain ⟨rest, rfl⟩ := isStart
  rw [byteLength_append]
  exact Nat.le_add_right _ _

theorem clip_eq_self {limit : Nat} {text : List Char} (fits : byteLength text ≤ limit) :
    clip limit text = text := by
  induction text generalizing limit with
  | nil => rfl
  | cons c rest ih =>
      rw [byteLength] at fits
      rw [clip, if_pos (by omega), ih (by omega)]

theorem longest_clip (limit : Nat) (text : List Char) : Longest limit text (clip limit text) := by
  by_cases fits : byteLength text ≤ limit
  · rw [clip_eq_self fits]
    refine ⟨List.prefix_refl text, fits, ?_⟩
    intro offset _ boundary
    obtain ⟨before, behind, rfl, rfl⟩ := isBoundary_iff.mp boundary
    exact byteLength_le_of_prefix (List.prefix_append before behind)
  · obtain ⟨kept, next, later, rfl, keptFits, exceeds⟩ := exists_cut (Nat.lt_of_not_le fits)
    rw [clip_append keptFits exceeds]
    refine ⟨List.prefix_append kept _, keptFits, ?_⟩
    intro offset within boundary
    obtain ⟨before, behind, same, rfl⟩ := isBoundary_iff.mp boundary
    have isStart : before <+: kept ++ next :: later := ⟨behind, same.symm⟩
    have taken : kept ++ [next] <+: kept ++ next :: later := ⟨later, by simp⟩
    rcases List.prefix_or_prefix_of_prefix isStart taken with shorter | longer
    · rcases List.prefix_concat_iff.mp shorter with rfl | inKept
      · omega
      · exact byteLength_le_of_prefix inKept
    · have more := byteLength_le_of_prefix longer
      omega

/-- The search for a boundary and the cut at it never fail, and give the longest start within the
limit. -/
@[simp] theorem clipAtBoundary_eq (limit : Nat) (text : List Char) :
    clipAtBoundary limit text = .ok (clip limit text) := by
  have longest := longest_clip limit text
  obtain ⟨rest, same⟩ := longest.start
  obtain ⟨stop, bound, found, boundary, last⟩ :=
    lastBoundary_spec (bytes text) (min limit (bytes text).length)
  have reached : byteLength (clip limit text) ≤ stop := by
    apply last
    · rw [length_bytes]
      exact Nat.le_min.mpr ⟨longest.fits, byteLength_le_of_prefix longest.start⟩
    · exact isBoundary_iff.mpr ⟨_, rest, same.symm, rfl⟩
  have stops : stop = byteLength (clip limit text) :=
    Nat.le_antisymm (longest.last stop (by omega) boundary) reached
  have cut := sliceTo_byteLength (clip limit text) rest
  rw [same, ← stops] at cut
  rw [clipAtBoundary, found]
  exact cut

theorem Longest.limit_le {limit : Nat} {text kept : List Char} (longest : Longest limit text kept)
    (exceeds : limit < byteLength text) : limit ≤ byteLength kept + 3 := by
  obtain ⟨rest, rfl⟩ := longest.start
  cases rest with
  | nil =>
      have fits := longest.fits
      rw [List.append_nil] at exceeds
      omega
  | cons next later =>
      have boundary : isBoundary (bytes (kept ++ next :: later)) (byteLength (kept ++ [next])) :=
        isBoundary_iff.mpr ⟨kept ++ [next], later, by simp, rfl⟩
      have last := longest.last (byteLength (kept ++ [next]))
      have size := next.utf8Size_le_four
      have positive := next.utf8Size_pos
      rw [byteLength_append, byteLength, byteLength] at boundary last
      by_cases within : byteLength kept + (next.utf8Size + 0) ≤ limit
      · have short := last within boundary
        omega
      · omega

end SqlTemplate.Text
