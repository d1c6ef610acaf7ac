import SqlTemplate.Proofs.Number.Numeric
import SqlTemplate.Proofs.Wire.Integer

/-!
Decimal numbers and texts on the wire: both are read back as they were written.
-/

namespace SqlTemplate.Wire

open Number (Numeric)

theorem toList_loop (bytes : ByteArray) (start : Nat) (read : List UInt8) :
    ByteArray.toList.loop bytes start read = read.reverse ++ bytes.data.toList.drop start := by
  fun_induction ByteArray.toList.loop bytes start read with
  | case1 start read inside ih =>
      have bound : start < bytes.data.toList.length := by simpa using inside
      have byte : bytes.get! start = bytes.data.toList[start] := by
        cases bytes
        exact getElem!_pos _ _ _
      rw [ih, List.drop_eq_getElem_cons bound, byte, List.reverse_cons, List.append_assoc]
      rfl
  | case2 start read outside =>
      have bound : bytes.data.toList.length ≤ start := by simpa using outside
      rw [List.drop_eq_nil_of_le bound, List.append_nil]

theorem toArray_toList (bytes : ByteArray) : ByteArray.mk bytes.toList.toArray = bytes := by
  rw [ByteArray.toList, toList_loop]
  simp

@[simp]
theorem text?_bytesOfText (text : String) : text? (bytesOfText text) = some text.toList := by
  rw [text?, bytesOfText, toArray_toList, String.toUTF8, String.fromUTF8?,
    dif_pos text.isValidUTF8]
  rfl

@[simp] theorem pairs?_append (n : Nat) (rest : List UInt8) :
    pairs? (bytesOfNat 2 n ++ rest) =
      (pairs? rest).map (natOfBytes (bytesOfNat 2 n) :: ·) := rfl

theorem pairs?_pairs {ns : List Nat} (small : ∀ n ∈ ns, n < 65536) :
    pairs? (ns.flatMap (bytesOfNat 2)) = some ns := by
  induction ns with
  | nil => rfl
  | cons n ns ih =>
      have rest := ih (fun m member => small m (by simp [member]))
      have pair : natOfBytes (bytesOfNat 2 n) = n := by
        rw [natOfBytes_bytesOfNat]
        exact Nat.mod_eq_of_lt (small n (by simp))
      rw [List.flatMap_cons, pairs?_append, rest, pair, Option.map_some]

@[simp]
theorem length_pairs (ns : List Nat) : (ns.flatMap (bytesOfNat 2)).length = 2 * ns.length := by
  induction ns with
  | nil => rfl
  | cons n ns ih =>
      rw [List.flatMap_cons, List.length_append, length_bytesOfNat, ih, List.length_cons]
      omega

/-- The four naturals before the digits of a decimal number. -/
def heading (g : Numeric.Grouped) : List Nat :=
  [g.digits.length, (g.weight % Number.twoPow (8 * 2)).toNat, if g.negative then 0x4000 else 0,
    g.places]

theorem encodeNumeric_eq (x : Numeric) :
    encodeNumeric x =
      (heading x.grouped).flatMap (bytesOfNat 2) ++ x.grouped.digits.flatMap (bytesOfNat 2) := by
  simp [encodeNumeric, heading, bytesOfInt]

theorem grouped_bounds {x : Numeric} (proper : x.Proper) :
    x.grouped.digits.length ≤ 8 ∧ -8 ≤ x.grouped.weight ∧ x.grouped.weight ≤ 8 ∧
      x.grouped.places ≤ 28 := by
  have places : x.places ≤ 28 := proper.places
  have length := Numeric.length_grouped_le proper
  simp only [Numeric.grouped] at length ⊢
  split
  · decide
  next zero =>
    rw [if_neg zero] at length
    simp only at length ⊢
    omega

theorem heading_small {x : Numeric} (proper : x.Proper) :
    ∀ n ∈ heading x.grouped, n < 65536 := by
  obtain ⟨length, -, -, places⟩ := grouped_bounds proper
  have residue : x.grouped.weight % (Number.twoPow (8 * 2) : Int) < 65536 :=
    Int.emod_lt_of_pos _ (by decide)
  simp only [heading, List.forall_mem_cons, List.not_mem_nil, false_implies, implies_true, and_true]
  refine ⟨by omega, by omega, ?_, by omega⟩
  split <;> decide

theorem numeric?_encodeNumeric {x : Numeric} (proper : x.Proper) :
    numeric? (encodeNumeric x) = some x := by
  obtain ⟨length, low, high, -⟩ := grouped_bounds proper
  have short : ((heading x.grouped).flatMap (bytesOfNat 2)).length = 8 := rfl
  have first : (encodeNumeric x).take 8 = (heading x.grouped).flatMap (bytesOfNat 2) := by
    rw [encodeNumeric_eq, List.take_left' short]
  have last : (encodeNumeric x).drop 8 = x.grouped.digits.flatMap (bytesOfNat 2) := by
    rw [encodeNumeric_eq, List.drop_left' short]
  have half : Number.twoPow (8 * 2 - 1) = 32768 := by decide
  have weight : integer? 2 (((encodeNumeric x).drop 2).take 2) = some x.grouped.weight := by
    have bytes : ((encodeNumeric x).drop 2).take 2 = bytesOfInt 2 x.grouped.weight := rfl
    rw [bytes]
    exact integer?_bytesOfInt (by decide) (by rw [half]; omega) (by rw [half]; omega)
  have small : ∀ d ∈ x.grouped.digits, d < 65536 := fun d member =>
    Nat.lt_trans (Numeric.lt_of_mem_grouped member) (by decide)
  have digits : (x.grouped.digits.flatMap (bytesOfNat 2)).take (2 * x.grouped.digits.length) =
      x.grouped.digits.flatMap (bytesOfNat 2) :=
    List.take_of_length_le (Nat.le_of_eq (length_pairs _))
  have sign : decide ((if x.grouped.negative then 0x4000 else 0) = 0x4000) =
      x.grouped.negative := by
    cases x.grouped.negative <;> rfl
  have read := Numeric.ofGrouped?_grouped proper
  simp only [numeric?, first, last, pairs?_pairs (heading_small proper), weight,
    Option.bind_eq_bind, Option.bind_some]
  simp only [heading, digits, pairs?_pairs small, Option.bind_some, if_true, sign, read]

end SqlTemplate.Wire
