import SqlTemplate.Wire.Decode
import SqlTemplate.Wire.Encode

/-!
Integers on the wire. What is written in two's complement, most significant byte first, is read back
as the integer, as long as it fits the bytes.
-/

namespace SqlTemplate.Wire

open Number (twoPow)

theorem twoPow_bytes_succ (count : Nat) :
    twoPow (8 * (count + 1)) = 256 * twoPow (8 * count) := by
  simp only [twoPow, Nat.pow_eq]
  rw [Nat.mul_succ, Nat.pow_add, Nat.mul_comm]

theorem twoPow_bytes {count : Nat} (positive : 0 < count) :
    twoPow (8 * count) = 2 * twoPow (8 * count - 1) := by
  obtain ⟨below, rfl⟩ := Nat.exists_eq_succ_of_ne_zero (Nat.ne_of_gt positive)
  have last : 8 * (below + 1) = 8 * (below + 1) - 1 + 1 := by omega
  rw [last, Number.twoPow_succ, Nat.mul_comm, ← last]

@[simp] theorem length_bytesOfNat (count n : Nat) : (bytesOfNat count n).length = count := by
  induction count generalizing n with
  | zero => rfl
  | succ count ih => simp [bytesOfNat, ih]

@[simp] theorem natOfBytes_append (bytes : List UInt8) (byte : UInt8) :
    natOfBytes (bytes ++ [byte]) = 256 * natOfBytes bytes + byte.toNat := by
  simp [natOfBytes]

@[simp] theorem natOfBytes_bytesOfNat (count n : Nat) :
    natOfBytes (bytesOfNat count n) = n % twoPow (8 * count) := by
  induction count generalizing n with
  | zero => simp [bytesOfNat, natOfBytes, twoPow, Nat.mod_one]
  | succ count ih =>
      have byte : (UInt8.ofNat (n % 256)).toNat = n % 256 := by simp
      rw [bytesOfNat, natOfBytes_append, ih, byte, twoPow_bytes_succ, Nat.mod_mul]
      omega

theorem integer?_bytesOfInt {count : Nat} (positive : 0 < count) {n : Int}
    (low : -(twoPow (8 * count - 1) : Int) ≤ n) (high : n < twoPow (8 * count - 1)) :
    integer? count (bytesOfInt count n) = some n := by
  have range := twoPow_bytes positive
  have residue : ((n % twoPow (8 * count)).toNat : Int) = n % twoPow (8 * count) :=
    Int.toNat_of_nonneg (Int.emod_nonneg n (by omega))
  have below : n % twoPow (8 * count) < twoPow (8 * count) := Int.emod_lt_of_pos n (by omega)
  have written : natOfBytes (bytesOfInt count n) = (n % twoPow (8 * count)).toNat := by
    rw [bytesOfInt, natOfBytes_bytesOfNat]
    exact Nat.mod_eq_of_lt (by omega)
  have length : (bytesOfInt count n).length = count := length_bytesOfNat count _
  simp only [integer?, length, if_true, written, Option.some.injEq]
  by_cases negative : n < 0
  · have residueOf : n % (twoPow (8 * count) : Int) = n + twoPow (8 * count) := by
      rw [← Int.add_emod_right]
      exact Int.emod_eq_of_lt (by omega) (by omega)
    rw [if_neg (by omega)]
    omega
  · have residueOf : n % (twoPow (8 * count) : Int) = n :=
      Int.emod_eq_of_lt (by omega) (by omega)
    rw [if_pos (by omega)]
    omega

end SqlTemplate.Wire
