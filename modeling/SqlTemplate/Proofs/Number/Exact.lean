import Mathlib.Algebra.Field.Rat
import Mathlib.Algebra.GroupWithZero.Basic
import Mathlib.Data.Rat.Cast.CharZero
import Mathlib.Tactic.FieldSimp
import Mathlib.Tactic.NormNum
import SqlTemplate.Number.Binary

/-!
The exact numbers that doubles are, by the fields of their words. A double is taken for an integer
exactly when it is that integer.
-/

namespace SqlTemplate.Number

def signed (negative : Bool) (magnitude : Rat) : Rat :=
  if negative then -magnitude else magnitude

namespace Double

structure Fields (x : Double) (negative : Bool) (exponent fraction : Nat) : Prop where
  exponent_lt : exponent < 2 ^ 11
  fraction_lt : fraction < 2 ^ 52
  word : x.bits.toNat = (if negative then 2 ^ 63 else 0) + exponent * 2 ^ 52 + fraction

/-- The number that a double is exactly. Infinities and what is no number have the greatest
exponent, and are none. -/
inductive Is (x : Double) : Rat → Prop
  | subnormal {negative : Bool} {fraction : Nat} : x.Fields negative 0 fraction →
      Is x (signed negative (fraction * 2 ^ (-1074 : Int)))
  | normal {negative : Bool} {exponent fraction : Nat} : 0 < exponent → exponent < 2047 →
      x.Fields negative exponent fraction →
      Is x (signed negative ((2 ^ 52 + fraction : Nat) * 2 ^ ((exponent : Int) - 1075)))

theorem exists_fields (x : Double) :
    ∃ negative exponent fraction, x.Fields negative exponent fraction := by
  have bound : x.bits.toNat < 2 ^ 64 := x.bits.toNat_lt
  refine ⟨decide (2 ^ 63 ≤ x.bits.toNat), x.bits.toNat / 2 ^ 52 % 2 ^ 11, x.bits.toNat % 2 ^ 52,
    ⟨by omega, by omega, ?_⟩⟩
  by_cases high : 2 ^ 63 ≤ x.bits.toNat
  · simp only [high, decide_true, if_true]
    omega
  · simp only [high, decide_false, Bool.false_eq_true, if_false]
    omega

theorem Fields.datum_eq {x : Double} {negative : Bool} {exponent fraction : Nat}
    (fields : x.Fields negative exponent fraction) :
    x.datum =
      if exponent = 2047 then if fraction = 0 then .infinite negative else .nan
      else if exponent = 0 then .finite negative fraction (-1074)
      else .finite negative (2 ^ 52 + fraction) ((exponent : Int) - 1075) := by
  obtain ⟨exponentBound, fractionBound, word⟩ := fields
  have sign : BinaryFormat.double.signWeight = 2 ^ 63 := rfl
  have unit : twoPow BinaryFormat.double.fractionBits = 2 ^ 52 := rfl
  have infinity : BinaryFormat.double.infinityWord = 2047 * 2 ^ 52 := rfl
  have least : BinaryFormat.double.leastExponent = -1074 := rfl
  have magnitude : x.bits.toNat % 2 ^ 63 = exponent * 2 ^ 52 + fraction := by
    split at word <;> omega
  have signBit : (x.bits.toNat / 2 ^ 63 % 2 == 1) = negative := by
    cases negative
    · simp only [Bool.false_eq_true, if_false] at word
      simp only [beq_eq_false_iff_ne]
      omega
    · simp only [if_true] at word
      simp only [beq_iff_eq]
      omega
  have high : (exponent * 2 ^ 52 + fraction) / 2 ^ 52 = exponent := by omega
  have low : (exponent * 2 ^ 52 + fraction) % 2 ^ 52 = fraction := by omega
  simp only [datum, BinaryFormat.decode, sign, unit, infinity, least, magnitude, signBit, high, low]
  by_cases special : exponent = 2047
  · subst special
    by_cases none : fraction = 0
    · simp [none]
    · rw [if_pos (by omega), if_pos rfl, if_neg none]
  · rw [if_neg (by omega), if_neg (by omega), if_neg special]
    by_cases small : exponent = 0
    · rw [if_pos small, if_pos small]
    · rw [if_neg small, if_neg small]
      congr 1
      omega

theorem is_iff {x : Double} {q : Rat} :
    x.Is q ↔ ∃ negative significand exponent, x.datum = .finite negative significand exponent ∧
      q = signed negative (significand * 2 ^ exponent) := by
  constructor
  · intro is
    cases is with
    | subnormal fields => exact ⟨_, _, _, by rw [fields.datum_eq]; simp, rfl⟩
    | normal positive finite fields =>
        refine ⟨_, _, _, ?_, rfl⟩
        rw [fields.datum_eq, if_neg (by omega), if_neg (by omega)]
  · rintro ⟨negative, significand, exponent, datum, rfl⟩
    obtain ⟨sign, field, fraction, fields⟩ := x.exists_fields
    rw [fields.datum_eq] at datum
    by_cases special : field = 2047
    · rw [if_pos special] at datum
      split at datum <;> cases datum
    · rw [if_neg special] at datum
      by_cases small : field = 0
      · rw [if_pos small] at datum
        cases datum
        subst small
        exact .subnormal fields
      · rw [if_neg small] at datum
        cases datum
        have below := fields.exponent_lt
        exact .normal (by omega) (by omega) fields

end Double

theorem dyadic_eq (significand : Nat) (exponent : Int) :
    0 < (dyadic significand exponent).2 ∧
      ((dyadic significand exponent).1 : Rat) / (dyadic significand exponent).2 =
        significand * 2 ^ exponent := by
  rw [dyadic]
  by_cases whole : 0 ≤ exponent
  · obtain ⟨places, rfl⟩ := Int.eq_ofNat_of_zero_le whole
    rw [if_pos whole]
    simp [twoPow]
  · obtain ⟨places, same⟩ := Int.eq_ofNat_of_zero_le (show 0 ≤ -exponent by omega)
    have negated : exponent = -(places : Int) := by omega
    subst negated
    rw [if_neg whole]
    simp [twoPow, div_eq_mul_inv]

theorem cast_eq_div_iff {num den : Nat} (positive : 0 < den) {n : Int} :
    (n : Rat) = (num : Rat) / den ↔ num % den = 0 ∧ n = (num / den : Nat) := by
  have nonzero : (den : Rat) ≠ 0 := by
    exact_mod_cast Nat.ne_of_gt positive
  rw [eq_div_iff nonzero]
  norm_cast
  constructor
  · intro product
    have divides : den ∣ num := by
      rw [← Int.natCast_dvd_natCast, ← product]
      exact Int.dvd_mul_left n den
    refine ⟨Nat.mod_eq_zero_of_dvd divides, ?_⟩
    rw [Int.natCast_ediv, ← product, Int.mul_ediv_cancel n (by omega)]
  · rintro ⟨whole, rfl⟩
    norm_cast
    exact Nat.div_mul_cancel (Nat.dvd_of_mod_eq_zero whole)

theorem cast_eq_signed_iff {negative : Bool} {num den : Nat} (positive : 0 < den) {n : Int} :
    (n : Rat) = signed negative ((num : Rat) / den) ↔
      num % den = 0 ∧ n = if negative then -((num / den : Nat) : Int) else (num / den : Nat) := by
  cases negative
  · simpa [signed] using cast_eq_div_iff positive
  · have opposite := @cast_eq_div_iff num den positive (-n)
    simp only [signed, if_true]
    rw [← neg_eq_iff_eq_neg, ← Int.cast_neg, opposite]
    omega

theorem Double.toInt?_eq_some_iff {x : Double} {n : Int} : x.toInt? = some n ↔ x.Is n := by
  rw [is_iff, toInt?]
  cases datum : x.datum with
  | nan => simp
  | infinite => simp
  | finite negative significand exponent =>
      obtain ⟨positive, fraction⟩ := dyadic_eq significand exponent
      have exact_iff := @cast_eq_signed_iff negative (dyadic significand exponent).1 _ positive n
      rw [fraction] at exact_iff
      constructor
      · intro read
        refine ⟨negative, significand, exponent, rfl, exact_iff.mpr ?_⟩
        simp only at read
        split at read
        next whole => exact ⟨whole, (Option.some.inj read).symm⟩
        next => cases read
      · rintro ⟨_, _, _, same, value⟩
        cases same
        obtain ⟨whole, rfl⟩ := exact_iff.mp value
        simp only [whole, if_true]

end SqlTemplate.Number
