import Mathlib.Algebra.Order.Ring.Nat
import SqlTemplate.Number.Numeric

/-!
Decimal numbers and their forms: the text of an integer reads as the integer, and a number is read
back from its digits in base ten thousand.
-/

namespace SqlTemplate.Number.Numeric

theorem le_ofDigitChars (ds : List Char) (n : Nat) : n ≤ Nat.ofDigitChars 10 ds n := by
  induction ds generalizing n with
  | nil => simp
  | cons c ds ih =>
      rw [Nat.ofDigitChars_cons]
      have rest := ih (10 * n + (c.toNat - '0'.toNat))
      omega

theorem readDigits_digits {ds : List Char} (decimal : ∀ c ∈ ds, c.isDigit) {n : Nat}
    (small : Nat.ofDigitChars 10 ds n < bound) :
    readDigits false n 0 ds = .ok (Nat.ofDigitChars 10 ds n, 0) := by
  induction ds generalizing n with
  | nil => simp [readDigits]
  | cons c ds ih =>
      have digit : c.isDigit := decimal c (by simp)
      have noPoint : c ≠ '.' := by
        rintro rfl
        cases digit
      rw [Nat.ofDigitChars_cons] at small ⊢
      have rest := le_ofDigitChars ds (10 * n + digitValue c)
      have fits : ¬bound ≤ 10 * n + digitValue c := Nat.not_le.mpr (Nat.lt_of_le_of_lt rest small)
      simp only [readDigits, noPoint, false_and, if_false, digit, Bool.not_true, Bool.false_eq_true,
        fits]
      exact ih (fun d member => decimal d (by simp [member])) small

theorem readDigits_natural {n : Nat} (small : n < bound) :
    readDigits false 0 0 (digits n) = .ok (n, 0) := by
  have written : Nat.ofDigitChars 10 (digits n) 0 = n := ofDigits_digits n
  rw [readDigits_digits (fun _ => isDigit_of_mem_digits) (by rwa [written]), written]

theorem read_negated {n : Nat} (small : n < bound) :
    read ('-' :: digits n) = .ok ⟨n != 0, n, 0⟩ := by
  simp only [read, List.isEmpty_eq_false_iff.mpr (digits_ne_nil n), Bool.false_eq_true, if_false,
    readDigits_natural small, Bool.true_and]
  rfl

theorem read_natural {n : Nat} (small : n < bound) : read (digits n) = .ok ⟨false, n, 0⟩ := by
  rw [read]
  · simp only [List.isEmpty_eq_false_iff.mpr (digits_ne_nil n), Bool.false_eq_true, if_false,
      readDigits_natural small, Bool.false_and]
    rfl
  · intro rest same
    have sign : ('-').isDigit := isDigit_of_mem_digits (n := n) (by simp [same])
    cases sign

theorem read_intText {n : Int} (small : n.natAbs < bound) : read (intText n) = .ok (ofInt n) := by
  rw [intText, ofInt]
  split
  next negative =>
    have nonzero : (n.natAbs != 0) = true := by
      rw [bne_iff_ne]
      omega
    rw [read_negated small, nonzero, decide_eq_true negative]
  next positive => rw [read_natural small, decide_eq_false positive]

@[simp] theorem foldl_groups (n : Nat) : (groups n).foldl (fun n d => 10000 * n + d) 0 = n := by
  induction n using groups.induct with
  | case1 => simp [groups]
  | case2 n positive ih =>
      rw [groups, if_neg positive, List.foldl_append, ih]
      exact Nat.div_add_mod n 10000

theorem lt_of_mem_groups {n d : Nat} (member : d ∈ groups n) : d < 10000 := by
  induction n using groups.induct with
  | case1 => simp [groups] at member
  | case2 n positive ih =>
      rw [groups, if_neg positive, List.mem_append, List.mem_singleton] at member
      rcases member with higher | rfl
      · exact ih higher
      · exact Nat.mod_lt n (by decide)

theorem length_groups_le {count n : Nat} (small : n < 10000 ^ count) :
    (groups n).length ≤ count := by
  induction count generalizing n with
  | zero =>
      have none : n = 0 := by simpa using small
      simp [none, groups]
  | succ count ih =>
      rw [groups]
      split
      · exact Nat.zero_le _
      · have higher := ih (Nat.div_lt_of_lt_mul (by rwa [← Nat.pow_succ']))
        rw [List.length_append, List.length_singleton]
        omega

/-- A number with a sign only beside digits, and with no more digits and places than are kept. -/
structure Proper (x : Numeric) : Prop where
  coefficient : x.coefficient < bound
  places : x.places ≤ mostPlaces
  zero : x.coefficient = 0 → x = ⟨false, 0, 0⟩

theorem proper_ofInt {n : Int} (small : n.natAbs < bound) : (ofInt n).Proper := by
  refine ⟨small, Nat.zero_le _, ?_⟩
  intro none
  have zero : n = 0 := Int.natAbs_eq_zero.mp none
  subst zero
  rfl

theorem div_half_up (n : Nat) {den : Nat} (positive : 0 < den) :
    (2 * (n * den) + den) / (2 * den) = n := by
  have parts : 2 * (n * den) + den = den + 2 * den * n := by
    rw [Nat.add_comm, Nat.mul_assoc, Nat.mul_comm n]
  rw [parts, Nat.add_mul_div_left _ _ (by omega), Nat.div_eq_of_lt (by omega), Nat.zero_add]

theorem fit?_exact {negative : Bool} {num den coefficient places : Nat} (positive : 0 < den)
    (exact : num * 10 ^ places = coefficient * den) (small : coefficient < bound) :
    fit? negative num den places = some ⟨negative, coefficient, places⟩ := by
  cases places with
  | zero =>
      rw [Nat.pow_zero, Nat.mul_one] at exact
      simp only [fit?, exact, div_half_up coefficient positive, if_pos small]
  | succ places =>
      have scaled : 2 * num * tenPow (places + 1) = 2 * (coefficient * den) := by
        rw [Nat.mul_assoc, ← exact]
        rfl
      simp only [fit?, scaled, div_half_up coefficient positive, if_pos small]

theorem shifted (num places : Nat) :
    (if 0 ≤ -(places : Int) then (num * tenPow (-(places : Int)).toNat, 1)
      else (num, tenPow (-(-(places : Int))).toNat)) = (num, tenPow places) := by
  split
  next none =>
    have zero : places = 0 := by omega
    subst zero
    simp [tenPow]
  next => rw [Int.neg_neg, Int.toNat_natCast]

theorem length_grouped_le {x : Numeric} (proper : x.Proper) : x.grouped.digits.length ≤ 8 := by
  rw [grouped]
  split
  · exact Nat.zero_le _
  · apply length_groups_le
    have shift : tenPow ((4 - x.places % 4) % 4) ≤ 10 ^ 3 :=
      Nat.pow_le_pow_right (by decide) (by omega)
    calc x.coefficient * tenPow ((4 - x.places % 4) % 4)
        ≤ 2 ^ 96 * 10 ^ 3 := Nat.mul_le_mul (Nat.le_of_lt proper.coefficient) shift
      _ < 10000 ^ 8 := by decide

theorem lt_of_mem_grouped {x : Numeric} {d : Nat} (member : d ∈ x.grouped.digits) : d < 10000 := by
  rw [grouped] at member
  split at member
  · cases member
  · exact lt_of_mem_groups member

theorem ofGrouped?_grouped {x : Numeric} (proper : x.Proper) : ofGrouped? x.grouped = some x := by
  by_cases zero : x.coefficient = 0
  · rw [proper.zero zero]
    decide
  · have unit : 0 < tenPow ((4 - x.places % 4) % 4) := tenPow_pos _
    have aligned : x.coefficient * tenPow ((4 - x.places % 4) % 4) ≠ 0 :=
      Nat.mul_ne_zero zero (Nat.ne_of_gt unit)
    have places : min x.places mostPlaces = x.places := Nat.min_eq_left proper.places
    simp only [ofGrouped?, grouped, if_neg zero, foldl_groups, places, bne_iff_ne.mpr aligned,
      Bool.and_true]
    have shift : ∀ length : Int, 4 * (length - ((x.places : Int) + 3) / 4 - 1 - (length - 1)) =
        -((x.places + (4 - x.places % 4) % 4 : Nat) : Int) := by omega
    rw [shift, shifted]
    refine fit?_exact (tenPow_pos _) ?_ proper.coefficient
    rw [Nat.mul_assoc, tenPow, tenPow, Nat.pow_eq, Nat.pow_eq, ← Nat.pow_add, Nat.add_comm]

end SqlTemplate.Number.Numeric
