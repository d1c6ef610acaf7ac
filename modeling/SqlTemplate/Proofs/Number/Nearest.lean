import SqlTemplate.Number.Shortest
import SqlTemplate.Proofs.Number.Exact

/-!
Integers as doubles. An integer becomes a given double, if that is a whole number other than zero,
exactly when it has its sign and lies in the interval of the numbers that round to it.
-/

namespace SqlTemplate.Number

/-- The natural nearest to a fraction, and the even one of two. -/
structure Nearest (num den quotient : Nat) : Prop where
  low : 2 * (quotient * den) ≤ 2 * num + den
  high : 2 * num ≤ 2 * (quotient * den) + den
  even : 2 * (quotient * den) = 2 * num + den ∨ 2 * num = 2 * (quotient * den) + den →
    quotient % 2 = 0

theorem nearest_divNearestEven {den : Nat} (positive : 0 < den) (num : Nat) :
    Nearest num den (divNearestEven num den) := by
  have parts : num / den * den + num % den = num := by
    rw [Nat.mul_comm]
    exact Nat.div_add_mod num den
  have small := Nat.mod_lt num positive
  have next : (num / den + 1) * den = num / den * den + den := Nat.succ_mul _ _
  generalize same : divNearestEven num den = quotient
  simp only [divNearestEven] at same
  split at same
  next below =>
    subst same
    exact ⟨by omega, by omega, by omega⟩
  next =>
    split at same
    next above =>
      subst same
      exact ⟨by omega, by omega, by omega⟩
    next =>
      -- Of the two neighbours of a half the even one is taken.
      rcases Nat.mod_two_eq_zero_or_one (num / den) with even | odd
      · rw [even, Nat.add_zero] at same
        subst same
        exact ⟨by omega, by omega, fun _ => even⟩
      · rw [odd] at same
        subst same
        exact ⟨by omega, by omega, by omega⟩

theorem Nearest.le {num den first second : Nat} (positive : 0 < den)
    (one : Nearest num den first) (other : Nearest num den second) : first ≤ second := by
  by_contra greater
  have next : (second + 1) * den ≤ first * den := Nat.mul_le_mul_right den (by omega)
  rw [Nat.succ_mul] at next
  have low := one.low
  have high := other.high
  have evenFirst := one.even (by omega)
  have evenSecond := other.even (by omega)
  have same : (second + 1) * den = first * den := by
    rw [Nat.succ_mul]
    omega
  have successor := Nat.eq_of_mul_eq_mul_right positive same
  omega

theorem divNearestEven_eq_iff {num den quotient : Nat} (positive : 0 < den) :
    divNearestEven num den = quotient ↔ Nearest num den quotient := by
  constructor
  · rintro rfl
    exact nearest_divNearestEven positive num
  · intro nearest
    have rounded := nearest_divNearestEven positive num
    exact Nat.le_antisymm (rounded.le positive nearest) (nearest.le positive rounded)

theorem dyadic_pow (significand : Nat) (exponent : Int) :
    dyadic significand exponent =
      (significand * 2 ^ exponent.toNat, 2 ^ (-exponent).toNat) := by
  rw [dyadic]
  split
  next whole =>
    have none : (-exponent).toNat = 0 := by omega
    rw [none]
    rfl
  next part =>
    have none : exponent.toNat = 0 := by omega
    rw [none, Nat.pow_zero, Nat.mul_one]
    rfl

structure Double.Whole (x : Double) (negative : Bool) (significand : Nat) (exponent : Int)
    (magnitude : Nat) : Prop where
  datum : x.datum = .finite negative significand exponent
  word : (x.bits.toNat : Int) =
    (if negative then 2 ^ 63 else 0) + (exponent + 1074) * 2 ^ 52 + significand
  significand_low : 2 ^ 52 ≤ significand
  significand_high : significand < 2 ^ 53
  exponent_low : -1074 < exponent
  exponent_high : exponent < 972
  value : magnitude * 2 ^ (-exponent).toNat = significand * 2 ^ exponent.toNat

theorem Double.magnitude_of_is {x : Double} {n : Int} (is : x.Is n) {negative : Bool}
    {significand : Nat} {exponent : Int} (datum : x.datum = .finite negative significand exponent) :
    n.natAbs * 2 ^ (-exponent).toNat = significand * 2 ^ exponent.toNat ∧
      (n ≠ 0 → negative = decide (n < 0)) := by
  have read := Double.toInt?_eq_some_iff.mpr is
  rw [toInt?, datum] at read
  simp only [dyadic_pow] at read
  split at read
  next whole =>
    have product := Nat.div_mul_cancel (Nat.dvd_of_mod_eq_zero whole)
    generalize significand * 2 ^ exponent.toNat / 2 ^ (-exponent).toNat = magnitude at *
    rw [Option.some.injEq] at read
    have same : n.natAbs = magnitude := by split at read <;> omega
    rw [same]
    refine ⟨product, ?_⟩
    intro nonzero
    cases negative
    · simp only [Bool.false_eq_true, if_false] at read
      exact (decide_eq_false (by omega)).symm
    · simp only [if_true] at read
      exact (decide_eq_true (by omega)).symm
  next => cases read

theorem Double.exists_whole {x : Double} {n : Int} (is : x.Is n) (nonzero : n ≠ 0) :
    ∃ significand exponent, x.Whole (decide (n < 0)) significand exponent n.natAbs := by
  obtain ⟨negative, significand, exponent, datum, _⟩ := is_iff.mp is
  obtain ⟨value, sign⟩ := magnitude_of_is is datum
  obtain ⟨sign', field, fraction, fields⟩ := x.exists_fields
  have fractionBound := fields.fraction_lt
  have fieldBound := fields.exponent_lt
  have word := fields.word
  have whole := fields.datum_eq
  rw [datum] at whole
  by_cases special : field = 2047
  · rw [if_pos special] at whole
    split at whole <;> cases whole
  · rw [if_neg special] at whole
    have above : exponent ≠ -1074 := by
      -- With the least exponent a number lies below one.
      intro least
      have below : significand < 2 ^ 53 := by
        split at whole <;>
          (rw [Datum.finite.injEq] at whole
           omega)
      have deep : 53 ≤ (-exponent).toNat ∧ exponent.toNat = 0 := by
        rw [least]
        decide
      have wide : 2 ^ 53 ≤ 2 ^ (-exponent).toNat := Nat.pow_le_pow_right (by decide) deep.1
      have reached : 1 * 2 ^ (-exponent).toNat ≤ n.natAbs * 2 ^ (-exponent).toNat :=
        Nat.mul_le_mul_right _ (Nat.pos_of_ne_zero (Int.natAbs_ne_zero.mpr nonzero))
      rw [deep.2] at value
      generalize 2 ^ (-exponent).toNat = unit at *
      omega
    split at whole
    next =>
      cases whole
      exact absurd rfl above
    next small =>
      cases whole
      rw [← sign nonzero]
      refine ⟨_, _, datum, ?_, by omega, by omega, by omega, by omega, value⟩
      rw [word]
      cases negative <;> simp <;> omega

/-- The digits that a natural keeps as a double, as a natural below `2 ^ 53` or equal to it. -/
def keptDigits (m : Nat) : Nat :=
  divNearestEven (m * 2 ^ (52 - m.log2)) (2 ^ (m.log2 - 52))

theorem log2Fraction_scaled {m : Nat} (positive : m ≠ 0) (places : Nat) :
    log2Fraction (m * 2 ^ places) (2 ^ places) = m.log2 := by
  have log : (m * 2 ^ places).log2 = m.log2 + places := by
    rw [Nat.log2_eq_iff (Nat.mul_ne_zero positive (Nat.two_pow_pos _).ne'), Nat.pow_add,
      Nat.add_right_comm, Nat.pow_add]
    exact ⟨Nat.mul_le_mul_right _ (Nat.log2_self_le positive),
      Nat.mul_lt_mul_of_pos_right Nat.lt_log2_self (Nat.two_pow_pos _)⟩
  have guess : ((m.log2 + places : Nat) : Int) - places = m.log2 := by omega
  have reached : 2 ^ places * twoPow m.log2 ≤ m * 2 ^ places := by
    rw [Nat.mul_comm]
    exact Nat.mul_le_mul_right _ (Nat.log2_self_le positive)
  simp only [log2Fraction, log, Nat.log2_two_pow, guess, Int.natCast_nonneg, if_true,
    Int.toNat_natCast, reached]

theorem log2Fraction_one {m : Nat} (positive : m ≠ 0) : log2Fraction m 1 = m.log2 := by
  simpa using log2Fraction_scaled positive 0

theorem round_double (negative : Bool) {m : Nat} (positive : m ≠ 0) :
    BinaryFormat.double.round negative m 1 =
      BinaryFormat.double.withSign negative
        (min ((m.log2 + 1022) * 2 ^ 52 + keptDigits m) (2047 * 2 ^ 52)) := by
  have least : BinaryFormat.double.leastExponent = -1074 := rfl
  have bits : BinaryFormat.double.fractionBits = 52 := rfl
  have infinity : BinaryFormat.double.infinityWord = 2047 * 2 ^ 52 := rfl
  have unit : twoPow 52 = 2 ^ 52 := rfl
  have place : max ((m.log2 : Int) - (52 : Nat)) (-1074) = m.log2 - 52 := by omega
  have offset : ((m.log2 : Int) - 52 - -1074).toNat = m.log2 + 1022 := by omega
  simp only [BinaryFormat.round, if_neg positive, log2Fraction_one positive, least, bits, infinity,
    place, offset, unit]
  congr 3
  rw [keptDigits]
  split
  next wide =>
    have shift : ((m.log2 : Int) - 52).toNat = m.log2 - 52 := by omega
    have none : 52 - m.log2 = 0 := by omega
    rw [shift, none, Nat.one_mul, Nat.pow_zero, Nat.mul_one]
    rfl
  next narrow =>
    have shift : (-((m.log2 : Int) - 52)).toNat = 52 - m.log2 := by omega
    have none : m.log2 - 52 = 0 := by omega
    rw [shift, none]
    rfl

theorem scaled_bounds {m : Nat} (positive : m ≠ 0) :
    2 ^ 52 * 2 ^ (m.log2 - 52) ≤ m * 2 ^ (52 - m.log2) ∧
      m * 2 ^ (52 - m.log2) < 2 ^ 53 * 2 ^ (m.log2 - 52) := by
  have low := Nat.log2_self_le positive
  have high := Nat.lt_log2_self (n := m)
  rcases Nat.le_total 52 m.log2 with wide | narrow
  · have none : 52 - m.log2 = 0 := by omega
    rw [none, Nat.pow_zero, Nat.mul_one, ← Nat.pow_add, ← Nat.pow_add,
      show 52 + (m.log2 - 52) = m.log2 by omega, show 53 + (m.log2 - 52) = m.log2 + 1 by omega]
    exact ⟨low, high⟩
  · have none : m.log2 - 52 = 0 := by omega
    have first : 2 ^ m.log2 * 2 ^ (52 - m.log2) = 2 ^ 52 := by
      rw [← Nat.pow_add, show m.log2 + (52 - m.log2) = 52 by omega]
    have last : 2 ^ (m.log2 + 1) * 2 ^ (52 - m.log2) = 2 ^ 53 := by
      rw [← Nat.pow_add, show m.log2 + 1 + (52 - m.log2) = 53 by omega]
    rw [none, Nat.pow_zero, Nat.mul_one, Nat.mul_one, ← first, ← last]
    exact ⟨Nat.mul_le_mul_right _ low, Nat.mul_lt_mul_of_pos_right high (Nat.two_pow_pos _)⟩

theorem nearest_keptDigits (m : Nat) :
    Nearest (m * 2 ^ (52 - m.log2)) (2 ^ (m.log2 - 52)) (keptDigits m) :=
  nearest_divNearestEven (Nat.two_pow_pos _) _

theorem keptDigits_bounds {m : Nat} (positive : m ≠ 0) :
    2 ^ 52 ≤ keptDigits m ∧ keptDigits m ≤ 2 ^ 53 := by
  obtain ⟨low, high⟩ := scaled_bounds positive
  have nearest := nearest_keptDigits m
  have unit := Nat.two_pow_pos (m.log2 - 52)
  constructor
  · by_contra small
    have less : (keptDigits m + 1) * 2 ^ (m.log2 - 52) ≤ 2 ^ 52 * 2 ^ (m.log2 - 52) :=
      Nat.mul_le_mul_right _ (by omega)
    rw [Nat.succ_mul] at less
    have above := nearest.high
    omega
  · by_contra large
    have more : (2 ^ 53 + 1) * 2 ^ (m.log2 - 52) ≤ keptDigits m * 2 ^ (m.log2 - 52) :=
      Nat.mul_le_mul_right _ (by omega)
    rw [Nat.succ_mul] at more
    have below := nearest.low
    omega

namespace Double.Whole

variable {x : Double} {negative : Bool} {significand magnitude : Nat} {exponent : Int}

theorem ofFraction_eq_iff (whole : x.Whole negative significand exponent magnitude) (sign : Bool)
    {m : Nat} (positive : m ≠ 0) :
    Double.ofFraction sign m 1 = x ↔ sign = negative ∧
      ((m.log2 : Int) - 52) * 2 ^ 52 + keptDigits m = exponent * 2 ^ 52 + significand := by
  obtain ⟨low, high⟩ := keptDigits_bounds positive
  have word := whole.word
  have exponentLow := whole.exponent_low
  have exponentHigh := whole.exponent_high
  have significandHigh := whole.significand_high
  have weight : BinaryFormat.double.signWeight = 2 ^ 63 := rfl
  have same : Double.ofFraction sign m 1 = x ↔
      (UInt64.ofNat (BinaryFormat.double.round sign m 1)).toNat = x.bits.toNat := by
    rw [UInt64.toNat_inj, ofFraction]
    constructor
    · rintro rfl
      rfl
    · intro bits
      rw [bits]
  rw [same, round_double sign positive, BinaryFormat.withSign, weight, UInt64.toNat_ofNat']
  cases sign <;> cases negative <;>
    simp only [Bool.false_eq_true, if_false, if_true, reduceCtorEq, false_and, true_and,
      iff_false] at word ⊢ <;>
    omega

end Double.Whole

/-- How far down the interval of a double reaches, in quarters of its last place. -/
def slack (significand : Nat) : Nat :=
  if significand = 2 ^ 52 then 1 else 2

theorem slack_bounds (significand : Nat) : 0 < slack significand ∧ slack significand ≤ 2 := by
  rw [slack]
  split <;> decide

theorem ofDatum_eq (significand : Nat) {exponent : Int} (above : -1074 < exponent) :
    Interval.ofDatum .double significand exponent =
      { lower := (4 * significand - slack significand) * 2 ^ exponent.toNat
        value := 4 * significand * 2 ^ exponent.toNat
        upper := (4 * significand + 2) * 2 ^ exponent.toNat
        den := 4 * 2 ^ (-exponent).toNat
        closed := significand % 2 = 0 } := by
  have least : BinaryFormat.double.leastExponent = -1074 := rfl
  simp only [Interval.ofDatum, dyadic_pow, Nat.one_mul, least, above, and_true]
  rfl

theorem contains_one_iff (i : Interval) (m : Nat) :
    i.contains m 1 ↔ i.lower ≤ m * i.den ∧ m * i.den ≤ i.upper ∧
      (m * i.den = i.lower ∨ m * i.den = i.upper → i.closed) := by
  rw [Interval.contains]
  simp only [Nat.mul_one]
  cases i.closed with
  | false =>
      simp only [Bool.false_eq_true, if_false, Bool.and_eq_true, decide_eq_true_eq, imp_false]
      omega
  | true => simp

/-- Whether a number, given as `point` units of which `place` make a last place, lies in the
interval of a significand. -/
structure Inside (significand point place : Nat) : Prop where
  low : 4 * (significand * place) ≤ 4 * point + slack significand * place
  high : 4 * point ≤ 4 * (significand * place) + 2 * place
  even : 4 * (significand * place) = 4 * point + slack significand * place ∨
    4 * point = 4 * (significand * place) + 2 * place → significand % 2 = 0

theorem contains_iff_inside {significand : Nat} (least : 2 ^ 52 ≤ significand) {exponent : Int}
    (above : -1074 < exponent) (m : Nat) :
    (Interval.ofDatum .double significand exponent).contains m 1 ↔
      Inside significand (m * 2 ^ (-exponent).toNat) (2 ^ exponent.toNat) := by
  have narrow := (slack_bounds significand).2
  have less : slack significand * 2 ^ exponent.toNat ≤ 4 * significand * 2 ^ exponent.toNat :=
    Nat.mul_le_mul_right _ (by omega)
  rw [Nat.mul_assoc] at less
  simp only [contains_one_iff, ofDatum_eq _ above, Nat.mul_left_comm m, Nat.sub_mul, Nat.add_mul,
    Nat.mul_assoc 4, decide_eq_true_eq]
  constructor
  · rintro ⟨low, high, even⟩
    exact ⟨by omega, by omega, fun edge => even (by omega)⟩
  · rintro ⟨low, high, even⟩
    exact ⟨by omega, by omega, fun edge => even (by omega)⟩

theorem inside_iff_nearest {significand point place : Nat} (above : 2 ^ 52 * place ≤ point) :
    Inside significand point place ↔ Nearest point place significand := by
  by_cases dense : significand = 2 ^ 52
  · subst dense
    constructor
    · rintro ⟨-, high, -⟩
      exact ⟨by omega, by omega, fun _ => by decide⟩
    · rintro ⟨-, high, -⟩
      exact ⟨by omega, by omega, fun _ => by decide⟩
  · have wide : slack significand = 2 := if_neg dense
    constructor
    · rintro ⟨low, high, even⟩
      rw [wide] at low even
      exact ⟨by omega, by omega, fun half => even (by omega)⟩
    · rintro ⟨low, high, even⟩
      exact ⟨by rw [wide]; omega, by omega, fun edge => even (by rw [wide] at edge; omega)⟩

/-- Below the least number with an exponent the places are half as wide. -/
theorem inside_iff_nearest_of_lt {significand point place : Nat} (least : 2 ^ 52 ≤ significand)
    (below : point < 2 ^ 52 * place) :
    Inside significand point place ↔
      significand = 2 ^ 52 ∧ Nearest (2 * point) place (2 ^ 53) := by
  by_cases dense : significand = 2 ^ 52
  · subst dense
    have narrow : slack (2 ^ 52) = 1 := rfl
    constructor
    · rintro ⟨low, -, -⟩
      rw [narrow] at low
      exact ⟨rfl, by omega, by omega, fun _ => by decide⟩
    · rintro ⟨-, low, -, -⟩
      exact ⟨by rw [narrow]; omega, by omega, fun _ => by decide⟩
  · have wide : slack significand = 2 := if_neg dense
    have more : (2 ^ 52 + 1) * place ≤ significand * place := Nat.mul_le_mul_right _ (by omega)
    rw [Nat.succ_mul] at more
    refine iff_of_false ?_ (fun both => dense both.1)
    rintro ⟨low, -, -⟩
    rw [wide] at low
    omega

theorem pow_le_scaled_iff {m : Nat} (positive : m ≠ 0) (place : Nat) (exponent : Int) :
    2 ^ place * 2 ^ exponent.toNat ≤ m * 2 ^ (-exponent).toNat ↔
      (place : Int) + exponent ≤ m.log2 := by
  rcases Int.le_total 0 exponent with whole | part
  · have none : (-exponent).toNat = 0 := by omega
    rw [none, Nat.pow_zero, Nat.mul_one, ← Nat.pow_add, ← Nat.le_log2 positive]
    omega
  · have none : exponent.toNat = 0 := by omega
    rw [none, Nat.pow_zero, Nat.mul_one]
    rcases Nat.le_total (-exponent).toNat place with reaching | exceeding
    · have parts : 2 ^ place = 2 ^ (place - (-exponent).toNat) * 2 ^ (-exponent).toNat := by
        rw [← Nat.pow_add, Nat.sub_add_cancel reaching]
      rw [parts, Nat.mul_le_mul_right_iff (Nat.two_pow_pos _), ← Nat.le_log2 positive]
      omega
    · have less : 2 ^ place ≤ 1 * 2 ^ (-exponent).toNat := by
        rw [Nat.one_mul]
        exact Nat.pow_le_pow_right (by decide) exceeding
      have more : 1 * 2 ^ (-exponent).toNat ≤ m * 2 ^ (-exponent).toNat :=
        Nat.mul_le_mul_right _ (by omega)
      refine iff_of_true (Nat.le_trans less more) (by omega)

theorem keptDigits_eq_iff {m : Nat} {exponent : Int} (place : (m.log2 : Int) - 52 = exponent)
    (kept : Nat) :
    keptDigits m = kept ↔ Nearest (m * 2 ^ (-exponent).toNat) (2 ^ exponent.toNat) kept := by
  have up : m.log2 - 52 = exponent.toNat := by omega
  have down : 52 - m.log2 = (-exponent).toNat := by omega
  rw [keptDigits, up, down]
  exact divNearestEven_eq_iff (Nat.two_pow_pos _)

@[simp] theorem Nearest.double_iff {num den quotient : Nat} :
    Nearest (2 * num) (2 * den) quotient ↔ Nearest num den quotient := by
  have twice : quotient * (2 * den) = 2 * (quotient * den) := Nat.mul_left_comm _ _ _
  constructor
  · rintro ⟨low, high, even⟩
    rw [twice] at low high even
    exact ⟨by omega, by omega, fun half => even (by omega)⟩
  · rintro ⟨low, high, even⟩
    refine ⟨?_, ?_, ?_⟩ <;> rw [twice]
    · omega
    · omega
    · intro half
      exact even (by omega)

theorem keptDigits_eq_iff_of_less {m : Nat} {exponent : Int}
    (place : (m.log2 : Int) - 51 = exponent) (kept : Nat) :
    keptDigits m = kept ↔
      Nearest (2 * (m * 2 ^ (-exponent).toNat)) (2 ^ exponent.toNat) kept := by
  rw [keptDigits_eq_iff (show (m.log2 : Int) - 52 = exponent - 1 by omega)]
  rcases Int.lt_or_le 0 exponent with whole | part
  · have up : exponent.toNat = (exponent - 1).toNat + 1 := by omega
    have down : (-exponent).toNat = (-(exponent - 1)).toNat := by omega
    rw [up, down, Nat.pow_succ', Nearest.double_iff]
  · have up : exponent.toNat = (exponent - 1).toNat := by omega
    have down : (-(exponent - 1)).toNat = (-exponent).toNat + 1 := by omega
    rw [up, down, Nat.pow_succ', Nat.mul_left_comm]

namespace Double.Whole

variable {x : Double} {negative : Bool} {significand magnitude : Nat} {exponent : Int}

theorem contains_iff (whole : x.Whole negative significand exponent magnitude) {m : Nat}
    (positive : m ≠ 0) :
    (Interval.ofDatum .double significand exponent).contains m 1 ↔
      ((m.log2 : Int) - 52) * 2 ^ 52 + keptDigits m = exponent * 2 ^ 52 + significand := by
  obtain ⟨keptLow, keptHigh⟩ := keptDigits_bounds positive
  have least := whole.significand_low
  have most := whole.significand_high
  have reached := pow_le_scaled_iff positive 52 exponent
  have passed := pow_le_scaled_iff positive 53 exponent
  have nearly := pow_le_scaled_iff positive 51 exponent
  have top := @keptDigits_eq_iff m exponent
  have less := @keptDigits_eq_iff_of_less m exponent
  have unit := Nat.two_pow_pos exponent.toNat
  have greatest : (significand + 1) * 2 ^ exponent.toNat ≤ 2 ^ 53 * 2 ^ exponent.toNat :=
    Nat.mul_le_mul_right _ most
  rw [Nat.succ_mul] at greatest
  rw [contains_iff_inside least whole.exponent_low]
  generalize m * 2 ^ (-exponent).toNat = point at *
  generalize 2 ^ exponent.toNat = place at *
  rcases Nat.lt_or_ge point (2 ^ 52 * place) with below | above
  · rw [inside_iff_nearest_of_lt least below]
    constructor
    · rintro ⟨rfl, nearest⟩
      have low := nearest.low
      have halfway := nearly.mp (by omega)
      have kept := (less (by omega) _).mpr nearest
      omega
    · intro same
      have dense : significand = 2 ^ 52 := by omega
      exact ⟨dense, (less (by omega) _).mp (by omega)⟩
  · rw [inside_iff_nearest above]
    constructor
    · intro nearest
      have high := nearest.high
      have kept := (top (by omega) _).mpr nearest
      omega
    · intro same
      exact (top (by omega) _).mp (by omega)

theorem not_contains_zero (whole : x.Whole negative significand exponent magnitude) :
    ¬(Interval.ofDatum .double significand exponent).contains 0 1 := by
  rw [contains_iff_inside whole.significand_low whole.exponent_low]
  intro inside
  have low := inside.low
  have unit := Nat.two_pow_pos exponent.toNat
  have least : 2 ^ 52 * 2 ^ exponent.toNat ≤ significand * 2 ^ exponent.toNat :=
    Nat.mul_le_mul_right _ whole.significand_low
  have narrow : slack significand * 2 ^ exponent.toNat ≤ 2 * 2 ^ exponent.toNat :=
    Nat.mul_le_mul_right _ (slack_bounds significand).2
  omega

theorem ofInt_eq_iff (whole : x.Whole negative significand exponent magnitude) {m : Int} :
    Double.ofInt m = x ↔ decide (m < 0) = negative ∧
      (Interval.ofDatum .double significand exponent).contains m.natAbs 1 := by
  by_cases zero : m = 0
  · subst zero
    refine iff_of_false ?_ (fun both => whole.not_contains_zero both.2)
    intro same
    have word := whole.word
    have least := whole.significand_low
    have above := whole.exponent_low
    have none : x.bits.toNat = 0 := by
      rw [← same]
      rfl
    rw [none] at word
    split at word <;> omega
  · rw [ofInt, whole.ofFraction_eq_iff _ (Int.natAbs_ne_zero.mpr zero),
      whole.contains_iff (Int.natAbs_ne_zero.mpr zero)]

end Double.Whole

end SqlTemplate.Number
