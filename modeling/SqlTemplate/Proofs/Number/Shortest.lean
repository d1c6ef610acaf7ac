import SqlTemplate.Proofs.Number.Nearest

/-!
The shortest decimals of whole numbers. Of the integers that become a given double, the text of the
double writes one that ends in the most zeros.
-/

namespace SqlTemplate.Number

namespace Interval

structure Around (i : Interval) (v : Nat) : Prop where
  positive : 0 < i.den
  value : i.value = v * i.den
  contained : i.contains v 1

/-- Whether no natural in an interval ends in more zeros than a given one. -/
def Roundest (i : Interval) (v : Nat) : Prop :=
  ∀ m, i.contains m 1 → ∀ zeros, 10 ^ zeros ∣ m → 10 ^ zeros ∣ v

variable {i : Interval} {v : Nat}

theorem contains_between {low high m : Nat} (first : i.contains low 1) (last : i.contains high 1)
    (above : low ≤ m) (below : m ≤ high) : i.contains m 1 := by
  have lower : low * i.den ≤ m * i.den := Nat.mul_le_mul_right _ above
  have upper : m * i.den ≤ high * i.den := Nat.mul_le_mul_right _ below
  rw [contains_one_iff] at first last ⊢
  obtain ⟨firstLow, -, firstClosed⟩ := first
  obtain ⟨-, lastHigh, lastClosed⟩ := last
  refine ⟨by omega, by omega, ?_⟩
  rintro (least | greatest)
  · exact firstClosed (Or.inl (by omega))
  · exact lastClosed (Or.inr (by omega))

theorem Around.nearestOn_eq (around : i.Around v) (tie : Tie) (places : Nat) :
    i.nearestOn tie places =
      let rest := 2 * (i.den * (v % 10 ^ places))
      let upper := rest > i.den * 10 ^ places ||
        (rest == i.den * 10 ^ places && (tie == .up || v / 10 ^ places % 2 == 1))
      if i.contains (v / 10 ^ places * 10 ^ places) 1 then
        if i.contains ((v / 10 ^ places + 1) * 10 ^ places) 1 then
          some ⟨if upper then v / 10 ^ places + 1 else v / 10 ^ places, places⟩
        else some ⟨v / 10 ^ places, places⟩
      else if i.contains ((v / 10 ^ places + 1) * 10 ^ places) 1 then
        some ⟨v / 10 ^ places + 1, places⟩
      else none := by
  have unit : tenPow (places : Int).toNat = 10 ^ places := rfl
  have below : i.value / (i.den * 10 ^ places) = v / 10 ^ places := by
    rw [around.value, Nat.mul_comm v, Nat.mul_div_mul_left _ _ around.positive]
  have rest : i.value % (i.den * 10 ^ places) = i.den * (v % 10 ^ places) := by
    rw [around.value, Nat.mul_comm v, Nat.mul_mod_mul_left]
  simp only [nearestOn, if_pos (Int.natCast_nonneg places), unit, Nat.mul_one, below, rest]
  cases i.contains (v / 10 ^ places * 10 ^ places) 1 <;>
    cases i.contains ((v / 10 ^ places + 1) * 10 ^ places) 1 <;> rfl

theorem Around.nearestOn_eq_none (around : i.Around v) {tie : Tie} {places : Nat}
    (missed : i.nearestOn tie places = none) {m : Nat} (multiple : 10 ^ places ∣ m) :
    ¬i.contains m 1 := by
  intro contained
  have unit : 0 < 10 ^ places := Nat.pow_pos (by decide)
  have parts := Nat.div_add_mod' v (10 ^ places)
  have rest := Nat.mod_lt v unit
  rw [around.nearestOn_eq] at missed
  obtain ⟨factor, rfl⟩ := multiple
  rw [Nat.mul_comm] at contained
  -- The neighbour on the side of the multiple lies between it and the number.
  rcases Nat.lt_or_ge (v / 10 ^ places) factor with more | less
  · have step : (v / 10 ^ places + 1) * 10 ^ places ≤ factor * 10 ^ places :=
      Nat.mul_le_mul_right _ more
    have above := contains_between around.contained contained
      (m := (v / 10 ^ places + 1) * 10 ^ places) (by rw [Nat.succ_mul]; omega) step
    simp only [above, if_true] at missed
    split at missed <;> cases missed
  · have step : factor * 10 ^ places ≤ v / 10 ^ places * 10 ^ places :=
      Nat.mul_le_mul_right _ less
    have below := contains_between contained around.contained step (by omega)
    simp only [below, if_true] at missed
    split at missed <;> cases missed

theorem Around.nearestOn_eq_some (around : i.Around v) {tie : Tie} {places : Nat} {d : Decimal}
    (found : i.nearestOn tie places = some d) :
    ∃ factor, d = ⟨factor, places⟩ ∧ i.contains (factor * 10 ^ places) 1 ∧
      (10 ^ places ∣ v → factor * 10 ^ places = v) := by
  have unit : 0 < 10 ^ places := Nat.pow_pos (by decide)
  rw [around.nearestOn_eq] at found
  cases below : i.contains (v / 10 ^ places * 10 ^ places) 1 <;>
    cases above : i.contains ((v / 10 ^ places + 1) * 10 ^ places) 1 <;>
    simp only [below, above, Bool.false_eq_true, if_true, if_false, reduceCtorEq,
      Option.some.injEq] at found
  case false.true =>
    refine ⟨_, found.symm, above, ?_⟩
    intro multiple
    rw [Nat.div_mul_cancel multiple, around.contained] at below
    cases below
  case true.false => exact ⟨_, found.symm, below, Nat.div_mul_cancel⟩
  case true.true =>
    refine ⟨_, found.symm, ?_, ?_⟩
    · split
      · exact above
      · exact below
    · intro multiple
      have step : 0 < i.den * 10 ^ places := Nat.mul_pos around.positive unit
      have none : (0 == i.den * 10 ^ places) = false := beq_eq_false_iff_ne.mpr step.ne
      simp only [Nat.mod_eq_zero_of_dvd multiple, Nat.mul_zero, none, gt_iff_lt, Nat.not_lt_zero,
        decide_false, Bool.false_and, Bool.or_self, Bool.false_eq_true, if_false]
      exact Nat.div_mul_cancel multiple

/-- Between the first grid and the units a search finds the coarsest grid with a point in the
interval, and on it the number itself if it is there. -/
theorem Around.search_eq (around : i.Around v) (tie : Tie) {steps first : Nat}
    (enough : first < steps) :
    ∃ factor places, i.search tie steps first = some ⟨factor, (places : Nat)⟩ ∧
      i.contains (factor * 10 ^ places) 1 ∧ (10 ^ places ∣ v → factor * 10 ^ places = v) ∧
      ∀ m coarser, coarser ≤ first → i.contains m 1 → 10 ^ coarser ∣ m → coarser ≤ places := by
  induction steps generalizing first with
  | zero => omega
  | succ steps ih =>
      rw [search]
      cases found : i.nearestOn tie first with
      | some d =>
          obtain ⟨factor, rfl, contained, same⟩ := around.nearestOn_eq_some found
          exact ⟨factor, first, rfl, contained, same, fun _ _ bounded _ _ => bounded⟩
      | none =>
          cases first with
          | zero =>
              have units := around.nearestOn_eq_none found (m := v) (Nat.one_dvd v)
              exact absurd around.contained units
          | succ first =>
              have next : ((first + 1 : Nat) : Int) - 1 = first := by omega
              obtain ⟨factor, places, result, contained, same, coarsest⟩ :=
                ih (Nat.lt_of_succ_lt_succ enough)
              refine ⟨factor, places, ?_, contained, same, ?_⟩
              · rw [next]
                exact result
              · intro m coarser bounded inside multiple
                rcases Nat.le_succ_iff.mp bounded with less | rfl
                · exact coarsest m coarser less inside multiple
                · exact absurd inside (around.nearestOn_eq_none found multiple)

end Interval

theorem stripZeros_natCast (steps factor places : Nat) :
    ∃ factor' places', stripZeros steps ⟨factor, (places : Nat)⟩ = ⟨factor', (places' : Nat)⟩ ∧
      factor' * 10 ^ places' = factor * 10 ^ places := by
  induction steps generalizing factor places with
  | zero => exact ⟨factor, places, rfl, rfl⟩
  | succ steps ih =>
      rw [stripZeros]
      split
      next zeros =>
        obtain ⟨factor', places', result, value⟩ := ih (factor / 10) (places + 1)
        refine ⟨factor', places', result, ?_⟩
        rw [value, Nat.pow_succ', ← Nat.mul_assoc,
          Nat.div_mul_cancel (Nat.dvd_of_mod_eq_zero zeros.2)]
      next => exact ⟨factor, places, rfl, rfl⟩

theorem digits_mul_pow {factor : Nat} (positive : factor ≠ 0) (places : Nat) :
    digits (factor * 10 ^ places) = digits factor ++ List.replicate places '0' := by
  induction places with
  | zero => simp
  | succ places ih =>
      have zero : Nat.toDigits 10 0 = ['0'] := by decide
      have scaled : 0 < factor * 10 ^ places :=
        Nat.mul_pos (Nat.pos_of_ne_zero positive) (Nat.pow_pos (by decide))
      have shift : factor * 10 ^ (places + 1) = 10 * (factor * 10 ^ places) + 0 := by
        rw [Nat.pow_succ, ← Nat.mul_assoc, Nat.mul_comm, Nat.add_zero]
      rw [digits, shift, ← Nat.toDigits_append_toDigits (by decide) scaled (by decide), zero]
      rw [digits] at ih
      rw [ih, List.append_assoc, List.replicate_succ']

/-- No power of ten that divides a number in the interval is coarser than the first grid. -/
theorem first_grid {magnitude m places : Nat} (positive : magnitude ≠ 0)
    (small : magnitude < 2 ^ 64) (nonzero : m ≠ 0) (close : m ≤ 2 * magnitude)
    (multiple : 10 ^ places ∣ m) :
    places ≤ magnitude.log2 * 30103 / 100000 + 1 := by
  have bounds : ∀ log < 64, 2 ^ (log + 2) ≤ 10 ^ (log * 30103 / 100000 + 2) := by decide
  have log : magnitude.log2 < 64 := (Nat.log2_lt positive).mpr small
  have less : 10 ^ places < 10 ^ (magnitude.log2 * 30103 / 100000 + 2) :=
    calc 10 ^ places ≤ m := Nat.le_of_dvd (Nat.pos_of_ne_zero nonzero) multiple
      _ ≤ 2 * magnitude := close
      _ < 2 ^ (magnitude.log2 + 2) := by
        rw [Nat.pow_succ']
        exact Nat.mul_lt_mul_of_pos_left Nat.lt_log2_self (by decide)
      _ ≤ 10 ^ (magnitude.log2 * 30103 / 100000 + 2) := bounds _ log
  have exponents := (Nat.pow_lt_pow_iff_right (by decide)).mp less
  omega

/-- Whether no integer that becomes a double ends in more zeros than a given one. -/
def Double.Roundest (x : Double) (n : Int) : Prop :=
  ∀ m : Int, Double.ofInt m = x → ∀ zeros, 10 ^ zeros ∣ m.natAbs → 10 ^ zeros ∣ n.natAbs

theorem Double.roundest_zero (x : Double) : x.Roundest 0 :=
  fun _ _ _ _ => Nat.dvd_zero _

namespace Double.Whole

variable {x : Double} {negative : Bool} {significand magnitude : Nat} {exponent : Int}

theorem around (whole : x.Whole negative significand exponent magnitude) :
    (Interval.ofDatum .double significand exponent).Around magnitude := by
  have unit := Nat.two_pow_pos exponent.toNat
  have wide : 0 < slack significand * 2 ^ exponent.toNat :=
    Nat.mul_pos (slack_bounds significand).1 unit
  refine ⟨?_, ?_, ?_⟩
  · rw [ofDatum_eq _ whole.exponent_low]
    exact Nat.mul_pos (by decide) (Nat.two_pow_pos _)
  · rw [ofDatum_eq _ whole.exponent_low]
    simp only [Nat.mul_left_comm magnitude, whole.value, Nat.mul_assoc]
  · rw [contains_iff_inside whole.significand_low whole.exponent_low, whole.value]
    exact ⟨by omega, by omega, by omega⟩

theorem le_of_contains (whole : x.Whole negative significand exponent magnitude) {m : Nat}
    (contained : (Interval.ofDatum .double significand exponent).contains m 1) :
    m ≤ 2 * magnitude := by
  rw [contains_iff_inside whole.significand_low whole.exponent_low] at contained
  have high := contained.high
  have least : 2 ^ 52 * 2 ^ exponent.toNat ≤ significand * 2 ^ exponent.toNat :=
    Nat.mul_le_mul_right _ whole.significand_low
  rw [← whole.value] at high least
  have doubled : m * 2 ^ (-exponent).toNat ≤ 2 * magnitude * 2 ^ (-exponent).toNat := by
    rw [Nat.mul_assoc]
    omega
  exact Nat.le_of_mul_le_mul_right doubled (Nat.two_pow_pos _)

/-- Below `2 ^ 54` the interval of a whole number holds no even one beside it. -/
theorem eq_of_contains_even (whole : x.Whole negative significand exponent magnitude)
    (positive : magnitude ≠ 0) (small : magnitude < 2 ^ 54) {m : Nat}
    (contained : (Interval.ofDatum .double significand exponent).contains m 1) (even : 2 ∣ m) :
    m = magnitude := by
  have log : magnitude.log2 < 54 := (Nat.log2_lt positive).mpr small
  have value := whole.value
  have narrow := (slack_bounds significand).2
  have reached : ((52 : Nat) : Int) + exponent ≤ magnitude.log2 := by
    rw [← pow_le_scaled_iff positive, value]
    exact Nat.mul_le_mul_right _ whole.significand_low
  rw [contains_iff_inside whole.significand_low whole.exponent_low] at contained
  obtain ⟨low, high, -⟩ := contained
  rcases Int.lt_or_le 0 exponent with coarse | fine
  · -- The numbers are two apart.
    have up : exponent.toNat = 1 := by omega
    have down : (-exponent).toNat = 0 := by omega
    rw [up, down] at value low high
    omega
  · have up : exponent.toNat = 0 := by omega
    have scaled : m * 2 ^ (-exponent).toNat = magnitude * 2 ^ (-exponent).toNat := by
      rw [up] at value low high
      omega
    exact Nat.eq_of_mul_eq_mul_right (Nat.two_pow_pos _) scaled

theorem shortest_eq (whole : x.Whole negative significand exponent magnitude)
    (positive : magnitude ≠ 0) (small : magnitude < 2 ^ 64) (tie : Tie) :
    ∃ factor places, shortest .double tie significand exponent = ⟨factor, (places : Nat)⟩ ∧
      (Interval.ofDatum .double significand exponent).contains (factor * 10 ^ places) 1 ∧
      (Interval.ofDatum .double significand exponent).Roundest (factor * 10 ^ places) ∧
      ((Interval.ofDatum .double significand exponent).Roundest magnitude →
        factor * 10 ^ places = magnitude) := by
  have log : magnitude.log2 < 64 := (Nat.log2_lt positive).mpr small
  have first : log2Fraction (Interval.ofDatum .double significand exponent).value
      (Interval.ofDatum .double significand exponent).den * 30103 / 100000 + 1 =
        ((magnitude.log2 * 30103 / 100000 + 1 : Nat) : Int) := by
    have den : (Interval.ofDatum .double significand exponent).den =
        2 ^ (2 + (-exponent).toNat) := by
      rw [ofDatum_eq _ whole.exponent_low, Nat.pow_add]
    rw [whole.around.value, den, log2Fraction_scaled positive]
    omega
  obtain ⟨factor, places, found, contained, same, coarsest⟩ :=
    whole.around.search_eq tie (show magnitude.log2 * 30103 / 100000 + 1 < 20 by omega)
  obtain ⟨factor', places', stripped, value⟩ := stripZeros_natCast 20 factor places
  refine ⟨factor', places', ?_, ?_, ?_, ?_⟩
  · have nonzero : significand ≠ 0 :=
      Nat.ne_of_gt (Nat.lt_of_lt_of_le (by decide) whole.significand_low)
    simp only [shortest, if_neg nonzero, first, found, stripped]
  · rw [value]
    exact contained
  · intro m inside zeros multiple
    have nonzero : m ≠ 0 := by
      rintro rfl
      exact whole.not_contains_zero inside
    have bounded := first_grid positive small nonzero (whole.le_of_contains inside) multiple
    rw [value]
    exact (Nat.pow_dvd_pow 10 (coarsest m zeros bounded inside multiple)).trans
      (Nat.dvd_mul_left _ _)
  · intro roundest
    rw [value]
    exact same (roundest _ contained places (Nat.dvd_mul_left _ _))

theorem roundest_iff (whole : x.Whole negative significand exponent magnitude) {n : Int} :
    x.Roundest n ↔ (Interval.ofDatum .double significand exponent).Roundest n.natAbs := by
  constructor
  · intro roundest m inside
    have nonzero : m ≠ 0 := by
      rintro rfl
      exact whole.not_contains_zero inside
    cases negative with
    | false =>
        refine roundest m (whole.ofInt_eq_iff.mpr ⟨?_, inside⟩)
        exact decide_eq_false (by omega)
    | true =>
        rw [← Int.natAbs_natCast m, ← Int.natAbs_neg]
        refine roundest (-m) (whole.ofInt_eq_iff.mpr ⟨?_, ?_⟩)
        · exact decide_eq_true (by omega)
        · rw [Int.natAbs_neg]
          exact inside
  · intro roundest m same
    exact roundest m.natAbs (whole.ofInt_eq_iff.mp same).2

theorem plainText_eq (whole : x.Whole negative significand exponent magnitude)
    {factor places : Nat} (nonzero : factor ≠ 0)
    (written : shortest .double .up significand exponent = ⟨factor, (places : Nat)⟩) :
    x.plainText =
      if negative then '-' :: digits (factor * 10 ^ places) else digits (factor * 10 ^ places) := by
  have datum : BinaryFormat.double.decode x.bits.toNat = .finite negative significand exponent :=
    whole.datum
  have layout : Layout.plain.decimal ⟨factor, (places : Nat)⟩ = digits (factor * 10 ^ places) := by
    simp [Layout.decimal, Layout.plain, nonzero, digits_mul_pow]
  rw [plainText, Layout.write, datum]
  simp only [show Layout.plain.tie = .up from rfl, written, layout]

end Double.Whole

/-- The text of a double that is a whole number is that of an integer that becomes the double, and
no other ends in more zeros. -/
theorem Double.plainText_whole {x : Double} {n : Int} (is : x.Is n) (nonzero : n ≠ 0)
    (small : n.natAbs < 2 ^ 64) :
    ∃ m : Int, x.plainText = intText m ∧ Double.ofInt m = x ∧ x.Roundest m ∧
      (x.Roundest n → m = n) ∧ m.natAbs ≤ 2 * n.natAbs := by
  obtain ⟨significand, exponent, whole⟩ := exists_whole is nonzero
  have positive : n.natAbs ≠ 0 := Int.natAbs_ne_zero.mpr nonzero
  obtain ⟨factor, places, written, contained, most, same⟩ :=
    whole.shortest_eq positive small .up
  have scaled : factor * 10 ^ places ≠ 0 := by
    intro none
    rw [none] at contained
    exact whole.not_contains_zero contained
  have text := whole.plainText_eq (Nat.ne_zero_of_mul_ne_zero_left scaled) written
  generalize factor * 10 ^ places = m at *
  have signed : ∃ l : Int, l.natAbs = m ∧ decide (l < 0) = decide (n < 0) := by
    rcases Int.lt_or_le n 0 with below | above
    · exact ⟨-m, by omega, decide_eq_decide.mpr (by omega)⟩
    · exact ⟨m, by omega, decide_eq_decide.mpr (by omega)⟩
  obtain ⟨l, rfl, sign⟩ := signed
  refine ⟨l, ?_, whole.ofInt_eq_iff.mpr ⟨sign, contained⟩, whole.roundest_iff.mpr most, ?_,
    whole.le_of_contains contained⟩
  · rw [text, ← sign, intText]
    simp only [decide_eq_true_eq]
  · intro roundest
    have magnitude := same (whole.roundest_iff.mp roundest)
    rw [decide_eq_decide] at sign
    omega

theorem Double.eq_zero_of_is {x : Double} (is : x.Is (0 : Int)) :
    x = ⟨0⟩ ∨ x = ⟨0x8000000000000000⟩ := by
  obtain ⟨negative, field, fraction, fields⟩ := x.exists_fields
  obtain ⟨sign, significand, exponent, datum, _⟩ := is_iff.mp is
  have value := (magnitude_of_is is datum).1
  have unit := Nat.two_pow_pos exponent.toNat
  have none : significand = 0 := by
    rw [Int.natAbs_zero, Nat.zero_mul, eq_comm, Nat.mul_eq_zero] at value
    omega
  have word := fields.word
  rw [fields.datum_eq, none] at datum
  split at datum
  next => split at datum <;> cases datum
  next =>
    split at datum
    next least =>
      cases datum
      rw [least] at word
      cases x
      cases negative
      · left
        rw [mk.injEq, ← UInt64.toNat_inj]
        simpa using word
      · right
        rw [mk.injEq, ← UInt64.toNat_inj]
        simpa using word
    next =>
      rw [Datum.finite.injEq] at datum
      omega

theorem Double.roundest_of_lt {x : Double} {n : Int} (is : x.Is n) (small : n.natAbs < 2 ^ 54) :
    x.Roundest n := by
  by_cases nonzero : n = 0
  · subst nonzero
    exact x.roundest_zero
  · obtain ⟨significand, exponent, whole⟩ := exists_whole is nonzero
    rw [whole.roundest_iff]
    intro m inside zeros multiple
    cases zeros with
    | zero => exact Nat.one_dvd _
    | succ zeros =>
        have even : 2 ∣ m := ((by decide : 2 ∣ 10).trans (Nat.dvd_mul_left 10 _)).trans multiple
        rw [← whole.eq_of_contains_even (Int.natAbs_ne_zero.mpr nonzero) small inside even]
        exact multiple

end SqlTemplate.Number
