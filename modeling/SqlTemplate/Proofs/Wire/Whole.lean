import SqlTemplate.Proofs.Number.Exact
import SqlTemplate.Proofs.Wire.Checked

/-!
Whole numbers on the wire. For an integer type of the server a value is sent exactly if it is an
integer that fits the width of the type, in two's complement. Nothing is rounded, wrapped or cut to
the range; all other values are refused.
-/

namespace SqlTemplate

inductive Value.Is : Value → Rat → Prop
  | int (n : Int64) : Is (.int n) n.toInt
  | float {x : Number.Double} {q : Rat} : x.Is q → Is (.float x) q

namespace Wire

def integerTypes : List (WireType × Nat) := [(.int2, 16), (.int4, 32), (.int8, 64)]

/-- The integers that have a form of some bits in two's complement. -/
def Fits (width : Nat) (n : Int) : Prop :=
  -2 ^ (width - 1) ≤ n ∧ n < 2 ^ (width - 1)

theorem integerTypes_cases {type : WireType} {width : Nat} (sized : (type, width) ∈ integerTypes) :
    (type = .int2 ∧ width = 8 * 2) ∨ (type = .int4 ∧ width = 8 * 4) ∨
      (type = .int8 ∧ width = 8 * 8) := by
  simpa [integerTypes] using sized

theorem fits_word (n : Int64) : Fits (8 * 8) n.toInt :=
  ⟨n.le_toInt, n.toInt_lt⟩

theorem Fits.word {type : WireType} {width : Nat} (sized : (type, width) ∈ integerTypes) {n : Int}
    (fits : Fits width n) : Fits (8 * 8) n := by
  rcases integerTypes_cases sized with ⟨_, rfl⟩ | ⟨_, rfl⟩ | ⟨_, rfl⟩ <;>
    (simp only [Fits] at *; omega)

@[simp] theorem twoPow_cast (n : Nat) : (Number.twoPow n : Int) = 2 ^ n := by
  simp [Number.twoPow]

theorem integer?_bytesOfInt_of_fits {count : Nat} (positive : 0 < count) {n : Int}
    (fits : Fits (8 * count) n) : integer? count (bytesOfInt count n) = some n := by
  obtain ⟨low, high⟩ := fits
  rw [← twoPow_cast] at low high
  exact integer?_bytesOfInt positive low high

@[simp] theorem encodeWidth_eq_ok_iff {count : Nat} {n : Int} {sent : List UInt8} :
    encodeWidth count n = .ok sent ↔ Fits (8 * count) n ∧ sent = bytesOfInt count n := by
  rw [encodeWidth, Fits, twoPow_cast]
  by_cases large : 2 ^ (8 * count - 1) ≤ n
  · rw [if_pos large]
    simp only [reduceCtorEq, false_iff]
    omega
  · rw [if_neg large]
    by_cases small : n < -2 ^ (8 * count - 1)
    · rw [if_pos small]
      simp only [reduceCtorEq, false_iff]
      omega
    · rw [if_neg small, Except.ok.injEq]
      constructor
      · rintro rfl
        exact ⟨⟨by omega, by omega⟩, rfl⟩
      · rintro ⟨_, rfl⟩
        rfl

theorem encodeInt_eq_ok_iff {n : Int64} {type : WireType} {width : Nat}
    (sized : (type, width) ∈ integerTypes) {sent : List UInt8} :
    encodeInt n type = .ok sent ↔ Fits width n.toInt ∧ sent = bytesOfInt (width / 8) n.toInt := by
  rcases integerTypes_cases sized with ⟨rfl, rfl⟩ | ⟨rfl, rfl⟩ | ⟨rfl, rfl⟩
  · exact encodeWidth_eq_ok_iff
  · exact encodeWidth_eq_ok_iff
  · simp only [encodeInt, Except.ok.injEq, fits_word n, true_and]
    exact eq_comm

theorem encodeFloat_eq {x : Number.Double} {type : WireType} {width : Nat}
    (sized : (type, width) ∈ integerTypes) : encodeFloat x type = encodeWhole x type := by
  rcases integerTypes_cases sized with ⟨rfl, _⟩ | ⟨rfl, _⟩ | ⟨rfl, _⟩ <;> rfl

theorem encodeFloat_eq_ok_iff {x : Number.Double} {type : WireType} {width : Nat}
    (sized : (type, width) ∈ integerTypes) {sent : List UInt8} :
    encodeFloat x type = .ok sent ↔
      ∃ n : Int, x.Is n ∧ Fits width n ∧ sent = bytesOfInt (width / 8) n := by
  simp only [encodeFloat_eq sized, encodeWhole, ← Number.Double.toInt?_eq_some_iff, twoPow_cast]
  cases x.toInt? with
  | none => simp
  | some n =>
      simp only [Option.some.injEq, exists_eq_left']
      by_cases inside : -2 ^ 63 ≤ n ∧ n < 2 ^ 63
      · have same : (Int64.ofInt n).toInt = n := Int64.toInt_ofInt_of_le inside.1 inside.2
        rw [if_pos inside, encodeInt_eq_ok_iff sized, same]
      · rw [if_neg inside]
        simp only [reduceCtorEq, false_iff]
        rintro ⟨fits, _⟩
        exact inside (fits.word sized)

@[simp] theorem is_int_iff {n : Int64} {m : Int} : (Value.int n).Is m ↔ m = n.toInt := by
  constructor
  · intro is
    generalize same : (m : Rat) = q at is
    cases is
    exact_mod_cast same
  · rintro rfl
    exact .int n

@[simp] theorem is_float_iff {x : Number.Double} {q : Rat} : (Value.float x).Is q ↔ x.Is q := by
  constructor
  · intro is
    cases is with
    | float is => exact is
  · exact .float

theorem encode_integer_eq_ok_iff {value : Value} (given : value.isNull = false) {type : WireType}
    {width : Nat} (sized : (type, width) ∈ integerTypes) {sent : Option (List UInt8)} :
    encode value type = .ok sent ↔
      ∃ n : Int, value.Is n ∧ Fits width n ∧ sent = some (bytesOfInt (width / 8) n) := by
  cases value with
  | null => cases given
  | int n =>
      simp only [encode, Result.map_eq_ok_iff, encodeInt_eq_ok_iff sized, is_int_iff,
        exists_eq_left]
      grind
  | float x =>
      simp only [encode, Result.map_eq_ok_iff, encodeFloat_eq_ok_iff sized, is_float_iff]
      grind
  | _ =>
      apply iff_of_false
      · intro encoded
        rcases integerTypes_cases sized with ⟨rfl, _⟩ | ⟨rfl, _⟩ | ⟨rfl, _⟩ <;> cases encoded
      · rintro ⟨n, is, _⟩
        cases is

theorem integer_check_iff {value : Value} :
    ParamType.integer.check value = .ok () ↔ ∃ n : Int, value.Is n := by
  cases value with
  | int n => exact iff_of_true rfl ⟨n.toInt, .int n⟩
  | float x =>
      simp only [is_float_iff, ← Number.Double.toInt?_eq_some_iff, ← Option.isSome_iff_exists,
        ParamType.check, ParamType.require]
      cases x.toInt?.isSome <;> simp
  | _ =>
      apply iff_of_false
      · intro passes
        cases passes
      · rintro ⟨n, is⟩
        cases is

/-- For each integer type a value is sent exactly if it is an integer that fits the type, and what
is sent is that integer. So every value that passes the check of an integer, and is no greater and
no less than a word can hold, is sent as it is. -/
theorem integers_exact_or_refused {value : Value} (given : value.isNull = false) :
    (∀ type width, (type, width) ∈ integerTypes →
      (Encodes value type ↔ ∃ n : Int, value.Is n ∧ Fits width n) ∧
      ∀ n : Int, value.Is n → Fits width n → ∃ bytes, encode value type = .ok (some bytes) ∧
        integer? (width / 8) bytes = some n) ∧
    (ParamType.integer.check value = .ok () ↔ ∃ n : Int, value.Is n) ∧
    (ParamType.integer.check value = .ok () → ∃ n : Int, value.Is n ∧
      (Fits 64 n → ∃ bytes, encode value .int8 = .ok (some bytes) ∧
        integer? 8 bytes = some n)) := by
  have sent : ∀ type width, (type, width) ∈ integerTypes → ∀ n : Int, value.Is n → Fits width n →
      ∃ bytes, encode value type = .ok (some bytes) ∧ integer? (width / 8) bytes = some n := by
    intro type width sized n is fits
    refine ⟨_, (encode_integer_eq_ok_iff given sized).mpr ⟨n, is, fits, rfl⟩, ?_⟩
    rcases integerTypes_cases sized with ⟨_, rfl⟩ | ⟨_, rfl⟩ | ⟨_, rfl⟩ <;>
      exact integer?_bytesOfInt_of_fits (by omega) fits
  refine ⟨?_, integer_check_iff, ?_⟩
  · intro type width sized
    refine ⟨⟨?_, ?_⟩, sent type width sized⟩
    · rintro ⟨bytes, encoded⟩
      obtain ⟨n, is, fits, _⟩ := (encode_integer_eq_ok_iff given sized).mp encoded
      exact ⟨n, is, fits⟩
    · rintro ⟨n, is, fits⟩
      obtain ⟨bytes, encoded, _⟩ := sent type width sized n is fits
      exact ⟨some bytes, encoded⟩
  · intro passes
    obtain ⟨n, is⟩ := integer_check_iff.mp passes
    exact ⟨n, is, sent .int8 64 (by simp [integerTypes]) n is⟩

/-- The least number of a word, and the one after the greatest, which no word holds. -/
def leastWhole : Value := .float ⟨0xC3E0000000000000⟩

def beyondWords : Value := .float ⟨0x43E0000000000000⟩

theorem integers_exact_or_refused_ends :
    leastWhole.isNull = false ∧ ParamType.integer.check leastWhole = .ok () ∧
      (∃ bytes, encode leastWhole .int8 = .ok (some bytes) ∧
        integer? 8 bytes = some (-9223372036854775808)) ∧
      beyondWords.isNull = false ∧ ParamType.integer.check beyondWords = .ok () ∧
      ¬Encodes beyondWords .int8 := by
  have int8 : (WireType.int8, 64) ∈ integerTypes := by simp [integerTypes]
  have least : leastWhole.Is (-9223372036854775808 : Int) :=
    .float (Number.Double.toInt?_eq_some_iff.mp (by decide +kernel))
  have beyond : (⟨0x43E0000000000000⟩ : Number.Double).toInt? = some 9223372036854775808 := by
    decide +kernel
  obtain ⟨sent, passes, _⟩ := integers_exact_or_refused (show leastWhole.isNull = false from rfl)
  obtain ⟨sent', passes', _⟩ :=
    integers_exact_or_refused (show beyondWords.isNull = false from rfl)
  refine ⟨rfl, passes.mpr ⟨_, least⟩, (sent .int8 64 int8).2 _ least ⟨by decide, by decide⟩, rfl,
    passes'.mpr ⟨_, .float (Number.Double.toInt?_eq_some_iff.mp beyond)⟩, ?_⟩
  rw [(sent' .int8 64 int8).1]
  rintro ⟨n, is, fits⟩
  have read := Number.Double.toInt?_eq_some_iff.mpr (is_float_iff.mp is)
  rw [beyond, Option.some.injEq] at read
  exact absurd fits.2 (by rw [← read]; decide)

end Wire

end SqlTemplate
