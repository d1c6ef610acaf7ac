import SqlTemplate.Proofs.Number.Shortest
import SqlTemplate.Proofs.Wire.Decimal
import SqlTemplate.Proofs.Wire.Display
import SqlTemplate.Proofs.Wire.Whole

/-!
Whole numbers that arrive as floats. For an integer type such a float is sent as the integer it is.
For decimal numbers and texts it is sent as its shortest text says: as an integer that becomes the
float, and of these as one that ends in the most zeros.
-/

namespace SqlTemplate

open Number (Numeric intText)

@[simp] theorem Number.Numeric.ofInt_inj {m n : Int} : ofInt m = ofInt n ↔ m = n := by
  rw [ofInt, ofInt, mk.injEq, decide_eq_decide]
  omega

theorem Number.intText_inj {m n : Int} (fits : m.natAbs < Numeric.bound)
    (fits' : n.natAbs < Numeric.bound) : intText m = intText n ↔ m = n := by
  constructor
  · intro same
    have read := Numeric.read_intText fits
    rw [same, Numeric.read_intText fits', Except.ok.injEq, Numeric.ofInt_inj] at read
    exact read.symm
  · rintro rfl
    rfl

namespace Wire

@[simp] theorem bytesOfText_inj {s t : String} : bytesOfText s = bytesOfText t ↔ s = t := by
  constructor
  · intro same
    have read := text?_bytesOfText s
    rw [same, text?_bytesOfText, Option.some.injEq, String.toList_inj] at read
    exact read.symm
  · rintro rfl
    rfl

theorem encodeNumeric_inj {x y : Numeric} (proper : x.Proper) (proper' : y.Proper) :
    encodeNumeric x = encodeNumeric y ↔ x = y := by
  constructor
  · intro same
    have read := numeric?_encodeNumeric proper
    rw [same, numeric?_encodeNumeric proper', Option.some.injEq] at read
    exact read.symm
  · rintro rfl
    rfl

theorem encode_whole {x : Number.Double} {n : Int64} (is : x.Is n.toInt) {type : WireType}
    {width : Nat} (sized : (type, width) ∈ integerTypes) :
    encode (.float x) type = encode (.int n) type := by
  have read := Number.Double.toInt?_eq_some_iff.mpr is
  obtain ⟨low, high⟩ := fits_word n
  have inside : -(Number.twoPow 63 : Int) ≤ n.toInt ∧ n.toInt < Number.twoPow 63 := by
    rw [twoPow_cast]
    exact ⟨low, high⟩
  rw [encode, encode, encodeFloat_eq sized, encodeWhole]
  simp only [read, if_pos inside, Int64.ofInt_toInt]

theorem fits_numeric (n : Int64) : n.toInt.natAbs < Numeric.bound := by
  obtain ⟨low, high⟩ := fits_word n
  have bound : Numeric.bound = 2 ^ 96 := rfl
  omega

theorem encode_text_float {x : Number.Double} {text : List Char} (written : x.plainText = text) :
    encode (.float x) .text = .ok (some (bytesOfText (String.ofList text))) := by
  have texts : WireType.text.takesText = true := rfl
  rw [encode_displayed rfl rfl texts, Value.display, written]
  rfl

theorem encode_numeric_float {x : Number.Double} {number : Numeric}
    (written : Numeric.read x.plainText = .ok number) :
    encode (.float x) .numeric = .ok (some (encodeNumeric number)) := by
  simp only [encode, encodeFloat, written]
  rfl

theorem encode_text_int (n : Int64) :
    encode (.int n) .text = .ok (some (bytesOfText (String.ofList (intText n.toInt)))) :=
  encode_displayed rfl rfl (show WireType.text.takesText = true from rfl)

theorem encode_numeric_int (n : Int64) :
    encode (.int n) .numeric = .ok (some (encodeNumeric (.ofInt n.toInt))) := rfl

def negativeZero : Number.Double := ⟨0x8000000000000000⟩

theorem plainText_negativeZero : negativeZero.plainText = ['-', '0'] := by decide +kernel

/-- The integer that a whole float is sent as for decimal numbers and, but for the sign of a
negative zero, for texts. -/
structure WholeSentAs (x : Number.Double) (n m : Int) : Prop where
  numeric : encode (.float x) .numeric = .ok (some (encodeNumeric (.ofInt m)))
  text : x ≠ negativeZero →
    encode (.float x) .text = .ok (some (bytesOfText (String.ofList (intText m))))
  becomes : n ≠ 0 → Number.Double.ofInt m = x
  roundest : x.Roundest m
  same : x.Roundest n → m = n
  fits : m.natAbs < Numeric.bound

theorem exists_wholeSentAs {x : Number.Double} {n : Int} (is : x.Is n) (small : n.natAbs < 2 ^ 64) :
    ∃ m, WholeSentAs x n m := by
  by_cases zero : n = 0
  · subst zero
    have numeric : Numeric.read x.plainText = .ok (.ofInt 0) := by
      rcases Number.Double.eq_zero_of_is is with rfl | rfl <;> decide +kernel
    refine ⟨0, encode_numeric_float numeric, ?_, ?_, x.roundest_zero, fun _ => rfl, by decide⟩
    · intro positive
      rcases Number.Double.eq_zero_of_is is with rfl | rfl
      · exact encode_text_float (by decide +kernel)
      · exact absurd rfl positive
    · exact fun nonzero => absurd rfl nonzero
  · obtain ⟨m, text, becomes, roundest, same, close⟩ :=
      Number.Double.plainText_whole is zero small
    have bound : Numeric.bound = 2 ^ 96 := rfl
    have fits : m.natAbs < Numeric.bound := by omega
    have numeric : Numeric.read x.plainText = .ok (.ofInt m) := by
      rw [text, Numeric.read_intText fits]
    exact ⟨m, encode_numeric_float numeric, fun _ => encode_text_float text, fun _ => becomes,
      roundest, same, fits⟩

namespace WholeSentAs

variable {x : Number.Double} {n m : Int}

theorem eq_iff (sent : WholeSentAs x n m) : m = n ↔ x.Roundest n := by
  constructor
  · rintro rfl
    exact sent.roundest
  · exact sent.same

theorem numeric_eq_iff {n : Int64} (sent : WholeSentAs x n.toInt m) :
    encode (.float x) .numeric = encode (.int n) .numeric ↔ x.Roundest n.toInt := by
  have proper := Numeric.proper_ofInt sent.fits
  have proper' := Numeric.proper_ofInt (fits_numeric n)
  rw [sent.numeric, encode_numeric_int, Except.ok.injEq, Option.some.injEq,
    encodeNumeric_inj proper proper', Numeric.ofInt_inj, sent.eq_iff]

theorem text_eq_iff {n : Int64} (is : x.Is n.toInt) (sent : WholeSentAs x n.toInt m) :
    encode (.float x) .text = encode (.int n) .text ↔
      x.Roundest n.toInt ∧ x ≠ negativeZero := by
  rw [encode_text_int]
  by_cases negative : x = negativeZero
  · subst negative
    have zero : n.toInt = 0 := by
      have read := Number.Double.toInt?_eq_some_iff.mpr is
      rw [show negativeZero.toInt? = some 0 by decide +kernel, Option.some.injEq] at read
      exact read.symm
    rw [encode_text_float plainText_negativeZero, zero, Except.ok.injEq, Option.some.injEq,
      bytesOfText_inj]
    simp [intText, Number.digits]
  · rw [sent.text negative, Except.ok.injEq, Option.some.injEq, bytesOfText_inj,
      String.ofList_inj, Number.intText_inj sent.fits (fits_numeric n), sent.eq_iff]
    simp only [negative, ne_eq, not_false_eq_true, and_true]

end WholeSentAs

/-- A whole float and its integer are sent alike for every integer type. For decimal numbers and
texts both can always be sent, and they are sent alike exactly if no integer that becomes the float
ends in more zeros, except that a negative zero keeps its sign as a text, `-0`. What is read back of
the float is an integer that becomes it. -/
theorem whole_float_sent_alike_iff {n : Int64} {x : Number.Double} (is : x.Is n.toInt) :
    (∀ type width, (type, width) ∈ integerTypes →
      encode (.float x) type = encode (.int n) type) ∧
    (∀ type ∈ [WireType.numeric, .text], Encodes (.float x) type ∧ Encodes (.int n) type) ∧
    (encode (.float x) .numeric = encode (.int n) .numeric ↔ x.Roundest n.toInt) ∧
    (encode (.float x) .text = encode (.int n) .text ↔
      x.Roundest n.toInt ∧ x ≠ negativeZero) ∧
    (n.toInt.natAbs < 2 ^ 54 → x.Roundest n.toInt) ∧
    (∃ m : Int, (n.toInt = 0 → m = 0) ∧ (n.toInt ≠ 0 → Number.Double.ofInt m = x) ∧
      x.Roundest m ∧
      (∃ bytes, encode (.float x) .numeric = .ok (some bytes) ∧
        numeric? bytes = some (.ofInt m)) ∧
      (x ≠ negativeZero → ∃ bytes, encode (.float x) .text = .ok (some bytes) ∧
        text? bytes = some (intText m)) ∧
      (x = negativeZero → ∃ bytes, encode (.float x) .text = .ok (some bytes) ∧
        text? bytes = some ['-', '0'])) := by
  obtain ⟨low, high⟩ := fits_word n
  obtain ⟨m, sent⟩ := exists_wholeSentAs is (by omega)
  have texts : WireType.text.takesText = true := rfl
  refine ⟨fun _ _ => encode_whole is, ?_, sent.numeric_eq_iff, sent.text_eq_iff is,
    Number.Double.roundest_of_lt is, m, ?_, sent.becomes, sent.roundest, ?_, ?_, ?_⟩
  · simp only [List.forall_mem_cons, List.not_mem_nil, false_implies, implies_true, and_true]
    exact ⟨⟨⟨_, sent.numeric⟩, ⟨_, encode_numeric_int n⟩⟩,
      ⟨_, encode_displayed rfl rfl texts⟩, ⟨_, encode_text_int n⟩⟩
  · intro zero
    rw [← zero]
    exact sent.same (by rw [zero]; exact x.roundest_zero)
  · exact ⟨_, sent.numeric, numeric?_encodeNumeric (Numeric.proper_ofInt sent.fits)⟩
  · intro positive
    refine ⟨_, sent.text positive, ?_⟩
    rw [text?_bytesOfText, String.toList_ofList]
  · rintro rfl
    refine ⟨_, encode_text_float plainText_negativeZero, ?_⟩
    rw [text?_bytesOfText, String.toList_ofList]

theorem whole_float_sent_alike_iff_negative :
    (⟨0xC34FFFFFFFFFFFFF⟩ : Number.Double).Is (-18014398509481982 : Int64).toInt ∧
      ∀ type ∈ [WireType.int8, .numeric, .text],
        encode (.float ⟨0xC34FFFFFFFFFFFFF⟩) type = encode (.int (-18014398509481982)) type := by
  have is : (⟨0xC34FFFFFFFFFFFFF⟩ : Number.Double).Is (-18014398509481982 : Int64).toInt :=
    Number.Double.toInt?_eq_some_iff.mp (by decide +kernel)
  obtain ⟨integers, _, numeric, text, near, _⟩ := whole_float_sent_alike_iff is
  have roundest := near (by decide)
  refine ⟨is, ?_⟩
  simp only [List.forall_mem_cons, List.not_mem_nil, false_implies, implies_true, and_true]
  exact ⟨integers .int8 64 (by simp [integerTypes]), numeric.mpr roundest,
    text.mpr ⟨roundest, by decide⟩⟩

/-- The double `2 ^ 60`, with an integer close to it that ends in more zeros. -/
def farWhole : Number.Double := ⟨0x43B0000000000000⟩

theorem farWhole_sent_rounded :
    farWhole.Is (1152921504606846976 : Int64).toInt ∧
      encode (.float farWhole) .numeric =
        .ok (some (encodeNumeric (.ofInt 1152921504606847000))) ∧
      encode (.float farWhole) .text = .ok (some (bytesOfText "1152921504606847000")) ∧
      encode (.float farWhole) .numeric ≠ encode (.int 1152921504606846976) .numeric ∧
      encode (.float farWhole) .text ≠ encode (.int 1152921504606846976) .text := by
  have written : farWhole.plainText = "1152921504606847000".toList := by decide +kernel
  have read : Numeric.read farWhole.plainText = .ok (.ofInt 1152921504606847000) := by
    decide +kernel
  have numeric := encode_numeric_float read
  have text := encode_text_float written
  refine ⟨Number.Double.toInt?_eq_some_iff.mp (by decide +kernel), numeric, text, ?_, ?_⟩
  · rw [numeric, encode_numeric_int, ne_eq, Except.ok.injEq, Option.some.injEq,
      encodeNumeric_inj (Numeric.proper_ofInt (by decide)) (Numeric.proper_ofInt (by decide)),
      Numeric.ofInt_inj]
    decide
  · rw [text, encode_text_int, ne_eq, Except.ok.injEq, Option.some.injEq, bytesOfText_inj]
    decide +kernel

end Wire

end SqlTemplate
