import SqlTemplate.Calendar.Text
import SqlTemplate.Proofs.Text.Blank

/-!
The fields that dates and times are written in, and what reads them. A field that is written in a
width is read back if it is read in that width, or if no digit follows.
-/

namespace SqlTemplate.Calendar

open Number (digits ofDigits tenPow)

theorem isDigit_of_mem_padded {width n : Nat} {c : Char} (member : c ∈ padded width n) :
    c.isDigit := by
  simp only [padded, List.mem_append] at member
  rcases member with zero | digit
  · rw [List.eq_of_mem_replicate zero]
    rfl
  · exact Number.isDigit_of_mem_digits digit

@[simp] theorem ofDigits_padded (width n : Nat) : ofDigits (padded width n) = n := by
  have read := Number.ofDigits_digits n
  rw [ofDigits] at read
  simp [padded, ofDigits, Nat.ofDigitChars_append, Nat.ofDigitChars_replicate_zero, read]

theorem length_padded {width n : Nat} (positive : 0 < width) (short : n < tenPow width) :
    (padded width n).length = width := by
  have bound : (digits n).length ≤ width :=
    (Nat.length_toDigits_le_iff (by decide) positive).mpr short
  simp only [padded, List.length_append, List.length_replicate]
  omega

theorem exists_padded_eq_cons (width n : Nat) :
    ∃ c rest, padded width n = c :: rest ∧ c.isDigit := by
  have filled : padded width n ≠ [] := by
    simp [padded, Number.digits_ne_nil]
  obtain ⟨c, rest, same⟩ := List.exists_cons_of_ne_nil filled
  exact ⟨c, rest, same, isDigit_of_mem_padded (same ▸ List.mem_cons_self)⟩

theorem readNumber_append {ds rest : List Char} {least most : Nat} (inside : ∀ c ∈ ds, c.isDigit)
    (enough : least ≤ ds.length) (fits : ds.length ≤ most)
    (ended : ds.length = most ∨ Text.Stops Char.isDigit rest) :
    readNumber least most (ds ++ rest) = some (ofDigits ds, rest) := by
  have stops : Text.Stops Char.isDigit (rest.take (most - ds.length)) := by
    rcases ended with full | stops
    · rw [full, Nat.sub_self, List.take_zero]
      exact Text.stops_nil
    · exact stops.take _
  have run : ((ds ++ rest).take most).takeWhile Char.isDigit = ds := by
    rw [List.take_append, List.take_of_length_le fits]
    exact Text.takeWhile_append_of_stops inside stops
  have left : (ds ++ rest).drop ds.length = rest := List.drop_left
  simp only [readNumber, run, left, Nat.not_lt.mpr enough, if_false]

theorem readNumber_stops {least most : Nat} {text : List Char} (positive : 0 < least)
    (stops : Text.Stops Char.isDigit text) : readNumber least most text = none := by
  have none : (text.take most).takeWhile Char.isDigit = [] := by
    simpa using @Text.takeWhile_append_of_stops _ [] _ (List.forall_mem_nil _)
      (stops.take most)
  simp only [readNumber, none, List.length_nil, positive, if_true]

theorem readNumber_padded {least width n : Nat} (positive : 0 < width) (allowed : least ≤ width)
    (short : n < tenPow width) (rest : List Char) :
    readNumber least width (padded width n ++ rest) = some (n, rest) := by
  have full := length_padded positive short
  have read := @readNumber_append _ rest least width (fun _ => isDigit_of_mem_padded)
    (by omega) (by omega) (.inl full)
  rwa [ofDigits_padded] at read

theorem readNumber_padded_stops {width most n : Nat} (fits : (padded width n).length ≤ most)
    {rest : List Char} (stops : Text.Stops Char.isDigit rest) :
    readNumber 1 most (padded width n ++ rest) = some (n, rest) := by
  obtain ⟨c, ds, same, _⟩ := exists_padded_eq_cons width n
  have filled : 1 ≤ (padded width n).length := by simp [same]
  have read := @readNumber_append _ rest 1 most (fun _ => isDigit_of_mem_padded) filled fits
    (.inr stops)
  rwa [ofDigits_padded] at read

theorem isBlank_of_isDigit {c : Char} (digit : c.isDigit) : Text.isBlank c = false := by
  have word : Text.isAsciiWord c := by
    simp [Text.isAsciiWord, Char.isAlphanum, digit]
  exact Text.isBlank_of_isWord (Text.isWord_of_isAsciiWord word)

@[simp] theorem trimLeft_padded (width n : Nat) (rest : List Char) :
    Text.trimLeft (padded width n ++ rest) = padded width n ++ rest := by
  obtain ⟨c, ds, same, digit⟩ := exists_padded_eq_cons width n
  rw [same]
  exact Text.trimLeft_eq_self (Text.stops_cons_iff.mpr (isBlank_of_isDigit digit))

theorem readField_padded {n : Nat} (short : n < 100) (rest : List Char) :
    readField (padded 2 n ++ rest) = some (n, rest) := by
  rw [readField, trimLeft_padded]
  exact readNumber_padded (by decide) (by decide) short rest

theorem readYear_padded {n : Nat} (short : n < 10000) (rest : List Char) :
    readYear (padded 4 n ++ rest) = some ((n : Int), rest) := by
  have read := @readNumber_padded 1 4 n (by decide) (by decide) short rest
  rw [readYear, trimLeft_padded]
  obtain ⟨c, ds, same, digit⟩ := exists_padded_eq_cons 4 n
  rw [same, List.cons_append] at read ⊢
  split
  next minus =>
    rw [(List.cons.inj minus).1] at digit
    contradiction
  next plus =>
    rw [(List.cons.inj plus).1] at digit
    contradiction
  next => rw [read, Option.map_some]

theorem readYear_yearText (year : Int) {rest : List Char}
    (stops : Text.Stops Char.isDigit rest) :
    readYear (yearText year ++ rest) = some (year, rest) := by
  have fits : (padded 4 year.natAbs).length ≤ (padded 4 year.natAbs ++ rest).length := by
    simp
  have read := readNumber_padded_stops fits stops
  simp only [yearText]
  split
  next before =>
    have same : -(year.natAbs : Int) = year := by omega
    rw [List.cons_append, readYear, Text.trimLeft_eq_self (Text.stops_cons_iff.mpr (by decide))]
    simp only [read, Option.map_some, same]
  next after =>
    have same : (year.natAbs : Int) = year := by omega
    split
    next late =>
      rw [List.cons_append, readYear, Text.trimLeft_eq_self (Text.stops_cons_iff.mpr (by decide))]
      simp only [read, Option.map_some, same]
    next =>
      rw [readYear_padded (by omega), same]

theorem readFraction_point {width n : Nat} (positive : 0 < width) (most : width ≤ 9)
    (short : n < tenPow width) {rest : List Char} (stops : Text.Stops Char.isDigit rest) :
    readFraction ('.' :: (padded width n ++ rest)) = some (n * tenPow (9 - width), rest) := by
  have full := length_padded positive short
  have read := readNumber_padded_stops (full ▸ most) stops
  have left : rest.dropWhile Char.isDigit = rest :=
    Text.dropWhile_append_of_stops (List.forall_mem_nil _) stops
  simp [readFraction, read, left, full]

theorem readFraction_fractionText {nanos : Nat} (bound : nanos < 1000000000) {rest : List Char}
    (stops : Text.Stops Char.isDigit rest) (noPoint : Text.Stops (· == '.') rest) :
    readFraction (fractionText nanos ++ rest) = some (nanos, rest) := by
  have million : tenPow (9 - 3) = 1000000 := rfl
  have thousand : tenPow (9 - 6) = 1000 := rfl
  rw [fractionText]
  split
  next zero =>
    rw [List.nil_append, readFraction.eq_def]
    split
    next => cases Text.stops_cons_iff.mp noPoint
    next => rw [zero]
  next =>
    split
    next millis =>
      have short : nanos / 1000000 < 1000 := by omega
      have whole : nanos / 1000000 * tenPow (9 - 3) = nanos := by
        rw [million]
        omega
      rw [List.cons_append, readFraction_point (by decide) (by decide) short stops, whole]
    next =>
      split
      next micros =>
        have short : nanos / 1000 < 1000000 := by omega
        have whole : nanos / 1000 * tenPow (9 - 6) = nanos := by
          rw [thousand]
          omega
        rw [List.cons_append, readFraction_point (by decide) (by decide) short stops, whole]
      next =>
        have whole : nanos * tenPow (9 - 9) = nanos := Nat.mul_one nanos
        rw [List.cons_append, readFraction_point (by decide) (by decide) bound stops, whole]

end SqlTemplate.Calendar
