import SqlTemplate.Proofs.Calendar.Days
import SqlTemplate.Proofs.Calendar.Fields

/-!
Dates and moments read from their own texts. A date is never taken for an internet timestamp, as no
time follows it. A moment is one if its year has four digits, and has no readable text otherwise. A
leap second inside its minute is written as the second after it.
-/

namespace SqlTemplate.Calendar

namespace Date

@[simp] theorem ofParts?_parts (date : Date) :
    ofParts? date.year date.month date.day = some date := by
  simp [ofParts?, date.inYears, date.inMonth]

theorem month_lt (date : Date) : date.month < 100 := by
  have bounds := month_of_daysInMonth (Nat.lt_of_lt_of_le date.inMonth.1 date.inMonth.2)
  omega

theorem day_lt (date : Date) : date.day < 100 := by
  have most : daysInMonth date.year date.month ≤ 31 := by
    unfold daysInMonth
    split <;> try split
    all_goals decide
  have bound := date.inMonth.2
  omega

end Date

namespace Timestamp

theorem secondOfDay_lt (t : Timestamp) : t.secondOfDay < 86400 := by
  rw [secondOfDay]
  omega

theorem clock_lt (t : Timestamp) : t.secondOfDay / 3600 < 100 ∧ t.secondOfDay / 60 % 60 < 100 ∧
    t.secondOfDay % 60 + t.nanos / 1000000000 < 100 := by
  have short := t.secondOfDay_lt
  have bounded := t.bounded
  omega

/-- A leap second that does not end its minute. -/
def LeapInside (t : Timestamp) : Prop :=
  1000000000 ≤ t.nanos ∧ t.seconds % 60 ≠ 59

instance (t : Timestamp) : Decidable t.LeapInside :=
  inferInstanceAs (Decidable (_ ∧ _))

theorem LeapInside.inYears {t : Timestamp} (inside : t.LeapInside) :
    firstDay ≤ (t.seconds + 1) / 86400 ∧ (t.seconds + 1) / 86400 ≤ lastDay := by
  have years := t.inYears
  have early := inside.2
  have sameDay : (t.seconds + 1) / 86400 = t.seconds / 86400 := by omega
  rwa [sameDay]

theorem LeapInside.bounded {t : Timestamp} (_ : t.LeapInside) :
    t.nanos - 1000000000 < 2000000000 := by
  have bounded := t.bounded
  omega

/-- The moment that the display of another is one of. Only second 60 is read as a leap second, and a
leap second inside its minute is displayed as the second that follows. -/
def carried (t : Timestamp) : Timestamp :=
  if inside : t.LeapInside then
    ⟨t.seconds + 1, t.nanos - 1000000000, inside.inYears, inside.bounded⟩
  else t

theorem carried_eq_self {t : Timestamp} (ordinary : ¬t.LeapInside) : t.carried = t :=
  dif_neg ordinary

theorem LeapInside.carried_parts {t : Timestamp} (inside : t.LeapInside) :
    t.carried.seconds = t.seconds + 1 ∧ t.carried.nanos + 1000000000 = t.nanos := by
  rw [carried, dif_pos inside]
  exact ⟨rfl, Nat.sub_add_cancel inside.1⟩

@[simp] theorem days_carried (t : Timestamp) : t.carried.days = t.days := by
  by_cases inside : t.LeapInside
  · obtain ⟨later, -⟩ := inside.carried_parts
    have early := inside.2
    rw [days, days, later]
    omega
  · rw [carried_eq_self inside]

theorem ofParts?_parts (t : Timestamp) :
    ofParts? (t.days * 86400 + t.secondOfDay) t.nanos = some t := by
  have whole : t.days * 86400 + t.secondOfDay = t.seconds := by
    simp only [days, secondOfDay]
    omega
  rw [whole, ofParts?, dif_pos t.inYears, dif_pos t.bounded]

/-- A leap second that ends its minute is written as second 60, and second 60 is read as a leap
second. -/
theorem timeOfDay?_parts (t : Timestamp) :
    timeOfDay? (t.secondOfDay / 3600) (t.secondOfDay / 60 % 60)
      (t.secondOfDay % 60 + t.nanos / 1000000000) (t.nanos % 1000000000) =
      some (t.carried.secondOfDay, t.carried.nanos) := by
  have bounded := t.bounded
  have short := t.secondOfDay_lt
  have minute : (t.secondOfDay % 60 : Nat) = t.seconds % 60 := by
    rw [secondOfDay]
    omega
  simp only [timeOfDay?]
  by_cases inside : t.LeapInside
  · obtain ⟨later, less⟩ := inside.carried_parts
    have ⟨past, early⟩ := inside
    have next : t.carried.secondOfDay = t.secondOfDay + 1 := by
      rw [secondOfDay, secondOfDay, later]
      omega
    rw [next, if_pos (by omega), if_neg (by omega)]
    congr 2 <;> omega
  · rw [carried_eq_self inside]
    rw [LeapInside] at inside
    by_cases past : 1000000000 ≤ t.nanos
    · rw [if_pos (by omega), if_pos (by omega)]
      congr 2 <;> omega
    · rw [if_pos (by omega), if_neg (by omega)]
      congr 2 <;> omega

end Timestamp

/-- One step of a reader. It is applied from the outside in, so that the steps behind it are opened
only when it is known what they read. -/
theorem bind_of_read {α β : Type} {read : Option α} {a : α} (known : read = some a)
    (next : α → Option β) : (read >>= next) = next a := by
  rw [known]
  rfl

@[simp] theorem readChar_self (c : Char) (rest : List Char) : readChar c (c :: rest) = some rest :=
  if_pos rfl

theorem Date.text_eq (date : Date) : date.text =
    yearText date.year ++ '-' :: (padded 2 date.month ++ '-' :: padded 2 date.day) := by
  simp [text, dateText]

@[simp] theorem readDate_text (date : Date) (rest : List Char) :
    readDate (date.text ++ rest) = some (date, rest) := by
  have year : ∀ rest,
      readYear (yearText date.year ++ '-' :: rest) = some (date.year, '-' :: rest) := fun rest =>
    readYear_yearText date.year (Text.stops_cons_iff.mpr (by decide))
  simp only [readDate, date.text_eq, List.append_assoc, List.cons_append, ↓bind_of_read (year _),
    ↓bind_of_read (readChar_self _ _), ↓bind_of_read (readField_padded date.month_lt _),
    ↓bind_of_read (readField_padded date.day_lt _), ↓bind_of_read date.ofParts?_parts]

theorem readDateAlone?_text (date : Date) : readDateAlone? date.text = some (.midnight date) := by
  have read := readDate_text date []
  rw [List.append_nil] at read
  simp [readDateAlone?, read]

theorem readNumber_yearText {year : Int} (four : 0 ≤ year ∧ year ≤ 9999) (rest : List Char) :
    readNumber 4 4 (yearText year ++ rest) = some (year.natAbs, rest) := by
  have short : year.natAbs < 10000 := by omega
  rw [yearText, if_neg (by omega), if_neg (by omega)]
  exact readNumber_padded (by decide) (by decide) short rest

theorem readNumber_two {n : Nat} (short : n < 100) (rest : List Char) :
    readNumber 2 2 (padded 2 n ++ rest) = some (n, rest) :=
  readNumber_padded (by decide) (by decide) short rest

theorem readInternet?_signed {date : Date} (signed : ¬(0 ≤ date.year ∧ date.year ≤ 9999))
    (rest : List Char) : readInternet? (date.text ++ rest) = none := by
  have stops : Text.Stops Char.isDigit (date.text ++ rest) := by
    simp only [Date.text, dateText, yearText]
    split
    next => exact Text.stops_cons_iff.mpr (by decide)
    next =>
      split
      next => exact Text.stops_cons_iff.mpr (by decide)
      next => omega
  rw [readInternet?, readNumber_stops (by decide) stops]
  rfl

@[simp] theorem readInternet?_date (date : Date) : readInternet? date.text = none := by
  by_cases four : 0 ≤ date.year ∧ date.year ≤ 9999
  · have day := readNumber_two date.day_lt []
    rw [List.append_nil] at day
    simp only [readInternet?, date.text_eq, ↓bind_of_read (readNumber_yearText four _),
      ↓bind_of_read (readChar_self _ _), ↓bind_of_read (readNumber_two date.month_lt _),
      ↓bind_of_read day]
    -- Nothing is left after the day, where a time has to follow.
    rfl
  · have none := readInternet?_signed four []
    rwa [List.append_nil] at none

namespace Timestamp

def clockText (t : Timestamp) : List Char :=
  padded 2 (t.secondOfDay / 3600) ++ ':' :: (padded 2 (t.secondOfDay / 60 % 60) ++
    ':' :: (padded 2 (t.secondOfDay % 60 + t.nanos / 1000000000) ++
      (fractionText (t.nanos % 1000000000) ++ "+00:00".toList)))

theorem text_eq {date : Date} {t : Timestamp} (on : t.On date) :
    t.text = date.text ++ 'T' :: t.clockText := by
  have parts := date.partsOfDay_toDays
  rw [on_iff.mp on] at parts
  simp [text, localText, parts, Date.text, clockText]

theorem readFraction_offset (t : Timestamp) :
    readFraction (fractionText (t.nanos % 1000000000) ++ "+00:00".toList) =
      some (t.nanos % 1000000000, "+00:00".toList) :=
  readFraction_fractionText (Nat.mod_lt _ (by decide)) (by decide) (by decide)

section

variable {date : Date} {t : Timestamp}

theorem readInternet?_text (on : t.On date) (four : 0 ≤ date.year ∧ date.year ≤ 9999) :
    readInternet? t.text = some t.carried := by
  obtain ⟨hour, minute, second⟩ := t.clock_lt
  have year : (date.year.natAbs : Int) = date.year := by omega
  have offset : readOffset "+00:00".toList = some (0, []) := by decide
  have moment : ofParts? (date.toDays * 86400 + t.carried.secondOfDay) t.carried.nanos =
      some t.carried := by
    rw [on_iff.mp on, ← days_carried]
    exact t.carried.ofParts?_parts
  rw [text_eq on, date.text_eq, clockText]
  simp only [readInternet?, List.append_assoc, List.cons_append,
    ↓bind_of_read (readNumber_yearText four _), ↓bind_of_read (readChar_self _ _),
    ↓bind_of_read (readNumber_two date.month_lt _), ↓bind_of_read (readNumber_two date.day_lt _),
    ↓bind_of_read (Eq.refl (some _)), ↓bind_of_read (readNumber_two hour _),
    ↓bind_of_read (readNumber_two minute _), ↓bind_of_read (readNumber_two second _),
    ↓bind_of_read t.readFraction_offset, ↓bind_of_read offset, year,
    ↓bind_of_read date.ofParts?_parts, ↓bind_of_read t.timeOfDay?_parts]
  simp [greatestOffset, moment]

theorem readDateAlone?_text (on : t.On date) : readDateAlone? t.text = none := by
  simp [readDateAlone?, text_eq on]

theorem readLocal?_space (on : t.On date) :
    readLocal? (fun rest => some (Text.trimLeft rest)) t.text = none := by
  have letter : Text.Stops Text.isBlank ('T' :: t.clockText) :=
    Text.stops_cons_iff.mpr (by decide)
  have noHour : readField ('T' :: t.clockText) = none := by
    rw [readField, Text.trimLeft_eq_self letter]
    exact readNumber_stops (by decide) (Text.stops_cons_iff.mpr (by decide))
  rw [text_eq on]
  simp only [readLocal?, ↓bind_of_read (readDate_text _ _), ↓bind_of_read (Eq.refl (some _)),
    Text.trimLeft_eq_self letter, noHour]
  rfl

/-- The offset is too much for a time of universal time. -/
theorem readLocal?_letter (on : t.On date) : readLocal? (readChar 'T') t.text = none := by
  obtain ⟨hour, minute, second⟩ := t.clock_lt
  rw [text_eq on, clockText]
  simp only [readLocal?, ↓bind_of_read (readDate_text _ _), ↓bind_of_read (readChar_self _ _),
    ↓bind_of_read (readField_padded hour _), ↓bind_of_read (readField_padded minute _),
    ↓bind_of_read (readField_padded second _), ↓bind_of_read t.readFraction_offset,
    ↓bind_of_read t.timeOfDay?_parts]
  rfl

end

end Timestamp

def isMark (c : Char) : Bool :=
  c.isDigit || ['+', '-', 'T', ':', '.'].contains c

theorem isBlank_of_isMark {c : Char} (mark : isMark c) : Text.isBlank c = false := by
  simp only [isMark, Bool.or_eq_true, List.contains_iff_mem] at mark
  rcases mark with digit | sign
  · exact isBlank_of_isDigit digit
  · have solid : ∀ sign ∈ ['+', '-', 'T', ':', '.'], Text.isBlank sign = false := by decide
    exact solid c sign

theorem trim_marks {text : List Char} (marks : text.all isMark) (filled : text ≠ [])
    {before after : List Char} (blank : ∀ c ∈ before, Text.isBlank c)
    (blank' : ∀ c ∈ after, Text.isBlank c) : Text.trim (before ++ (text ++ after)) = text := by
  have solid : ∀ c ∈ text, Text.isBlank c = false := fun c member =>
    isBlank_of_isMark (List.all_eq_true.mp marks c member)
  have solid' : ∀ c ∈ text.reverse, Text.isBlank c = false := fun c member =>
    solid c (List.mem_reverse.mp member)
  exact Text.trim_around blank blank' filled (Text.stops_of_outside solid)
    (Text.stops_of_outside solid')

theorem padded_marks (width n : Nat) : (padded width n).all isMark := by
  rw [List.all_eq_true]
  intro c member
  rw [isMark, isDigit_of_mem_padded member, Bool.true_or]

theorem yearText_marks (year : Int) : (yearText year).all isMark := by
  have signs : isMark '-' ∧ isMark '+' := by decide
  simp only [yearText]
  split
  next => simp [padded_marks, signs]
  next => split <;> simp [padded_marks, signs]

theorem fractionText_marks (nanos : Nat) : (fractionText nanos).all isMark := by
  have point : isMark '.' := by decide
  rw [fractionText]
  split
  next => rfl
  next =>
    split
    next => simp [padded_marks, point]
    next => split <;> simp [padded_marks, point]

theorem Date.text_marks (date : Date) : date.text.all isMark := by
  have dash : isMark '-' := by decide
  simp [text, dateText, padded_marks, yearText_marks, dash]

theorem Timestamp.text_marks (t : Timestamp) : t.text.all isMark := by
  obtain ⟨date, on⟩ := t.exists_on
  have signs : isMark 'T' ∧ isMark ':' ∧ isMark '+' ∧ isMark '0' := by decide
  simp [text_eq on, clockText, date.text_marks, padded_marks, fractionText_marks, signs]

section

variable {before after : List Char} (blank : ∀ c ∈ before, Text.isBlank c)
  (blank' : ∀ c ∈ after, Text.isBlank c)

include blank blank'

theorem Date.readMoment?_text (date : Date) :
    readMoment? (before ++ (date.text ++ after)) = some (.midnight date) := by
  have filled : date.text ≠ [] := by
    simp [text, dateText]
  simp [readMoment?, trim_marks date.text_marks filled blank blank', readDateAlone?_text]

theorem Timestamp.readMoment?_text {date : Date} {t : Timestamp} (on : t.On date) :
    readMoment? (before ++ (t.text ++ after)) =
      if 0 ≤ date.year ∧ date.year ≤ 9999 then some t.carried else none := by
  have filled : t.text ≠ [] := by
    simp [text_eq on]
  simp only [readMoment?, trim_marks t.text_marks filled blank blank']
  split
  next four => rw [readInternet?_text on four, Option.orElse_some]
  next signed =>
    have none := readInternet?_signed signed ('T' :: t.clockText)
    rw [← text_eq on] at none
    simp [none, readDateAlone?_text on, readLocal?_space on, readLocal?_letter on]

end

end SqlTemplate.Calendar
