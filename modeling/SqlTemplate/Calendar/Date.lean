/-! Dates of the proleptic Gregorian calendar, and their count of days. -/

namespace SqlTemplate.Calendar

def isLeapYear (year : Int) : Bool :=
  year % 4 == 0 && (year % 100 != 0 || year % 400 == 0)

def daysInMonth (year : Int) (month : Nat) : Nat :=
  match month with
  | 1 | 3 | 5 | 7 | 8 | 10 | 12 => 31
  | 4 | 6 | 9 | 11 => 30
  | 2 => if isLeapYear year then 29 else 28
  | _ => 0

def firstYear : Int := -262143
def lastYear : Int := 262142

/-- A date; year 0 is the year before year 1. -/
structure Date where
  year : Int
  month : Nat
  day : Nat
  inYears : firstYear ≤ year ∧ year ≤ lastYear
  inMonth : 1 ≤ day ∧ day ≤ daysInMonth year month
  deriving DecidableEq

namespace Date

def ofParts? (year : Int) (month day : Nat) : Option Date :=
  if inYears : firstYear ≤ year ∧ year ≤ lastYear then
    if inMonth : 1 ≤ day ∧ day ≤ daysInMonth year month then
      some ⟨year, month, day, inYears, inMonth⟩
    else none
  else none

end Date

/-- The number of days from the first day of year 1 to the first day of a year. -/
def daysBeforeYear (year : Int) : Int :=
  let past := year - 1
  365 * past + past / 4 - past / 100 + past / 400

def daysBeforeMonth (year : Int) : Nat → Nat
  | 0 => 0
  | month + 1 => daysBeforeMonth year month + daysInMonth year month

/-- The day number of the first of January 1970, counted from the first day of year 1. -/
def epochDay : Int := 719162

/-- The day number of the first of January 2000, counted from 1970. -/
def millenniumDay : Int := 10957

/-- The number of days from the first of January 1970 to a date. -/
def dayNumber (year : Int) (month day : Nat) : Int :=
  daysBeforeYear year + daysBeforeMonth year month + day - 1 - epochDay

def Date.toDays (date : Date) : Int :=
  dayNumber date.year date.month date.day

def firstDay : Int := dayNumber firstYear 1 1
def lastDay : Int := dayNumber lastYear 12 31

def daysInYear (year : Int) : Nat :=
  if isLeapYear year then 366 else 365

theorem daysBeforeYear_succ (year : Int) :
    daysBeforeYear (year + 1) = daysBeforeYear year + daysInYear year := by
  simp only [daysBeforeYear, daysInYear, isLeapYear, Bool.and_eq_true, Bool.or_eq_true,
    beq_iff_eq, bne_iff_ne]
  split <;> omega

theorem daysBeforeYear_mono {year later : Int} (ordered : year ≤ later) :
    daysBeforeYear year ≤ daysBeforeYear later := by
  simp only [daysBeforeYear]
  omega

theorem daysBeforeMonth_succ (year : Int) (month : Nat) :
    daysBeforeMonth year (month + 1) = daysBeforeMonth year month + daysInMonth year month := rfl

theorem month_of_daysInMonth {year : Int} {month : Nat} (positive : 0 < daysInMonth year month) :
    1 ≤ month ∧ month ≤ 12 := by
  unfold daysInMonth at positive
  split at positive <;> omega

theorem daysBeforeMonth_mono (year : Int) {month later : Nat} (ordered : month ≤ later) :
    daysBeforeMonth year month ≤ daysBeforeMonth year later := by
  induction ordered with
  | refl => exact Nat.le_refl _
  | step _ ih =>
      rw [daysBeforeMonth_succ]
      omega

theorem daysBeforeMonth_thirteen (year : Int) : daysBeforeMonth year 13 = daysInYear year := by
  simp only [daysBeforeMonth, daysInMonth, daysInYear]
  split <;> rfl

theorem daysBeforeMonth_add_le {year : Int} {month day : Nat}
    (inMonth : 1 ≤ day ∧ day ≤ daysInMonth year month) :
    daysBeforeMonth year month + day ≤ daysInYear year := by
  have short := (month_of_daysInMonth (Nat.lt_of_lt_of_le inMonth.1 inMonth.2)).2
  have later := daysBeforeMonth_mono year (Nat.succ_le_succ short)
  rw [daysBeforeMonth_thirteen, daysBeforeMonth_succ] at later
  omega

theorem Date.toDays_bounds (date : Date) : firstDay ≤ date.toDays ∧ date.toDays ≤ lastDay := by
  have least := daysBeforeYear_mono date.inYears.1
  have most := daysBeforeYear_mono (Int.add_le_add_right date.inYears.2 1)
  have inYear := daysBeforeMonth_add_le date.inMonth
  have next := daysBeforeYear_succ date.year
  have first : firstDay = daysBeforeYear firstYear - epochDay := by decide
  have last : lastDay = daysBeforeYear (lastYear + 1) - 1 - epochDay := by decide
  have positive := date.inMonth.1
  simp only [Date.toDays, dayNumber]
  omega

/-- The year that holds the day with a number counted from the first day of year 1. -/
def yearOfDay (day : Int) : Int :=
  let guess := day * 400 / 146097 + 1
  if day < daysBeforeYear guess then guess - 1
  else if daysBeforeYear (guess + 1) ≤ day then guess + 1
  else guess

/-- The month and the day in it of the day that is `rest` days after the first of month
`13 - left`. -/
def monthOfDay (year : Int) (left rest : Nat) : Nat × Nat :=
  match left with
  | 0 => (12, rest + 1)
  | left + 1 =>
    let month := 12 - left
    if rest < daysInMonth year month then (month, rest + 1)
    else monthOfDay year left (rest - daysInMonth year month)

def partsOfDay (days : Int) : Int × Nat × Nat :=
  let day := days + epochDay
  let year := yearOfDay day
  let (month, inMonth) := monthOfDay year 12 (day - daysBeforeYear year).toNat
  (year, month, inMonth)

end SqlTemplate.Calendar
