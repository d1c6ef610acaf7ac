import SqlTemplate.Calendar.Timestamp

/-!
Every day from the first to the last is the day of one date and of no other, and every moment lies
on such a day.
-/

namespace SqlTemplate.Calendar

theorem yearOfDay_bounds (day : Int) :
    daysBeforeYear (yearOfDay day) ≤ day ∧ day < daysBeforeYear (yearOfDay day + 1) := by
  -- Four hundred years have 146097 days, so the guess is off by one year at most.
  have notLate : daysBeforeYear (day * 400 / 146097) ≤ day := by
    simp only [daysBeforeYear]
    omega
  have notEarly : day < daysBeforeYear (day * 400 / 146097 + 3) := by
    simp only [daysBeforeYear]
    omega
  simp only [yearOfDay]
  split
  next early =>
    have before : day * 400 / 146097 + 1 - 1 = day * 400 / 146097 := by omega
    rw [before]
    exact ⟨notLate, early⟩
  next =>
    split
    next late =>
      have after : day * 400 / 146097 + 1 + 1 + 1 = day * 400 / 146097 + 3 := by omega
      rw [after]
      exact ⟨late, notEarly⟩
    next => constructor <;> omega

theorem yearOfDay_inYears {days : Int} (inYears : firstDay ≤ days ∧ days ≤ lastDay) :
    firstYear ≤ yearOfDay (days + epochDay) ∧ yearOfDay (days + epochDay) ≤ lastYear := by
  obtain ⟨begun, notOver⟩ := yearOfDay_bounds (days + epochDay)
  have first : firstDay = daysBeforeYear firstYear - epochDay := by decide
  have last : lastDay = daysBeforeYear (lastYear + 1) - 1 - epochDay := by decide
  constructor
  · apply Int.not_lt.mp
    intro early
    have ordered := daysBeforeYear_mono (Int.add_one_le_of_lt early)
    omega
  · apply Int.not_lt.mp
    intro late
    have ordered := daysBeforeYear_mono (Int.add_one_le_of_lt late)
    omega

theorem monthOfDay_spec (year : Int) (left rest : Nat) (short : left ≤ 12)
    (inYear : daysBeforeMonth year (13 - left) + rest < daysInYear year) :
    (1 ≤ (monthOfDay year left rest).2 ∧
      (monthOfDay year left rest).2 ≤ daysInMonth year (monthOfDay year left rest).1) ∧
    daysBeforeMonth year (monthOfDay year left rest).1 + (monthOfDay year left rest).2 =
      daysBeforeMonth year (13 - left) + rest + 1 := by
  induction left generalizing rest with
  | zero =>
      rw [Nat.sub_zero, daysBeforeMonth_thirteen] at inYear
      omega
  | succ left ih =>
      have month : 13 - (left + 1) = 12 - left := by omega
      have next : 13 - left = 12 - left + 1 := by omega
      rw [month] at inYear ⊢
      simp only [monthOfDay]
      split
      next here => exact ⟨⟨Nat.le_add_left 1 rest, here⟩, rfl⟩
      next later =>
        rw [next, daysBeforeMonth_succ] at ih
        obtain ⟨inMonth, total⟩ := ih (rest - daysInMonth year (12 - left)) (by omega) (by omega)
        refine ⟨inMonth, ?_⟩
        omega

theorem exists_date_of_day {days : Int} (inYears : firstDay ≤ days ∧ days ≤ lastDay) :
    ∃ date : Date, date.toDays = days ∧ partsOfDay days = (date.year, date.month, date.day) := by
  obtain ⟨begun, notOver⟩ := yearOfDay_bounds (days + epochDay)
  have years := yearOfDay_inYears inYears
  simp only [partsOfDay]
  generalize yearOfDay (days + epochDay) = year at begun notOver years ⊢
  rw [daysBeforeYear_succ] at notOver
  have counted : ((days + epochDay - daysBeforeYear year).toNat : Int) =
      days + epochDay - daysBeforeYear year := by omega
  generalize (days + epochDay - daysBeforeYear year).toNat = rest at counted ⊢
  have start : daysBeforeMonth year (13 - 12) = 0 := rfl
  obtain ⟨inMonth, total⟩ := monthOfDay_spec year 12 rest (Nat.le_refl 12) (by omega)
  refine ⟨⟨year, _, _, years, inMonth⟩, ?_, rfl⟩
  simp only [Date.toDays, dayNumber]
  omega

theorem Date.day_in_year (date : Date) :
    daysBeforeYear date.year ≤ date.toDays + epochDay ∧
      date.toDays + epochDay < daysBeforeYear (date.year + 1) := by
  have inYear := daysBeforeMonth_add_le date.inMonth
  have positive := date.inMonth.1
  rw [daysBeforeYear_succ, toDays, dayNumber]
  omega

theorem year_le {day year other : Int} (begun : daysBeforeYear year ≤ day)
    (notOver : day < daysBeforeYear (other + 1)) : year ≤ other := by
  apply Int.not_lt.mp
  intro later
  have ordered := daysBeforeYear_mono (Int.add_one_le_of_lt later)
  omega

theorem month_le {year : Int} {rest month other : Nat} (begun : daysBeforeMonth year month < rest)
    (notOver : rest ≤ daysBeforeMonth year (other + 1)) : month ≤ other := by
  apply Nat.not_lt.mp
  intro later
  have ordered := daysBeforeMonth_mono year (Nat.add_one_le_of_lt later)
  omega

theorem Date.toDays_injective {date other : Date} (same : date.toDays = other.toDays) :
    date = other := by
  have here := date.day_in_year
  have there := other.day_in_year
  rw [same] at here
  have sameYear : date.year = other.year :=
    Int.le_antisymm (year_le here.1 there.2) (year_le there.1 here.2)
  obtain ⟨year, month, day, years, inMonth⟩ := date
  obtain ⟨_, month', day', _, inMonth'⟩ := other
  dsimp only at sameYear
  subst sameYear
  have sameRest : daysBeforeMonth year month + day = daysBeforeMonth year month' + day' := by
    simp only [toDays, dayNumber] at same
    omega
  have sameMonth : month = month' := by
    apply Nat.le_antisymm
    · apply @month_le year (daysBeforeMonth year month + day)
      · omega
      · rw [daysBeforeMonth_succ]
        omega
    · apply @month_le year (daysBeforeMonth year month + day)
      · omega
      · rw [daysBeforeMonth_succ]
        omega
  subst sameMonth
  have sameDay : day = day' := by omega
  subst sameDay
  rfl

@[simp] theorem Date.partsOfDay_toDays (date : Date) :
    partsOfDay date.toDays = (date.year, date.month, date.day) := by
  obtain ⟨other, same, parts⟩ := exists_date_of_day date.toDays_bounds
  rw [parts, Date.toDays_injective same]

namespace Timestamp

/-- The moment is on the day of a date: not before its midnight, and before the next. -/
def On (date : Date) (t : Timestamp) : Prop :=
  (midnight date).seconds ≤ t.seconds ∧ t.seconds < (midnight date).seconds + 86400

theorem on_iff {date : Date} {t : Timestamp} : On date t ↔ date.toDays = t.days := by
  simp only [On, midnight, days]
  omega

theorem exists_on (t : Timestamp) : ∃ date, On date t := by
  obtain ⟨date, same, _⟩ := exists_date_of_day t.inYears
  exact ⟨date, on_iff.mpr same⟩

end Timestamp

end SqlTemplate.Calendar
