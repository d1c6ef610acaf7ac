import SqlTemplate.Calendar.Date

/-! Moments of universal time, leap seconds included. -/

namespace SqlTemplate.Calendar

/-- A moment on a day of the calendar: seconds since 1970, and nanoseconds from it. In a leap second
the seconds are those of the second before it, whichever it is, and the nanoseconds count on past a
whole second. -/
structure Timestamp where
  seconds : Int
  nanos : Nat
  inYears : firstDay ≤ seconds / 86400 ∧ seconds / 86400 ≤ lastDay
  bounded : nanos < 2000000000
  deriving DecidableEq

namespace Timestamp

def ofParts? (seconds : Int) (nanos : Nat) : Option Timestamp :=
  if inYears : firstDay ≤ seconds / 86400 ∧ seconds / 86400 ≤ lastDay then
    if bounded : nanos < 2000000000 then
      some ⟨seconds, nanos, inYears, bounded⟩
    else none
  else none

def days (t : Timestamp) : Int := t.seconds / 86400

/-- The seconds since midnight, without a leap second's own. -/
def secondOfDay (t : Timestamp) : Nat := (t.seconds % 86400).toNat

theorem inYears_midnight (date : Date) :
    firstDay ≤ date.toDays * 86400 / 86400 ∧ date.toDays * 86400 / 86400 ≤ lastDay := by
  rw [Int.mul_ediv_cancel _ (by decide)]
  exact date.toDays_bounds

def midnight (date : Date) : Timestamp :=
  ⟨date.toDays * 86400, 0, inYears_midnight date, by decide⟩

end Timestamp

end SqlTemplate.Calendar
