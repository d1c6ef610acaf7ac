import SqlTemplate.Proofs.Calendar.ReadBack
import SqlTemplate.Proofs.Wire.Checked

/-!
Dates and moments that are handed over as the texts they are displayed in. Each is read back as the
moment it denotes, white space around it or not, but for leap seconds inside their minute; the same
bytes are sent for both. Moments outside the years of four digits are displayed too, but cannot be
read.
-/

namespace SqlTemplate

open Calendar (Date Timestamp readMoment?)

def Value.displayWithin (before after : List Char) (value : Value) : String :=
  String.ofList (before ++ (value.display.toList ++ after))

namespace Wire

def SentAlike (value other : Value) (type : WireType) : Prop :=
  ∃ bytes, encode value type = .ok (some bytes) ∧ encode other type = .ok (some bytes)

theorem sentAlike_of_denotes {value other : Value} {t : Timestamp} (denotes : Denotes value t)
    (denotes' : Denotes other t) {type : WireType} (member : type ∈ momentTypes) :
    SentAlike value other type := by
  have same := encode_of_denotes denotes member
  have same' := encode_of_denotes denotes' member
  rcases mem_momentTypes.mp member with rfl | rfl | rfl <;> exact ⟨_, same, same'⟩

theorem encodeTimestamp_carried (t : Timestamp) (type : WireType) (member : type ∈ momentTypes) :
    encodeTimestamp t.carried type = encodeTimestamp t type := by
  have moment : encodeMoment t.carried = encodeMoment t := by
    by_cases inside : t.LeapInside
    · obtain ⟨later, less⟩ := inside.carried_parts
      have whole : (t.carried.seconds - Calendar.millenniumDay * 86400) * 1000000000 +
          t.carried.nanos =
            (t.seconds - Calendar.millenniumDay * 86400) * 1000000000 + t.nanos := by
        omega
      simp only [encodeMoment, whole]
    · rw [Timestamp.carried_eq_self inside]
  rcases mem_momentTypes.mp member with rfl | rfl | rfl <;>
    simp [encodeTimestamp, moment]

/-- Every date is read from its display as its midnight. A moment is read just when its year has
four digits: as itself, but for a leap second inside its minute, which is read as the second that
follows. The bytes of a value that is read back are those of its display all the same. -/
theorem display_read_back {before after : List Char} (blank : ∀ c ∈ before, Text.isBlank c)
    (blank' : ∀ c ∈ after, Text.isBlank c) :
    (∀ d : Date, readMoment? ((Value.date d).displayWithin before after).toList =
      some (.midnight d)) ∧
    (∀ date (t : Timestamp), t.On date → ¬(0 ≤ date.year ∧ date.year ≤ 9999) →
      readMoment? ((Value.timestamp t).displayWithin before after).toList = none) ∧
    (∀ date (t : Timestamp), t.On date → 0 ≤ date.year ∧ date.year ≤ 9999 →
      (¬t.LeapInside →
        readMoment? ((Value.timestamp t).displayWithin before after).toList = some t) ∧
      (t.LeapInside → ∃ next : Timestamp,
        readMoment? ((Value.timestamp t).displayWithin before after).toList = some next ∧
        next.seconds = t.seconds + 1 ∧ next.nanos + 1000000000 = t.nanos)) ∧
    ∀ type ∈ momentTypes,
      (∀ d : Date, SentAlike (.date d) (.text ((Value.date d).displayWithin before after)) type) ∧
      ∀ date (t : Timestamp), t.On date → 0 ≤ date.year ∧ date.year ≤ 9999 →
        SentAlike (.timestamp t) (.text ((Value.timestamp t).displayWithin before after)) type := by
  have dates (d : Date) :
      readMoment? ((Value.date d).displayWithin before after).toList = some (.midnight d) := by
    simpa [Value.displayWithin, Value.display] using d.readMoment?_text blank blank'
  have moments (date : Date) (t : Timestamp) (on : t.On date) :
      readMoment? ((Value.timestamp t).displayWithin before after).toList =
        if 0 ≤ date.year ∧ date.year ≤ 9999 then some t.carried else none := by
    simpa [Value.displayWithin, Value.display] using Timestamp.readMoment?_text blank blank' on
  refine ⟨dates, ?_, ?_, ?_⟩
  · intro date t on late
    rw [moments date t on, if_neg late]
  · intro date t on four
    rw [moments date t on, if_pos four]
    constructor
    · intro ordinary
      rw [Timestamp.carried_eq_self ordinary]
    · intro inside
      exact ⟨t.carried, rfl, inside.carried_parts⟩
  · intro type member
    constructor
    · intro d
      exact sentAlike_of_denotes (.date d) (.text (dates d)) member
    · intro date t on four
      have read := moments date t on
      rw [if_pos four] at read
      obtain ⟨bytes, first, second⟩ :=
        sentAlike_of_denotes (.timestamp t.carried) (.text read) member
      refine ⟨bytes, ?_, second⟩
      rw [encode_of_denotes (.timestamp _) member] at first ⊢
      rw [← encodeTimestamp_carried t type member, first]

/-- A day before the first year, and the date of the leap second. -/
def idesOfMarch : Date := ⟨-43, 3, 15, by decide, by decide⟩
def newYearsEve : Date := ⟨2016, 12, 31, by decide, by decide⟩

theorem display_read_back_leap :
    (∀ c ∈ ['\t', '\u3000'], Text.isBlank c) ∧ (∀ c ∈ ['\n'], Text.isBlank c) ∧
      leapSecond.On newYearsEve ∧
      readMoment? "\t\u3000-0043-03-15\n".toList = some (.midnight idesOfMarch) ∧
      readMoment? "\t\u30002016-12-31T23:59:60.250+00:00\n".toList = some leapSecond ∧
      SentAlike (.timestamp leapSecond) (.text "\t\u30002016-12-31T23:59:60.250+00:00\n")
        .timestamptz := by
  have blank : ∀ c ∈ ['\t', '\u3000'], Text.isBlank c := by decide
  have blank' : ∀ c ∈ ['\n'], Text.isBlank c := by decide
  have on : leapSecond.On newYearsEve := Timestamp.on_iff.mpr (by decide)
  have four : 0 ≤ newYearsEve.year ∧ newYearsEve.year ≤ 9999 := by decide
  have day : (Value.date idesOfMarch).displayWithin ['\t', '\u3000'] ['\n'] =
      "\t\u3000-0043-03-15\n" := by decide
  have moment : (Value.timestamp leapSecond).displayWithin ['\t', '\u3000'] ['\n'] =
      "\t\u30002016-12-31T23:59:60.250+00:00\n" := by decide
  obtain ⟨dates, _, moments, sent⟩ := display_read_back blank blank'
  have read := dates idesOfMarch
  have read' := (moments newYearsEve leapSecond on four).1 (by decide)
  have alike := (sent .timestamptz (by decide)).2 newYearsEve leapSecond on four
  rw [day] at read
  rw [moment] at read'
  rw [moment] at alike
  exact ⟨blank, blank', on, read, read', alike⟩

/-- A leap second four seconds into its minute, its date, and the second after it. -/
def earlyLeap : Timestamp := ⟨1441497364, 1333333333, by decide, by decide⟩
def fifthOfSeptember : Date := ⟨2015, 9, 5, by decide, by decide⟩
def afterEarlyLeap : Timestamp := ⟨1441497365, 333333333, by decide, by decide⟩

theorem earlyLeap_not_read_back :
    earlyLeap.On fifthOfSeptember ∧ 0 ≤ fifthOfSeptember.year ∧ fifthOfSeptember.year ≤ 9999 ∧
      (Value.timestamp earlyLeap).display = "2015-09-05T23:56:05.333333333+00:00" ∧
      readMoment? "2015-09-05T23:56:05.333333333+00:00".toList = some afterEarlyLeap ∧
      readMoment? (Value.timestamp earlyLeap).display.toList ≠ some earlyLeap := by
  have on : earlyLeap.On fifthOfSeptember := Timestamp.on_iff.mpr (by decide)
  have four : 0 ≤ fifthOfSeptember.year ∧ fifthOfSeptember.year ≤ 9999 := by decide
  have display : (Value.timestamp earlyLeap).display = "2015-09-05T23:56:05.333333333+00:00" := by
    decide
  have text : earlyLeap.text = "2015-09-05T23:56:05.333333333+00:00".toList := by decide
  have next : earlyLeap.carried = afterEarlyLeap := by decide
  have read := Timestamp.readMoment?_text (List.forall_mem_nil _) (List.forall_mem_nil _) on
  rw [if_pos four, List.append_nil, List.nil_append, text, next] at read
  have apart : some afterEarlyLeap ≠ some earlyLeap := by decide
  refine ⟨on, four.1, four.2, display, read, ?_⟩
  rwa [display, read]

end Wire

end SqlTemplate
