import SqlTemplate.Proofs.Wire.Checked
import SqlTemplate.Template.Compile

/-!
Values sent as texts. Where the server takes a text, a value is sent in the form in which it is
displayed and spliced into statements. Dates and moments are the exception: they are refused.
-/

namespace SqlTemplate

def Value.isCalendar : Value → Bool
  | date _ => true
  | timestamp _ => true
  | _ => false

namespace Wire

def plainTypes : List WireType := [.text, .varchar, .bpchar, .name, .unknown, .named "citext"]

/-- The types that take texts behind a version byte. -/
def versionedTypes : List WireType := [.named "ltree", .named "lquery", .named "ltxtquery"]

theorem isVersioned_iff {type : WireType} : type.isVersioned = true ↔ type ∈ versionedTypes := by
  cases type <;> simp [WireType.isVersioned, versionedTypes]

theorem takesText_iff {type : WireType} :
    type.takesText = true ↔ type ∈ plainTypes ∨ type ∈ versionedTypes := by
  cases type <;> simp [WireType.takesText, plainTypes, versionedTypes]

theorem not_versioned_of_plain : ∀ type ∈ plainTypes, type.isVersioned = false := by
  decide

theorem takesText_cases {type : WireType} (texts : type.takesText = true) :
    type = .text ∨ type = .varchar ∨ type = .bpchar ∨ type = .name ∨ type = .unknown ∨
      ∃ label, type = .named label := by
  cases type <;> simp_all [WireType.takesText]

/-! Each kind of value falls back to its display form for itself. -/

theorem encodeInt_text (n : Int64) {type : WireType} (texts : type.takesText = true) :
    encodeInt n type = .ok (encodeText (Value.int n).display type) := by
  rcases takesText_cases texts with rfl | rfl | rfl | rfl | rfl | ⟨label, rfl⟩ <;>
    simp only [encodeInt, texts, if_true]

theorem encodeFloat_text (x : Number.Double) {type : WireType} (texts : type.takesText = true) :
    encodeFloat x type = .ok (encodeText (Value.float x).display type) := by
  rcases takesText_cases texts with rfl | rfl | rfl | rfl | rfl | ⟨label, rfl⟩ <;>
    simp only [encodeFloat, texts, if_true]

theorem encodeString_text (s : String) {type : WireType} (texts : type.takesText = true) :
    encodeString s type = .ok (encodeText s type) := by
  rcases takesText_cases texts with rfl | rfl | rfl | rfl | rfl | ⟨label, rfl⟩ <;>
    simp only [encodeString, texts, if_true]

theorem encode_displayed {value : Value} (given : value.isNull = false)
    (noDate : value.isCalendar = false) {type : WireType} (texts : type.takesText = true) :
    encode value type = .ok (some (encodeText value.display type)) := by
  cases value with
  | null => cases given
  | date d => cases noDate
  | timestamp t => cases noDate
  | bool b => simp only [encode, encodeBool, texts, if_true]; rfl
  | int n => rw [encode, encodeInt_text n texts]; rfl
  | float x => rw [encode, encodeFloat_text x texts]; rfl
  | text s => rw [encode, encodeString_text s texts]; rfl
  | json document => simp only [encode, encodeJson, texts, if_true]; rfl

/-- Only the kinds of the calendar have no fallback. -/
theorem encode_calendar {value : Value} (calendar : value.isCalendar = true) {type : WireType}
    (texts : type.takesText = true) : encode value type = .error (.wrongType value type) := by
  cases value with
  | date d => rcases takesText_cases texts with rfl | rfl | rfl | rfl | rfl | ⟨label, rfl⟩ <;> rfl
  | timestamp t =>
      rcases takesText_cases texts with rfl | rfl | rfl | rfl | rfl | ⟨label, rfl⟩ <;> rfl
  | _ => cases calendar

theorem encode_text_iff {value : Value} (given : value.isNull = false) {type : WireType}
    (texts : type.takesText = true) :
    encode value type = .ok (some (encodeText value.display type)) ↔ value.isCalendar = false := by
  cases calendar : value.isCalendar with
  | false => exact iff_of_true (encode_displayed given calendar texts) rfl
  | true =>
      rw [encode_calendar calendar texts]
      simp

/-- For every type that takes texts, a value is sent as the bytes of its display form, the text that
is spliced for it, exactly if it is neither a date nor a moment. Those are refused, although the
check of a string lets every value through. -/
theorem displayed_iff {value : Value} (given : value.isNull = false) :
    (∀ type ∈ plainTypes, encode value type = .ok (some (bytesOfText value.display)) ↔
      value.isCalendar = false) ∧
    (∀ type ∈ versionedTypes, encode value type = .ok (some (1 :: bytesOfText value.display)) ↔
      value.isCalendar = false) ∧
    (∀ type : WireType, type.takesText = true ↔ type ∈ plainTypes ∨ type ∈ versionedTypes) ∧
    (value.isCalendar = true → ∀ type : WireType, type.takesText = true →
      encode value type = .error (.wrongType value type)) ∧
    (∀ before after : String,
      (Template.splice 0 [before, after] [(.raw value : Embedded Unit)]).1 =
        before.toList ++ value.display.toList ++ after.toList) ∧
    ParamType.string.check value = .ok () := by
  refine ⟨?_, ?_, fun type => takesText_iff, ?_, fun before after => rfl, rfl⟩
  · intro type plain
    have same : encodeText value.display type = bytesOfText value.display := by
      simp [encodeText, not_versioned_of_plain type plain]
    rw [← encode_text_iff given (takesText_iff.mpr (.inl plain)), same]
  · intro type versioned
    have same : encodeText value.display type = 1 :: bytesOfText value.display := by
      simp [encodeText, isVersioned_iff.mpr versioned]
    rw [← encode_text_iff given (takesText_iff.mpr (.inr versioned)), same]
  · intro calendar type texts
    exact encode_calendar calendar texts

theorem displayed_iff_tree :
    (Value.bool true).isNull = false ∧ WireType.named "ltree" ∈ versionedTypes ∧
      encode (.bool true) (.named "ltree") = .ok (some (1 :: bytesOfText "true")) := by
  have versioned : WireType.named "ltree" ∈ versionedTypes := by decide
  obtain ⟨_, sent, _⟩ := displayed_iff (show (Value.bool true).isNull = false from rfl)
  exact ⟨rfl, versioned, (sent _ versioned).mpr rfl⟩

def newYear : Value := .date Calendar.millennium

/-- A date is displayed as a text, passes the check of a string and cannot be sent as a text. -/
theorem date_unsent_as_text :
    newYear.isNull = false ∧ newYear.display = "2000-01-01" ∧
      ParamType.string.check newYear = .ok () ∧ WireType.text ∈ plainTypes ∧
      encode newYear .text = .error (.wrongType newYear .text) :=
  ⟨rfl, by decide +kernel, rfl, by decide, rfl⟩

end Wire

end SqlTemplate
