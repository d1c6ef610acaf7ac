import SqlTemplate.Binding.Check
import SqlTemplate.Proofs.Calendar.Days
import SqlTemplate.Proofs.Result
import SqlTemplate.Proofs.Wire.Integer

/-!
What the checks of declared types let through, against what can be sent for the types of the server
that go by the same names. For dates, booleans and floats these are the same values. The check for
JSON lets more through than can be sent.
-/

namespace SqlTemplate

open Calendar (Date Timestamp)

namespace Wire

def Encodes (value : Value) (type : WireType) : Prop :=
  ∃ sent, encode value type = .ok sent

theorem not_encodes_of_eq {value : Value} {type : WireType} {e : EncodeError}
    (refused : encode value type = .error e) : ¬Encodes value type := by
  rintro ⟨sent, encoded⟩
  rw [refused] at encoded
  cases encoded

end Wire

def Calendar.millennium : Date := ⟨2000, 1, 1, by decide, by decide⟩

theorem Calendar.toDays_millennium : millennium.toDays = millenniumDay := by decide

def Calendar.Timestamp.since (date : Date) (t : Timestamp) : Int :=
  (t.seconds - (midnight date).seconds) * 1000000000 + t.nanos

/-- The moment that a value denotes: a date its midnight, a text the moment it is read as. -/
inductive Denotes : Value → Timestamp → Prop
  | timestamp (t : Timestamp) : Denotes (.timestamp t) t
  | date (d : Date) : Denotes (.date d) (.midnight d)
  | text {s : String} {t : Timestamp} :
      Calendar.readMoment? s.toList = some t → Denotes (.text s) t

namespace Wire

open Calendar (millennium toDays_millennium)

def momentTypes : List WireType := [.date, .timestamp, .timestamptz]

@[simp] theorem mem_momentTypes {type : WireType} :
    type ∈ momentTypes ↔ type = .date ∨ type = .timestamp ∨ type = .timestamptz := by
  simp [momentTypes]

theorem encodeDate_eq (d : Date) {type : WireType} (member : type ∈ momentTypes) :
    encodeDate d type = encodeTimestamp (.midnight d) type := by
  have sameDay : (Timestamp.midnight d).days = d.toDays := by
    simp only [Timestamp.days, Timestamp.midnight]
    omega
  rcases mem_momentTypes.mp member with rfl | rfl | rfl
  · simp only [encodeDate, encodeTimestamp, sameDay]
  · rfl
  · rfl

theorem encodeString_eq {s : String} {t : Timestamp}
    (read : Calendar.readMoment? s.toList = some t) {type : WireType}
    (member : type ∈ momentTypes) : encodeString s type = encodeTimestamp t type := by
  rcases mem_momentTypes.mp member with rfl | rfl | rfl <;> simp only [encodeString, read]

/-- All ways to a moment type lead through the moment that is denoted. -/
theorem encode_of_denotes {value : Value} {t : Timestamp} (denotes : Denotes value t)
    {type : WireType} (member : type ∈ momentTypes) :
    encode value type = (encodeTimestamp t type).map some := by
  cases denotes with
  | timestamp => rfl
  | date d => rw [encode, encodeDate_eq d member]
  | text read => rw [encode, encodeString_eq read member]

theorem exists_denotes_of_encodes {value : Value} (given : value.isNull = false) {type : WireType}
    (member : type ∈ momentTypes) (encodes : Encodes value type) : ∃ t, Denotes value t := by
  obtain ⟨sent, encoded⟩ := encodes
  cases value with
  | null => cases given
  | date d => exact ⟨_, .date d⟩
  | timestamp t => exact ⟨t, .timestamp t⟩
  | text s =>
      cases read : Calendar.readMoment? s.toList with
      | some t => exact ⟨t, .text read⟩
      | none =>
          rcases mem_momentTypes.mp member with rfl | rfl | rfl <;>
            (simp only [encode, encodeString, read] at encoded; cases encoded)
  | _ => rcases mem_momentTypes.mp member with rfl | rfl | rfl <;> cases encoded

theorem encodes_moment_iff {value : Value} (given : value.isNull = false) {type : WireType}
    (member : type ∈ momentTypes) : Encodes value type ↔ ∃ t, Denotes value t := by
  constructor
  · exact exists_denotes_of_encodes given member
  · rintro ⟨t, denotes⟩
    have encoded := encode_of_denotes denotes member
    rcases mem_momentTypes.mp member with rfl | rfl | rfl <;> exact ⟨_, encoded⟩

theorem date_check_iff {value : Value} :
    ParamType.date.check value = .ok () ↔ ∃ t, Denotes value t := by
  constructor
  · intro passes
    cases value with
    | date d => exact ⟨_, .date d⟩
    | timestamp t => exact ⟨t, .timestamp t⟩
    | text s =>
        cases read : Calendar.readMoment? s.toList with
        | some t => exact ⟨t, .text read⟩
        | none =>
            simp only [ParamType.check, read] at passes
            cases passes
    | _ => cases passes
  · rintro ⟨t, denotes⟩
    cases denotes with
    | timestamp => rfl
    | date => rfl
    | text read =>
        simp only [ParamType.check, read]
        rfl

/-- Both ends of the calendar are less than 2⁶³ microseconds away from the year 2000. -/
theorem micros_fit (t : Timestamp) :
    -(Number.twoPow (8 * 8 - 1) : Int) ≤ (t.since millennium).tdiv 1000 ∧
      (t.since millennium).tdiv 1000 < Number.twoPow (8 * 8 - 1) := by
  have range : (Number.twoPow (8 * 8 - 1) : Int) = 9223372036854775808 := by decide
  have first : Calendar.firstDay = -96465292 := by decide
  have last : Calendar.lastDay = 95026236 := by decide
  have start : (Timestamp.midnight millennium).seconds = 946684800 := by decide
  have positive : (1000 : Int).sign = 1 := rfl
  have days := t.inYears
  have nanos := t.bounded
  rw [range, Int.tdiv_eq_ediv]
  simp only [Timestamp.since, start]
  split <;> omega

theorem days_fit (t : Timestamp) :
    -(Number.twoPow (8 * 4 - 1) : Int) ≤ t.days - Calendar.millenniumDay ∧
      t.days - Calendar.millenniumDay < Number.twoPow (8 * 4 - 1) := by
  have range : (Number.twoPow (8 * 4 - 1) : Int) = 2147483648 := by decide
  have first : Calendar.firstDay = -96465292 := by decide
  have last : Calendar.lastDay = 95026236 := by decide
  have start : Calendar.millenniumDay = 10957 := rfl
  have days := t.inYears
  rw [range, Timestamp.days]
  omega

theorem integer?_encodeMoment (t : Timestamp) :
    integer? 8 (encodeMoment t) = some ((t.since millennium).tdiv 1000) :=
  integer?_bytesOfInt (by decide) (micros_fit t).1 (micros_fit t).2

theorem integer?_encodeDays (t : Timestamp) :
    integer? 4 (encodeDays t.days) = some (t.days - Calendar.millenniumDay) :=
  integer?_bytesOfInt (by decide) (days_fit t).1 (days_fit t).2

/-- What is sent for a moment: its microseconds since the first midnight of the year 2000, without
what is left of one, and the days from there to the day it is on. -/
structure SentAs (value : Value) (t : Timestamp) : Prop where
  moment : ∃ bytes, encode value .timestamp = .ok (some bytes) ∧
    encode value .timestamptz = .ok (some bytes) ∧
    integer? 8 bytes = some ((t.since millennium).tdiv 1000)
  day : ∃ bytes date, encode value .date = .ok (some bytes) ∧ t.On date ∧
    integer? 4 bytes = some (date.toDays - millennium.toDays)

theorem sentAs_of_denotes {value : Value} {t : Timestamp} (denotes : Denotes value t) :
    SentAs value t := by
  refine ⟨⟨encodeMoment t, ?_, ?_, integer?_encodeMoment t⟩, ?_⟩
  · exact encode_of_denotes denotes (by decide)
  · exact encode_of_denotes denotes (by decide)
  · obtain ⟨date, on⟩ := t.exists_on
    refine ⟨encodeDays t.days, date, encode_of_denotes denotes (by decide), on, ?_⟩
    rw [integer?_encodeDays, Timestamp.on_iff.mp on, toDays_millennium]

theorem boolean_check_iff {value : Value} (given : value.isNull = false) :
    ParamType.boolean.check value = .ok () ↔ Encodes value .bool := by
  cases value with
  | null => cases given
  | bool b => exact ⟨fun _ => ⟨_, rfl⟩, fun _ => rfl⟩
  | _ => exact iff_of_false (by intro passes; cases passes) (not_encodes_of_eq rfl)

theorem float_check_iff {value : Value} (given : value.isNull = false) :
    ParamType.float.check value = .ok () ↔ Encodes value .float8 := by
  cases value with
  | null => cases given
  | int n => exact ⟨fun _ => ⟨_, rfl⟩, fun _ => rfl⟩
  | float x => exact ⟨fun _ => ⟨_, rfl⟩, fun _ => rfl⟩
  | _ => exact iff_of_false (by intro passes; cases passes) (not_encodes_of_eq rfl)

/-- The checks of dates, booleans and floats let through exactly what can be sent for the types of
the server that go by these names. A date, a moment and a text of one moment are sent alike. -/
theorem checks_pass_iff_encodes {value : Value} (given : value.isNull = false) :
    (∀ type ∈ momentTypes, ParamType.date.check value = .ok () ↔ Encodes value type) ∧
    (ParamType.boolean.check value = .ok () ↔ Encodes value .bool) ∧
    (ParamType.float.check value = .ok () ↔ Encodes value .float8) ∧
    (ParamType.date.check value = .ok () ↔ ∃ t, Denotes value t) ∧
    ∀ t, Denotes value t → SentAs value t ∧
      ∀ other, Denotes other t → ∀ type ∈ momentTypes, encode value type = encode other type := by
  refine ⟨?_, boolean_check_iff given, float_check_iff given, date_check_iff, ?_⟩
  · intro type member
    rw [date_check_iff, encodes_moment_iff given member]
  · intro t denotes
    refine ⟨sentAs_of_denotes denotes, ?_⟩
    intro other denotesOther type member
    rw [encode_of_denotes denotes member, encode_of_denotes denotesOther member]

/-- The leap second at the end of 2016, and a text of it with an offset. -/
def leapSecond : Timestamp := ⟨1483228799, 1250000000, by decide, by decide⟩

def leapText : Value := .text "2017-01-01 00:59:60.25+01:00"

theorem checks_pass_iff_encodes_leap :
    leapText.isNull = false ∧ Denotes leapText leapSecond ∧
      ParamType.date.check leapText = .ok () ∧ ¬Encodes leapText .bool ∧
      ∃ bytes, encode leapText .timestamptz = .ok (some bytes) ∧
        integer? 8 bytes = some 536544000250000 := by
  have given : leapText.isNull = false := rfl
  have denotes : Denotes leapText leapSecond := .text (by decide +kernel)
  obtain ⟨_, booleans, _, dates, moments⟩ := checks_pass_iff_encodes given
  refine ⟨given, denotes, dates.mpr ⟨leapSecond, denotes⟩, ?_, ?_⟩
  · rw [← booleans]
    intro passes
    cases passes
  · obtain ⟨bytes, _, encoded, micros⟩ := (moments leapSecond denotes).1.moment
    have since : (leapSecond.since millennium).tdiv 1000 = 536544000250000 := by decide
    exact ⟨bytes, encoded, micros.trans (congrArg some since)⟩

end Wire

/-- The document that a value stands for: a text stands for what it reads as. -/
inductive StandsFor : Value → Json → Prop
  | document (document : Json) : StandsFor (.json document) document
  | text {s : String} {document : Json} :
      Json.read s = .ok document → StandsFor (.text s) document

namespace Wire

def documentTypes : List WireType := [.json, .jsonb]

theorem mem_documentTypes {type : WireType} :
    type ∈ documentTypes ↔ type = .json ∨ type = .jsonb := by
  simp [documentTypes]

def documentBytes (document : Json) (type : WireType) : List UInt8 :=
  (if type = .jsonb then [1] else []) ++ bytesOfText (String.ofList document.text)

theorem encodeDocument_eq (document : Json) (type : WireType) :
    encodeDocument document type = documentBytes document type := by
  simp only [encodeDocument, documentBytes]
  split <;> rfl

theorem encode_of_standsFor {value : Value} {document : Json} (stands : StandsFor value document)
    {type : WireType} (member : type ∈ documentTypes) :
    encode value type = .ok (some (documentBytes document type)) := by
  rw [← encodeDocument_eq]
  cases stands with
  | document => rcases mem_documentTypes.mp member with rfl | rfl <;> rfl
  | text read =>
      rcases mem_documentTypes.mp member with rfl | rfl <;>
        (simp only [encode, encodeString, read]; rfl)

theorem json_check_iff {value : Value} :
    ParamType.json.check value = .ok () ↔
      (∃ document, StandsFor value document) ∨ value.asText? = none := by
  cases value with
  | text s =>
      cases read : Json.read s with
      | ok document =>
          simp only [ParamType.check, read, true_iff]
          exact .inl ⟨document, .text read⟩
      | error cause =>
          simp only [ParamType.check, read, reduceCtorEq, Value.asText?, or_false, false_iff]
          rintro ⟨document, stands⟩
          cases stands with
          | text again =>
              rw [read] at again
              cases again
  | _ => exact iff_of_true rfl (.inr rfl)

theorem exists_standsFor_iff {value : Value} (passes : ParamType.json.check value = .ok ()) :
    (∃ document, StandsFor value document) ↔ value.kind ∈ ["string", "json"] := by
  cases value with
  | text s =>
      have read := (json_check_iff.mp passes).resolve_right (by intro none; cases none)
      exact iff_of_true read (by simp [Value.kind])
  | json document => exact iff_of_true ⟨document, .document document⟩ (by simp [Value.kind])
  | _ => exact iff_of_false (by rintro ⟨_, stands⟩; cases stands) (by simp [Value.kind])

theorem encode_of_not_standsFor {value : Value} (given : value.isNull = false)
    (passes : ParamType.json.check value = .ok ())
    (nothing : ¬∃ document, StandsFor value document) {type : WireType}
    (member : type ∈ documentTypes) : encode value type = .error (.wrongType value type) := by
  cases value with
  | null => cases given
  | text s => exact absurd ((exists_standsFor_iff passes).mpr (by simp [Value.kind])) nothing
  | json document => exact absurd ⟨document, .document document⟩ nothing
  | _ => rcases mem_documentTypes.mp member with rfl | rfl <;> rfl

/-- Of the values that pass the check for JSON, texts and documents are sent for the types of
documents, in the compact text of the document they stand for. All others are refused. -/
theorem document_encodes_iff {value : Value} (given : value.isNull = false)
    (passes : ParamType.json.check value = .ok ()) :
    ((∃ document, StandsFor value document) ↔ value.kind ∈ ["string", "json"]) ∧
    ∀ type ∈ documentTypes,
      (Encodes value type ↔ ∃ document, StandsFor value document) ∧
      (∀ document, StandsFor value document →
        encode value type = .ok (some (documentBytes document type))) ∧
      ((¬∃ document, StandsFor value document) →
        encode value type = .error (.wrongType value type)) := by
  refine ⟨exists_standsFor_iff passes, ?_⟩
  intro type member
  refine ⟨⟨?_, ?_⟩, ?_, ?_⟩
  · intro encodes
    by_cases stands : ∃ document, StandsFor value document
    · exact stands
    · exact absurd encodes (not_encodes_of_eq (encode_of_not_standsFor given passes stands member))
  · rintro ⟨document, stands⟩
    exact ⟨_, encode_of_standsFor stands member⟩
  · intro document stands
    exact encode_of_standsFor stands member
  · intro nothing
    exact encode_of_not_standsFor given passes nothing member

theorem document_encodes_iff_spaced :
    (Value.text "[5, 7]").isNull = false ∧ ParamType.json.check (.text "[5, 7]") = .ok () ∧
      encode (.text "[5, 7]") .jsonb = .ok (some (1 :: bytesOfText "[5,7]")) := by
  have reads : (Json.read "[5, 7]").toOption.map Json.text = some "[5,7]".toList := by
    decide +kernel
  obtain ⟨document, read, text⟩ := Option.map_eq_some_iff.mp reads
  have stands : StandsFor (.text "[5, 7]") document := .text (Result.eq_ok_of_toOption read)
  have passes := json_check_iff.mpr (.inl ⟨document, stands⟩)
  obtain ⟨_, sent, _⟩ := (document_encodes_iff rfl passes).2 .jsonb (by decide)
  refine ⟨rfl, passes, ?_⟩
  rw [sent document stands, documentBytes, text]
  rfl

/-- A number passes the check for JSON and cannot be sent as JSON. -/
theorem number_passes_unsent :
    (Value.int 5).isNull = false ∧ ParamType.json.check (.int 5) = .ok () ∧
      ¬Encodes (.int 5) .json ∧ ¬Encodes (.int 5) .jsonb :=
  ⟨rfl, rfl, not_encodes_of_eq rfl, not_encodes_of_eq rfl⟩

end Wire

end SqlTemplate
