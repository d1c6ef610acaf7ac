import SqlTemplate.Number.Numeric
import SqlTemplate.Value
import SqlTemplate.Wire.WireType

/-! Values as the bytes that are sent for parameters of a type. -/

namespace SqlTemplate

inductive EncodeError
  | wrongType (value : Value) (type : WireType)
  | tooLarge
  | tooSmall
  | notInteger (x : Number.Double) (type : WireType)
  | badDecimal (flaw : Number.Numeric.Flaw)
  | badJson (cause : Json.SyntaxError)
  | badMoment (text : String)

namespace Value

/-- The name of the kind of a value in messages about a type it cannot be sent for. -/
def hostName : Value → String
  | null => "()"
  | bool _ => "bool"
  | int _ => "i64"
  | float _ => "f64"
  | text _ => "&str"
  | date _ => "chrono::naive::date::NaiveDate"
  | timestamp _ => "chrono::datetime::DateTime<chrono::offset::utc::Utc>"
  | json _ => "serde_json::value::Value"

end Value

namespace EncodeError

def message : EncodeError → String
  | wrongType value type =>
    "cannot convert between the Rust type `" ++ value.hostName ++ "` and the Postgres type `" ++
      type.toName ++ "`"
  | tooLarge => "number too large to fit in target type"
  | tooSmall => "number too small to fit in target type"
  | notInteger x type =>
    String.ofList x.plainText ++ " is not an integer in the range of " ++ type.toName
  | badDecimal flaw => flaw.message
  | badJson cause => cause.message
  | badMoment text => "invalid date/time text: " ++ text

end EncodeError

namespace Wire

/-- The last `count` bytes of a natural, most significant first. -/
def bytesOfNat (count n : Nat) : List UInt8 :=
  match count with
  | 0 => []
  | count + 1 => bytesOfNat count (n / 256) ++ [UInt8.ofNat (n % 256)]

def bytesOfInt (count : Nat) (n : Int) : List UInt8 :=
  bytesOfNat count (n % Number.twoPow (8 * count)).toNat

def bytesOfText (text : String) : List UInt8 :=
  text.toUTF8.toList

def encodeText (text : String) (type : WireType) : List UInt8 :=
  if type.isVersioned then 1 :: bytesOfText text else bytesOfText text

def encodeWidth (count : Nat) (n : Int) : Except EncodeError (List UInt8) :=
  if Number.twoPow (8 * count - 1) ≤ n then .error .tooLarge
  else if n < -(Number.twoPow (8 * count - 1) : Int) then .error .tooSmall
  else .ok (bytesOfInt count n)

def encodeNumeric (x : Number.Numeric) : List UInt8 :=
  let g := x.grouped
  bytesOfNat 2 g.digits.length ++ bytesOfInt 2 g.weight ++
    bytesOfNat 2 (if g.negative then 0x4000 else 0) ++ bytesOfNat 2 g.places ++
    g.digits.flatMap (bytesOfNat 2)

def encodeBool (b : Bool) (type : WireType) : Except EncodeError (List UInt8) :=
  if type.takesText then .ok (encodeText (Value.boolText b) type)
  else if type = .bool then .ok [if b then 1 else 0]
  else .error (.wrongType (.bool b) type)

def encodeInt (n : Int64) (type : WireType) : Except EncodeError (List UInt8) :=
  match type with
  | .int2 => encodeWidth 2 n.toInt
  | .int4 => encodeWidth 4 n.toInt
  | .int8 => .ok (bytesOfInt 8 n.toInt)
  | .float4 => .ok (bytesOfNat 4 (Number.singleOfInt n.toInt).toNat)
  | .float8 => .ok (bytesOfNat 8 (Number.Double.ofInt n.toInt).bits.toNat)
  | .numeric => .ok (encodeNumeric (.ofInt n.toInt))
  | type =>
    if type.takesText then .ok (encodeText (Value.int n).display type)
    else .error (.wrongType (.int n) type)

/-- A whole float within the range of 64-bit integers, for an integer type. -/
def encodeWhole (x : Number.Double) (type : WireType) : Except EncodeError (List UInt8) :=
  match x.toInt? with
  | some n =>
    if -(Number.twoPow 63 : Int) ≤ n ∧ n < Number.twoPow 63 then encodeInt (Int64.ofInt n) type
    else .error (.notInteger x type)
  | none => .error (.notInteger x type)

def encodeFloat (x : Number.Double) (type : WireType) : Except EncodeError (List UInt8) :=
  match type with
  | .int2 | .int4 | .int8 => encodeWhole x type
  | .float4 => .ok (bytesOfNat 4 x.toSingle.toNat)
  | .float8 => .ok (bytesOfNat 8 x.bits.toNat)
  | .numeric =>
    match Number.Numeric.read x.plainText with
    | .ok n => .ok (encodeNumeric n)
    | .error flaw => .error (.badDecimal flaw)
  | type =>
    if type.takesText then .ok (encodeText (Value.float x).display type)
    else .error (.wrongType (.float x) type)

def encodeDays (days : Int) : List UInt8 :=
  bytesOfInt 4 (days - Calendar.millenniumDay)

/-- The microseconds since the first of January 2000; what is left of one is dropped toward it. -/
def encodeMoment (t : Calendar.Timestamp) : List UInt8 :=
  let nanos := (t.seconds - Calendar.millenniumDay * 86400) * 1000000000 + t.nanos
  bytesOfInt 8 (nanos.tdiv 1000)

def encodeTimestamp (t : Calendar.Timestamp) (type : WireType) :
    Except EncodeError (List UInt8) :=
  match type with
  | .timestamp | .timestamptz => .ok (encodeMoment t)
  | .date => .ok (encodeDays t.days)
  | type => .error (.wrongType (.timestamp t) type)

def encodeDate (d : Calendar.Date) (type : WireType) : Except EncodeError (List UInt8) :=
  match type with
  | .timestamp | .timestamptz => .ok (encodeMoment (.midnight d))
  | .date => .ok (encodeDays d.toDays)
  | type => .error (.wrongType (.date d) type)

/-- A document for a JSON type; the binary one has a version byte. -/
def encodeDocument (document : Json) (type : WireType) : List UInt8 :=
  let bytes := bytesOfText (String.ofList document.text)
  if type = .jsonb then 1 :: bytes else bytes

def encodeString (s : String) (type : WireType) : Except EncodeError (List UInt8) :=
  match type with
  | .json | .jsonb =>
    match Json.read s with
    | .ok document => .ok (encodeDocument document type)
    | .error cause => .error (.badJson cause)
  | .date | .timestamp | .timestamptz =>
    match Calendar.readMoment? s.toList with
    | some t => encodeTimestamp t type
    | none => .error (.badMoment s)
  | type =>
    if type.takesText then .ok (encodeText s type) else .error (.wrongType (.text s) type)

def encodeJson (document : Json) (type : WireType) : Except EncodeError (List UInt8) :=
  if type.takesText then .ok (encodeText (Value.json document).display type)
  else if type = .json ∨ type = .jsonb then .ok (encodeDocument document type)
  else .error (.wrongType (.json document) type)

def encode (value : Value) (type : WireType) : Except EncodeError (Option (List UInt8)) :=
  match value with
  | .null => .ok none
  | .bool b => (encodeBool b type).map some
  | .int n => (encodeInt n type).map some
  | .float x => (encodeFloat x type).map some
  | .text s => (encodeString s type).map some
  | .date d => (encodeDate d type).map some
  | .timestamp t => (encodeTimestamp t type).map some
  | .json document => (encodeJson document type).map some

end Wire

end SqlTemplate
