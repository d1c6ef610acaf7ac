import SqlTemplate.Calendar.Timestamp
import SqlTemplate.Number.Digits
import SqlTemplate.Number.Power
import SqlTemplate.Text.Blank

/-! The written forms of dates and moments. -/

namespace SqlTemplate.Calendar

open Number (digits ofDigits tenPow)

def padded (width n : Nat) : List Char :=
  let ds := digits n
  List.replicate (width - ds.length) '0' ++ ds

def yearText (year : Int) : List Char :=
  if year < 0 then '-' :: padded 4 year.natAbs
  else if 9999 < year then '+' :: padded 4 year.natAbs
  else padded 4 year.natAbs

def dateText (year : Int) (month day : Nat) : List Char :=
  yearText year ++ '-' :: padded 2 month ++ '-' :: padded 2 day

def Date.text (date : Date) : List Char :=
  dateText date.year date.month date.day

/-- The fraction of a second in three, six or nine digits, or none if it is zero. -/
def fractionText (nanos : Nat) : List Char :=
  if nanos = 0 then []
  else if nanos % 1000000 = 0 then '.' :: padded 3 (nanos / 1000000)
  else if nanos % 1000 = 0 then '.' :: padded 6 (nanos / 1000)
  else '.' :: padded 9 nanos

/-- A moment without its zone, as in `2024-01-31T10:20:30.5`. A leap second counts as one second
more, which is second 60 at the end of a minute only. -/
def Timestamp.localText (t : Timestamp) : List Char :=
  let (year, month, day) := partsOfDay t.days
  let second := t.secondOfDay
  let leap := t.nanos / 1000000000
  dateText year month day ++ 'T' :: padded 2 (second / 3600) ++
    ':' :: padded 2 (second / 60 % 60) ++ ':' :: padded 2 (second % 60 + leap) ++
    fractionText (t.nanos % 1000000000)

def Timestamp.text (t : Timestamp) : List Char :=
  t.localText ++ "+00:00".toList

def Timestamp.zuluText (t : Timestamp) : List Char :=
  t.localText ++ ['Z']

def readNumber (least most : Nat) (text : List Char) : Option (Nat × List Char) :=
  let ds := (text.take most).takeWhile Char.isDigit
  if ds.length < least then none
  else some (ofDigits ds, text.drop ds.length)

def readChar (expected : Char) : List Char → Option (List Char)
  | [] => none
  | c :: rest => if c = expected then some rest else none

/-- Reads a year of four digits at most, or one of any length after a sign. -/
def readYear (text : List Char) : Option (Int × List Char) :=
  match Text.trimLeft text with
  | '-' :: rest => (readNumber 1 rest.length rest).map fun (n, rest) => (-(n : Int), rest)
  | '+' :: rest => (readNumber 1 rest.length rest).map fun (n, rest) => ((n : Int), rest)
  | rest => (readNumber 1 4 rest).map fun (n, rest) => ((n : Int), rest)

def readField (text : List Char) : Option (Nat × List Char) :=
  readNumber 1 2 (Text.trimLeft text)

/-- Reads the fraction of a second if a point follows; digits after the ninth are dropped. -/
def readFraction : List Char → Option (Nat × List Char)
  | '.' :: rest => do
    let (n, after) ← readNumber 1 9 rest
    let count := rest.length - after.length
    some (n * tenPow (9 - count), after.dropWhile Char.isDigit)
  | rest => some (0, rest)

/-- A time of day: seconds since midnight, and nanoseconds from it. Second 60 is a leap second. -/
def timeOfDay? (hour minute second nanos : Nat) : Option (Nat × Nat) :=
  if hour < 24 ∧ minute < 60 ∧ second ≤ 60 then
    let start := hour * 3600 + minute * 60
    some (if second = 60 then (start + 59, nanos + 1000000000) else (start + second, nanos))
  else none

def readOffset : List Char → Option (Int × List Char)
  | 'Z' :: rest => some (0, rest)
  | 'z' :: rest => some (0, rest)
  | '+' :: rest => unsigned rest
  | '-' :: rest => (unsigned rest).map fun (n, rest) => (-n, rest)
  | '−' :: rest => (unsigned rest).map fun (n, rest) => (-n, rest)
  | _ => none
where
  unsigned (text : List Char) : Option (Int × List Char) := do
    let (hours, text) ← readNumber 2 2 text
    let text ← readChar ':' text
    let (minutes, text) ← readNumber 2 2 text
    if minutes < 60 then some (hours * 3600 + minutes * 60, text) else none

/-- The greatest offset from universal time, 23:59. -/
def greatestOffset : Int := 86340

def readInternet? (text : List Char) : Option Timestamp := do
  let (year, text) ← readNumber 4 4 text
  let text ← readChar '-' text
  let (month, text) ← readNumber 2 2 text
  let text ← readChar '-' text
  let (day, text) ← readNumber 2 2 text
  let text ← match text with
    | 't' :: rest | 'T' :: rest | ' ' :: rest => some rest
    | _ => none
  let (hour, text) ← readNumber 2 2 text
  let text ← readChar ':' text
  let (minute, text) ← readNumber 2 2 text
  let text ← readChar ':' text
  let (second, text) ← readNumber 2 2 text
  let (nanos, text) ← readFraction text
  let (offset, text) ← readOffset text
  let date ← Date.ofParts? year month day
  let (second, nanos) ← timeOfDay? hour minute second nanos
  if text.isEmpty ∧ -greatestOffset ≤ offset ∧ offset ≤ greatestOffset then
    Timestamp.ofParts? (date.toDays * 86400 + second - offset) nanos
  else none

def readDate (text : List Char) : Option (Date × List Char) := do
  let (year, text) ← readYear text
  let text ← readChar '-' text
  let (month, text) ← readField text
  let text ← readChar '-' text
  let (day, text) ← readField text
  let date ← Date.ofParts? year month day
  some (date, text)

def readDateAlone? (text : List Char) : Option Timestamp := do
  let (date, rest) ← readDate text
  if rest.isEmpty then some (Timestamp.midnight date) else none

def readLocal? (separator : List Char → Option (List Char)) (text : List Char) :
    Option Timestamp := do
  let (date, text) ← readDate text
  let text ← separator text
  let (hour, text) ← readField text
  let text ← readChar ':' text
  let (minute, text) ← readField text
  let text ← readChar ':' text
  let (second, text) ← readField text
  let (nanos, text) ← readFraction text
  let (second, nanos) ← timeOfDay? hour minute second nanos
  if text.isEmpty then Timestamp.ofParts? (date.toDays * 86400 + second) nanos else none

/-- The moment a text denotes: an internet timestamp, a date, or a date and a time with white space
or a `T` between them. -/
def readMoment? (text : List Char) : Option Timestamp :=
  let text := Text.trim text
  (readInternet? text).orElse fun _ =>
    (readDateAlone? text).orElse fun _ =>
      (readLocal? (fun rest => some (Text.trimLeft rest)) text).orElse fun _ =>
        readLocal? (readChar 'T') text

end SqlTemplate.Calendar
