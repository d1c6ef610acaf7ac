import SqlTemplate.Schema.Entity
import SqlTemplate.Text.Offset

/-!
The scanners of schemas on the offsets of bytes. Every cut, every look at a byte and every count
down is checked.
-/

namespace SqlTemplate.Schema

open Text (Fault)

def closingOffset (nesting : Nesting) (offset : Nat) : List Char → Except Fault (Option Nat)
  | [] => .ok none
  | c :: rest =>
    if nesting.quote = none ∧ c = ')' then do
      let depth ← Text.countDown nesting.depth
      if depth = 0 then return some offset
      else closingOffset { nesting with depth := depth } (offset + c.utf8Size) rest
    else closingOffset (nesting.step c) (offset + c.utf8Size) rest

def bodyByOffset (text : List Char) : Except Fault (Option (List Char)) :=
  match Text.offsetOf? (· == '(') text with
  | none => .ok none
  | some start => do
    match ← closingOffset .outside 0 (← Text.sliceFrom text start) with
    | none => return none
    | some stop => return some (← Text.slice text (start + 1) (start + stop))

def piecesFrom (text : List Char) (nesting : Nesting) (start offset : Nat) :
    List Char → Except Fault (List (List Char))
  | [] => do return [← Text.sliceFrom text start]
  | c :: rest =>
    if c = ',' ∧ nesting = .outside then do
      let piece ← Text.slice text start offset
      return piece :: (← piecesFrom text nesting (offset + 1) (offset + c.utf8Size) rest)
    else piecesFrom text (nesting.step c) start (offset + c.utf8Size) rest

def piecesByOffset (text : List Char) : Except Fault (List (List Char)) :=
  piecesFrom text .outside 0 0 text

def itemsByOffset (text : List Char) : Except Fault (List (List Char)) := do
  return ((← piecesByOffset text).map Text.trim).filter fun item => !item.isEmpty

def closingQuote? (offset : Nat) : List Char → Option Nat
  | [] => none
  | '"' :: '"' :: rest => closingQuote? (offset + 2) rest
  | c :: rest => if c = '"' then some offset else closingQuote? (offset + c.utf8Size) rest

def nameByOffset : List Char → Except Fault (Option (List Char × List Char))
  | '"' :: rest =>
    match closingQuote? 0 rest with
    | none => .ok none
    | some stop => do
      return some (← Text.sliceTo ('"' :: rest) (stop + 2), ← Text.sliceFrom rest (stop + 1))
  | text => do
    let stop := (Text.offsetOf? Text.isBlank text).getD (Text.bytes text).length
    return some (← Text.sliceTo text stop, ← Text.sliceFrom text stop)

def lowerByte (byte : UInt8) : Char :=
  (Char.ofUInt8 byte).toLower

def isWordByte (byte : UInt8) : Bool :=
  Text.isBareLater (Char.ofUInt8 byte)

/-- Whether a word goes on at an offset; at the end of the bytes none does. -/
def wordGoesOn (bytes : List UInt8) (offset : Nat) : Except Fault Bool :=
  if offset = bytes.length then .ok false else (Text.byteAt bytes offset).map isWordByte

def endsWord (bytes : List UInt8) (offset : Nat) : Except Fault Bool :=
  if offset = 0 then .ok false
  else do return isWordByte (← Text.byteAt bytes (← Text.countDown offset))

def standsAt (keyword bytes : List UInt8) (offset : Nat) : Except Fault Bool :=
  let stop := offset + keyword.length
  if stop ≤ bytes.length then do
    let spelled ← Text.sliceBytes bytes offset stop
    if spelled.map lowerByte ≠ keyword.map lowerByte then return false
    else if ← endsWord bytes offset then return false
    else return !(← wordGoesOn bytes stop)
  else .ok false

def keywordFrom (keyword bytes : List UInt8) (nesting : Nesting) (offset : Nat) :
    List UInt8 → Except Fault (Option Nat)
  | [] => .ok none
  | byte :: rest =>
    let c := Char.ofUInt8 byte
    if nesting = .outside ∧ c ∉ ['\'', '"', '(', ')'] then do
      if ← standsAt keyword bytes offset then return some offset
      else keywordFrom keyword bytes nesting (offset + 1) rest
    else keywordFrom keyword bytes (nesting.step c) (offset + 1) rest

def findKeyword (keyword text : List Char) : Except Fault (Option Nat) :=
  keywordFrom (Text.bytes keyword) (Text.bytes text) .outside 0 (Text.bytes text)

def columnByOffset (definition : List Char) : Except Fault (Option Column) := do
  match ← nameByOffset definition with
  | none => return none
  | some (name, rest) => return columnNamed? name rest

def tableColumnsByOffset (text : List Char) : Except Fault (List Column) := do
  match ← bodyByOffset text with
  | none => return []
  | some body =>
    let columns ← (← itemsByOffset body).mapM columnByOffset
    return distinct [] (columns.filterMap id)

def skipDistinctByOffset (text : List Char) : Except Fault (List Char) := do
  match ← findKeyword "distinct".toList text with
  | none => return text
  | some start =>
    if (Text.trim (← Text.sliceTo text start)).isEmpty then
      Text.sliceFrom text (start + (Text.bytes "distinct".toList).length)
    else return text

def cutFromByOffset (text : List Char) : Except Fault (List Char) := do
  match ← findKeyword "from".toList text with
  | none => return text
  | some stop => Text.sliceTo text stop

def selectListByOffset (text : List Char) : Except Fault (Option (List Char)) := do
  match ← findKeyword "select".toList text with
  | none => return none
  | some start =>
    let list ← Text.sliceFrom text (start + (Text.bytes "select".toList).length)
    return some (← cutFromByOffset (← skipDistinctByOffset list))

def viewColumnsByOffset (text : List Char) : Except Fault (List Column) := do
  match ← selectListByOffset text with
  | none => return []
  | some list =>
    return distinct [] ((← itemsByOffset list).filterMap fun item =>
      (itemName? item).map fun name => ⟨name, "", .unknown⟩)

/-- The entity of the first statement in a text, which is cut where the head of the statement
ends. -/
def entityByOffset (text fallback : String) : Except Fault (Except Flaw Entity) :=
  match findHead? false text.toList with
  | none => .ok (.error .noStatement)
  | some head =>
    let name := if head.name.isEmpty then fallback else String.ofList head.name
    if name.isEmpty then .ok (.error .noName)
    else do
      let stop := (Text.bytes text.toList).length - (Text.bytes head.rest).length
      let rest ← Text.sliceFrom text.toList stop
      let columns ← match head.kind with
        | .table => tableColumnsByOffset rest
        | .view => viewColumnsByOffset rest
      return .ok ⟨name, head.kind, columns⟩

end SqlTemplate.Schema
