import SqlTemplate.Text.Clip

/-! Texts addressed by the offsets of their UTF-8 bytes, with every step on offsets checked. -/

namespace SqlTemplate.Text

/-- Why a step on offsets fails: a cut that is not between two characters of the text or at one of
its ends, a byte that is not there, or a count that would fall below zero. -/
inductive Fault
  | cut
  | byte
  | count
  deriving DecidableEq, Repr

def bytes (text : List Char) : List UInt8 :=
  text.flatMap String.utf8EncodeChar

/-- Whether an offset is an end of a text or that of a byte that continues no character. -/
def isBoundary (bytes : List UInt8) (offset : Nat) : Bool :=
  offset == 0 ||
    match bytes[offset]? with
    | some byte => byte.toNat < 0x80 || 0xC0 ≤ byte.toNat
    | none => offset == bytes.length

def cutAt (offset : Nat) (text : List Char) : Except Fault (List Char × List Char) :=
  if offset = 0 then .ok ([], text)
  else
    match text with
    | [] => .error .cut
    | c :: rest =>
      if c.utf8Size ≤ offset then
        (cutAt (offset - c.utf8Size) rest).map fun (before, behind) => (c :: before, behind)
      else .error .cut

def sliceFrom (text : List Char) (start : Nat) : Except Fault (List Char) :=
  (cutAt start text).map Prod.snd

def sliceTo (text : List Char) (stop : Nat) : Except Fault (List Char) :=
  (cutAt stop text).map Prod.fst

def slice (text : List Char) (start stop : Nat) : Except Fault (List Char) := do
  sliceFrom (← sliceTo text stop) start

def byteAt (bytes : List UInt8) (offset : Nat) : Except Fault UInt8 :=
  match bytes[offset]? with
  | some byte => .ok byte
  | none => .error .byte

def sliceBytes (bytes : List UInt8) (start stop : Nat) : Except Fault (List UInt8) :=
  if start ≤ stop ∧ stop ≤ bytes.length then .ok ((bytes.drop start).take (stop - start))
  else .error .byte

def countDown : Nat → Except Fault Nat
  | 0 => .error .count
  | count + 1 => .ok count

def offsetOf? (p : Char → Bool) : List Char → Option Nat
  | [] => none
  | c :: rest => if p c then some 0 else (offsetOf? p rest).map (c.utf8Size + ·)

def lastBoundary (bytes : List UInt8) (offset : Nat) : Except Fault Nat :=
  if isBoundary bytes offset then .ok offset
  else
    match offset with
    | 0 => .error .count
    | before + 1 => lastBoundary bytes before

def clipAtBoundary (limit : Nat) (text : List Char) : Except Fault (List Char) := do
  let stop ← lastBoundary (bytes text) (min limit (bytes text).length)
  sliceTo text stop

end SqlTemplate.Text
