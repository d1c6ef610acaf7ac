import SqlTemplate.Number.Power
import SqlTemplate.Template.Placeholder
import SqlTemplate.Template.Statement

/-! Compiling literal text with embedded values into a statement. -/

namespace SqlTemplate

/-- A value between two literal fragments: spliced into the text as it is displayed, or computed
when the statement is bound. -/
inductive Embedded (τ : Type)
  | raw (value : Value)
  | computed (compute : τ)

inductive TemplateError
  | fragmentCount (embedded fragments : Nat)
  | unknownType (tag : String)
  | invalidSlot (digits : String)
  | slotTaken (slot : Nat)
  | slotLost
  deriving DecidableEq, Repr

def TemplateError.message : TemplateError → String
  | fragmentCount embedded fragments =>
    s!"expected {embedded + 1} fragments for {embedded} embedded values, got {fragments}"
  | unknownType tag =>
    "unknown parameter type '" ++ tag ++
      "' (expected one of: string, integer, float, boolean, date, json)"
  | invalidSlot digits => s!"invalid transformer slot '{digits}'"
  | slotTaken slot => s!"transformer slot {slot} is unknown or referenced twice"
  | slotLost => "a transformer placeholder was lost while compiling"

namespace ParamType

def ofTag (tag : List Char) : Except TemplateError ParamType :=
  match ofTag? tag with
  | some type => .ok type
  | none => .error (.unknownType (String.ofList tag))

/-- The type of a named placeholder; without a tag it is a string. -/
def ofTagIfAny : Option (List Char) → Except TemplateError ParamType
  | some tag => ofTag tag
  | none => .ok .string

end ParamType

namespace Template

variable {τ : Type}

/-- The text of a template, in which numbered slots stand for the computations, and the
computations. There is one fragment more than embedded values. -/
def splice (slot : Nat) : List String → List (Embedded τ) → List Char × List τ
  | [], _ => ([], [])
  | fragment :: _, [] => (fragment.toList, [])
  | fragment :: fragments, .raw value :: embedded =>
    let (text, computes) := splice slot fragments embedded
    (fragment.toList ++ value.display.toList ++ text, computes)
  | fragment :: fragments, .computed compute :: embedded =>
    let (text, computes) := splice (slot + 1) fragments embedded
    (fragment.toList ++ Placeholder.slotText slot ++ text, compute :: computes)

def slotNumber? (digits : List Char) : Option Nat :=
  if digits.all Char.isDigit then some (Number.ofDigits digits) else none

/-- Takes the computation out of a slot. A number of more than 64 bits that names no slot is
invalid; a smaller one is unknown or taken. -/
def takeSlot (slots : List (Option τ)) (digits : List Char) :
    Except TemplateError (Param τ × List (Option τ)) :=
  match slotNumber? digits with
  | none => .error (.invalidSlot (String.ofList digits))
  | some slot =>
    match slots[slot]? with
    | some (some compute) => .ok (.ofSlot slot compute, slots.set slot none)
    | _ =>
      if slot < Number.twoPow 64 then .error (.slotTaken slot)
      else .error (.invalidSlot (String.ofList digits))

def resolve (slots : List (Option τ)) :
    Placeholder → Except TemplateError (Param τ × List (Option τ))
  | .named name tag => do
    let type ← ParamType.ofTagIfAny tag
    .ok (.ofName (String.ofList name) type, slots)
  | .slot digits => takeSlot slots digits

def resolveAll (slots : List (Option τ)) :
    List Piece → Except TemplateError (List (Statement.Segment τ) × List (Option τ))
  | [] => .ok ([], slots)
  | .char c :: rest => do
    let (segments, left) ← resolveAll slots rest
    .ok (.char c :: segments, left)
  | .mark placeholder :: rest => do
    let (param, slots) ← resolve slots placeholder
    let (segments, left) ← resolveAll slots rest
    .ok (.param param :: segments, left)

@[simp] theorem resolveAll_char (slots : List (Option τ)) (c : Char) (rest : List Piece) :
    resolveAll slots (.char c :: rest) =
      (resolveAll slots rest).map fun (segments, left) => (.char c :: segments, left) := by
  rw [resolveAll]
  cases resolveAll slots rest <;> rfl

theorem resolveAll_mark {slots left : List (Option τ)} {placeholder : Placeholder} {param : Param τ}
    (resolved : resolve slots placeholder = .ok (param, left)) (rest : List Piece) :
    resolveAll slots (.mark placeholder :: rest) =
      (resolveAll left rest).map fun (segments, out) => (.param param :: segments, out) := by
  rw [resolveAll, resolved]
  change (do
    let (segments, out) ← resolveAll left rest
    Except.ok (Statement.Segment.param param :: segments, out)) = _
  cases resolveAll left rest <;> rfl

theorem resolveAll_mark_error {slots : List (Option τ)} {placeholder : Placeholder}
    {e : TemplateError} (refused : resolve slots placeholder = .error e) (rest : List Piece) :
    resolveAll slots (.mark placeholder :: rest) = .error e := by
  rw [resolveAll, refused]
  rfl

def compile (fragments : List String) (embedded : List (Embedded τ)) :
    Except TemplateError (Statement τ) :=
  if fragments.length = embedded.length + 1 then do
    let (text, computes) := splice 0 fragments embedded
    let (segments, left) ← resolveAll (computes.map some) (Piece.split text)
    if left.any Option.isSome then .error .slotLost else .ok (Statement.ofSegments segments)
  else .error (.fragmentCount embedded.length fragments.length)

theorem compile_of_balanced {fragments : List String} {embedded : List (Embedded τ)}
    (balanced : fragments.length = embedded.length + 1) :
    compile fragments embedded =
      (resolveAll ((splice 0 fragments embedded).2.map some)
          (Piece.split (splice 0 fragments embedded).1) >>= fun (segments, left) =>
        if left.any Option.isSome then .error .slotLost
        else .ok (Statement.ofSegments segments)) := by
  rw [compile, if_pos balanced]

end Template

def Statement.parse {τ : Type} (text : String) : Except TemplateError (Statement τ) :=
  Template.compile [text] []

end SqlTemplate
