import SqlTemplate.Number.Digits
import SqlTemplate.Text.After
import SqlTemplate.Text.DecimalDigit
import SqlTemplate.Text.WordChar

/-! Placeholders in template text: named ones, and the slots of embedded computations. -/

namespace SqlTemplate

/-- A placeholder: `$(name)` with an optional `:tag`, or the slot of a computation. -/
inductive Placeholder
  | named (name : List Char) (tag : Option (List Char))
  | slot (digits : List Char)
  deriving DecidableEq

namespace Placeholder

def isNameChar (c : Char) : Bool :=
  Text.isWord c || c == '.'

def slotOpening : List Char := "\x00sqlify:".toList

theorem slotOpening_eq : slotOpening = ['\x00', 's', 'q', 'l', 'i', 'f', 'y', ':'] := rfl

def slotText (slot : Nat) : List Char :=
  slotOpening ++ Number.digits slot ++ ['\x00']

def readTag : List Char → Option (List Char) × List Char
  | ':' :: rest =>
    let word := rest.takeWhile Text.isWord
    if word.isEmpty then (none, ':' :: rest) else (some word, rest.dropWhile Text.isWord)
  | rest => (none, rest)

def readNamed? (text : List Char) : Option (Placeholder × List Char) :=
  let name := text.takeWhile isNameChar
  match text.dropWhile isNameChar with
  | ')' :: rest =>
    if name.isEmpty then none
    else
      let (tag, rest) := readTag rest
      some (.named name tag, rest)
  | _ => none

def readSlot? (text : List Char) : Option (Placeholder × List Char) :=
  let digits := text.takeWhile Text.isDecimalDigit
  match text.dropWhile Text.isDecimalDigit with
  | '\x00' :: rest => if digits.isEmpty then none else some (.slot digits, rest)
  | _ => none

def read? : List Char → Option (Placeholder × List Char)
  | '$' :: '(' :: rest => readNamed? rest
  | text =>
    match Text.after? slotOpening text with
    | some rest => readSlot? rest
    | none => none

theorem length_dropWhile_le (p : Char → Bool) (text : List Char) :
    (text.dropWhile p).length ≤ text.length :=
  (List.dropWhile_sublist p).length_le

theorem length_readTag_le (text : List Char) : (readTag text).2.length ≤ text.length := by
  unfold readTag
  split
  · rename_i rest
    have shorter := length_dropWhile_le Text.isWord rest
    simp only
    split
    · exact Nat.le_refl _
    · simp only [List.length_cons]; omega
  · exact Nat.le_refl _

theorem length_lt_of_readNamed? {text rest : List Char} {placeholder : Placeholder}
    (found : readNamed? text = some (placeholder, rest)) : rest.length < text.length := by
  have shorter := length_dropWhile_le isNameChar text
  unfold readNamed? at found
  simp only at found
  split at found
  · rename_i after same
    split at found
    · simp at found
    · simp only [Option.some.injEq, Prod.mk.injEq] at found
      have tagged := length_readTag_le after
      rw [same, List.length_cons] at shorter
      rw [← found.2]
      omega
  · simp at found

theorem length_lt_of_readSlot? {text rest : List Char} {placeholder : Placeholder}
    (found : readSlot? text = some (placeholder, rest)) : rest.length < text.length := by
  have shorter := length_dropWhile_le Text.isDecimalDigit text
  unfold readSlot? at found
  simp only at found
  split at found
  · rename_i after same
    split at found
    · simp at found
    · simp only [Option.some.injEq, Prod.mk.injEq] at found
      rw [same, List.length_cons] at shorter
      rw [← found.2]
      omega
  · simp at found

theorem length_lt_of_read? {text rest : List Char} {placeholder : Placeholder}
    (found : read? text = some (placeholder, rest)) : rest.length < text.length := by
  unfold read? at found
  split at found
  · have := length_lt_of_readNamed? found
    simp only [List.length_cons]
    omega
  · split at found
    · rename_i after same
      have shorter := length_lt_of_readSlot? found
      rw [Text.after?_eq_some_iff.mp same, List.length_append]
      omega
    · simp at found

end Placeholder

inductive Piece
  | char (c : Char)
  | mark (placeholder : Placeholder)
  deriving DecidableEq

/-- Splits a text into placeholders, the leftmost first, and the characters between them. -/
def Piece.split (text : List Char) : List Piece :=
  match _found : Placeholder.read? text with
  | some (placeholder, rest) => .mark placeholder :: split rest
  | none =>
    match text with
    | [] => []
    | c :: rest => .char c :: split rest
termination_by text.length
decreasing_by
  · exact Placeholder.length_lt_of_read? _found
  · simp

@[simp] theorem Piece.split_nil : Piece.split [] = [] := by
  rw [Piece.split]
  rfl

theorem Piece.split_of_read? {text rest : List Char} {placeholder : Placeholder}
    (found : Placeholder.read? text = some (placeholder, rest)) :
    Piece.split text = .mark placeholder :: Piece.split rest := by
  rw [Piece.split]
  split
  · rename_i same
    rw [found] at same
    cases same
    rfl
  · rename_i same
    rw [found] at same
    cases same

theorem Piece.split_cons {c : Char} {rest : List Char}
    (nothing : Placeholder.read? (c :: rest) = none) :
    Piece.split (c :: rest) = .char c :: Piece.split rest := by
  rw [Piece.split]
  split
  · rename_i same
    rw [nothing] at same
    cases same
  · rfl

end SqlTemplate
