import SqlTemplate.Text.Ligature

/-! The number of columns a line takes on a terminal.

A line is measured from its end: what a character adds depends on what follows it. -/

namespace SqlTemplate.Text

/-- What the rest of a line begins with, as far as a character before it can belong to that. What is
`joined` has a joiner before a picture. -/
inductive Opening
  | other
  | letter (ligature : LigatureEnd)
  | picture
  | tone
  | flagLetter
  | flagLetters
  | joined
  | joinedKeycap
  | joinedFlagLetter
  | joinedFlag
  | joinedFlagAndLetter
  | joinedTagLetters (count : Nat)
  | joinedTagDigits (count : Nat)
  deriving DecidableEq, Repr

inductive Selector
  | picture
  | narrow
  | fullWidth
  deriving DecidableEq, Repr

def Selector.ofChar? (c : Char) : Option Selector :=
  if c.toNat = 0xFE0F then some picture
  else if c.toNat = 0xFE0E then some narrow
  else if c.toNat = 0xFE01 then some fullWidth
  else none

/-- The rest of a line as the character before it meets it: the forms that are asked for and what
stands after them. -/
structure Following where
  opening : Opening
  asked : List Selector
  deriving DecidableEq, Repr

namespace Following

def plain : Following := ⟨.other, []⟩

def keeps (following : Following) (selector : Selector) : Bool :=
  match following.opening with
  | .letter ligature => ligature.keepsSelectors
  | .joined | .joinedKeycap => selector == .picture
  | _ => false

def ask (following : Following) (selector : Selector) : Following :=
  if following.keeps selector then { following with asked := selector :: following.asked }
  else ⟨.other, [selector]⟩

def refuse (following : Following) (selector : Selector) : Following :=
  match following.opening with
  | .letter _ => { following with asked := following.asked.filter (· != selector) }
  | _ => plain

end Following

def openingOf (c : Char) : Opening :=
  match LigatureEnd.ofChar? c with
  | some ligature => .letter ligature
  | none =>
    if isFlagLetter c then .flagLetter
    else if isTone c then .tone
    else if pictureCodePoints.contains c then .picture
    else .other

/-- The columns that a character adds to an opening that it belongs to, and what the two open. Two
letters of a flag share two columns, and a picture before a joiner adds none. -/
def extend? (c : Char) : Opening → Option (Int × Opening)
  | .letter ligature =>
    (ligature.extend? c).map fun (columns, ligature?) =>
      (columns, (ligature?.map Opening.letter).getD .other)
  | .tone =>
    if c = joiner then some (0, .joined)
    else if tonedCodePoints.contains c then some (0, .picture)
    else none
  | .picture => if c = joiner then some (0, .joined) else none
  | .flagLetter => if isFlagLetter c then some (1, .flagLetters) else none
  | .flagLetters =>
    if isFlagLetter c then some (1, .flagLetters)
    else if c = joiner then some (0, .joined)
    else none
  | .joined =>
    if c = keycap then some (0, .joinedKeycap)
    else if isFlagLetter c then some (1, .joinedFlagLetter)
    else if isTone c then some (0, .tone)
    else if isTagEnd c then some (0, .joinedTagLetters 0)
    else if openingOf c = .picture then some (0, .picture)
    else none
  | .joinedFlagLetter => if isFlagLetter c then some (-1, .joinedFlag) else none
  | .joinedFlag =>
    if c = joiner then some (0, .joined)
    else if isFlagLetter c then some (3, .joinedFlagAndLetter)
    else none
  | .joinedFlagAndLetter =>
    if c = joiner then some (0, .joined)
    else if isFlagLetter c then some (-1, .joinedFlag)
    else none
  | .joinedTagLetters count =>
    if isTagLetter c ∧ count < 6 then some (0, .joinedTagLetters (count + 1))
    else if isTagDigit c ∧ count < 5 then some (0, .joinedTagDigits 1)
    else if isBlackFlag c ∧ 3 ≤ count then some (0, .picture)
    else none
  | .joinedTagDigits count =>
    if isTagDigit c ∧ count < 3 then some (0, .joinedTagDigits (count + 1))
    else if isBlackFlag c ∧ count = 3 then some (0, .picture)
    else none
  | .joinedKeycap | .other => none

def isQuotation (c : Char) : Bool :=
  [0x2018, 0x2019, 0x201C, 0x201D].contains c.toNat

/-- The columns that a character adds, and what it and the rest of the line are to the character
before. -/
def alone (c : Char) : Int × Following :=
  (charWidth c, ⟨openingOf c, []⟩)

def stepUnasked (c : Char) (following : Following) : Int × Following :=
  let extended :=
    if following.asked.isEmpty then
      match extend? c following.opening with
      | some (columns, opening) => (columns, ⟨opening, []⟩)
      | none => alone c
    else alone c
  match following.opening with
  | .letter ligature =>
    if ligature.passes ∧ c = joiner then
      (0, { following with opening := .letter ligature.join })
    else if ligature.passes ∧ passedCodePoints.contains c then (0, following)
    else extended
  | _ => extended

def stepUnpictured (c : Char) (following : Following) : Int × Following :=
  if c.toNat ≤ 0xA0 then (1, .plain)
  else
    match Selector.ofChar? c with
    | some selector => (0, following.ask selector)
    | none =>
      if following.asked.contains .narrow then
        if hasNarrowForm c then (1, .plain) else stepUnasked c (following.refuse .narrow)
      else if following.asked.contains .fullWidth then
        if isQuotation c then (2, .plain) else stepUnasked c (following.refuse .fullWidth)
      else stepUnasked c following

def step (c : Char) (following : Following) : Int × Following :=
  if following.asked.contains .picture then
    if twoFormCodePoints.contains c then
      match following.opening with
      | .joined | .joinedKeycap => (0, ⟨.picture, []⟩)
      | _ => (2, ⟨.picture, []⟩)
    else stepUnpictured c (following.refuse .picture)
  else stepUnpictured c following

/-- The columns of a line, and what its first characters are to a character before them. -/
def measure : List Char → Int × Following
  | [] => (0, .plain)
  | c :: rest =>
    let (columns, following) := measure rest
    let (added, following) := step c following
    (columns + added, following)

def width (line : List Char) : Nat :=
  (measure line).1.toNat

end SqlTemplate.Text
