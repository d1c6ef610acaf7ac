import SqlTemplate.Text.BareWord
import SqlTemplate.Text.Blank

/-! Scanning schema text with an eye on quotes and parentheses. -/

namespace SqlTemplate.Schema

/-- The quote a place of a text stands in, if any, and how many parentheses are open there. -/
structure Nesting where
  quote : Option Char
  depth : Nat
  deriving DecidableEq, Repr

namespace Nesting

def outside : Nesting := ⟨none, 0⟩

/-- The nesting after a character. A closing parenthesis without an opening one changes nothing. -/
def step (nesting : Nesting) (c : Char) : Nesting :=
  match nesting.quote with
  | some quote => if c = quote then { nesting with quote := none } else nesting
  | none =>
    if c = '\'' ∨ c = '"' then { nesting with quote := some c }
    else if c = '(' then { nesting with depth := nesting.depth + 1 }
    else if c = ')' then { nesting with depth := nesting.depth - 1 }
    else nesting

end Nesting

/-- The text up to the place where the parentheses that are open in `nesting` are closed. -/
def untilClosed? (nesting : Nesting) : List Char → Option (List Char)
  | [] => none
  | c :: rest =>
    if nesting.quote = none ∧ c = ')' ∧ nesting.depth = 1 then some []
    else (untilClosed? (nesting.step c) rest).map (c :: ·)

def body? (text : List Char) : Option (List Char) :=
  match text.dropWhile (· != '(') with
  | [] => none
  | _ :: rest => untilClosed? ⟨none, 1⟩ rest

def pieces (nesting : Nesting) : List Char → List (List Char)
  | [] => [[]]
  | c :: rest =>
    if c = ',' ∧ nesting = .outside then [] :: pieces nesting rest
    else
      match pieces (nesting.step c) rest with
      | piece :: more => (c :: piece) :: more
      | [] => [[c]]

/-- The pieces of a text without white space around them, the empty ones left out. -/
def items (text : List Char) : List (List Char) :=
  ((pieces .outside text).map Text.trim).filter fun item => !item.isEmpty

def afterKeyword? : List Char → List Char → Option (List Char)
  | [], text => some text
  | _ :: _, [] => none
  | k :: keyword, c :: text => if c.toLower = k then afterKeyword? keyword text else none

def continuesWord (text : List Char) : Bool :=
  (text.head?.map Text.isBareLater).getD false

/-- The text before and after the first keyword that is a whole word outside quotes and
parentheses. The keyword is given in lower case; `inWord` says whether a word character stands
before the text. -/
def splitAtKeyword? (keyword : List Char) (inWord : Bool) (nesting : Nesting) :
    List Char → Option (List Char × List Char)
  | [] => none
  | c :: rest =>
    let here := if nesting = .outside ∧ !inWord then afterKeyword? keyword (c :: rest) else none
    match here.filter fun after => !continuesWord after with
    | some after => some ([], after)
    | none =>
      (splitAtKeyword? keyword (Text.isBareLater c) (nesting.step c) rest).map
        fun (before, after) => (c :: before, after)

end SqlTemplate.Schema
