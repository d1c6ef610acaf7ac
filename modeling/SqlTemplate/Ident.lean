import SqlTemplate.Text.BareWord

/-! Qualified identifiers as they may be spliced into statements. -/

namespace SqlTemplate

inductive Ident.Part
  | bare (name : List Char)
  | quoted (name : List Char)
  deriving DecidableEq, Repr

structure Ident where
  parts : List Ident.Part
  deriving DecidableEq, Repr

namespace Ident

def Part.name : Part → List Char
  | bare name => name
  | quoted name => name

def name (ident : Ident) : List Char :=
  (ident.parts.getLast?.map Part.name).getD []

def double : List Char → List Char
  | [] => []
  | c :: rest => if c = '"' then '"' :: '"' :: double rest else c :: double rest

/-- Reads two quotes as one, from left to right. -/
def undouble : List Char → List Char
  | [] => []
  | '"' :: '"' :: rest => '"' :: undouble rest
  | c :: rest => c :: undouble rest

/-- Whether a quote is left when two at a time are dropped from left to right. -/
def hasLoneQuote : List Char → Bool
  | [] => false
  | '"' :: '"' :: rest => hasLoneQuote rest
  | c :: rest => c == '"' || hasLoneQuote rest

/-- The text between the quote a text starts with and the one it ends with. -/
def betweenQuotes? : List Char → Option (List Char)
  | '"' :: rest =>
    match rest.getLast? with
    | some '"' => some rest.dropLast
    | _ => none
  | _ => none

/-- A name without its quotes; a name without two is left as it is. -/
def unquote (text : List Char) : List Char :=
  match betweenQuotes? text with
  | some inner => undouble inner
  | none => text

def Part.text : Part → List Char
  | bare name => name
  | quoted name => '"' :: (double name ++ ['"'])

def textOf : List Part → List Char
  | [] => []
  | [part] => part.text
  | part :: rest => part.text ++ '.' :: textOf rest

def text (ident : Ident) : List Char :=
  textOf ident.parts

inductive Flaw
  | empty
  | containsNul
  | unclosedQuote
  | emptyPart
  | textAfterQuote
  | emptyQuotedPart
  | unexpectedCharacter
  deriving DecidableEq, Repr

def Flaw.message : Flaw → String
  | empty => "empty"
  | containsNul => "contains NUL"
  | unclosedQuote => "unclosed quote"
  | emptyPart => "empty part"
  | textAfterQuote => "text after closing quote"
  | emptyQuotedPart => "empty quoted part"
  | unexpectedCharacter => "unexpected character"

/-- Splits a text at the dots outside quotes; none if a quote stays open. `inQuotes` says whether
the text starts inside quotes. -/
def splitParts? (inQuotes : Bool) : List Char → Option (List (List Char))
  | [] => if inQuotes then none else some [[]]
  | c :: rest =>
    if c = '.' ∧ !inQuotes then (splitParts? false rest).map ([] :: ·)
    else
      match splitParts? (if c = '"' then !inQuotes else inQuotes) rest with
      | some (part :: parts) => some ((c :: part) :: parts)
      | _ => none

def readPart : List Char → Except Flaw Part
  | [] => .error .emptyPart
  | '"' :: rest =>
    match betweenQuotes? ('"' :: rest) with
    | none => .error .textAfterQuote
    | some [] => .error .emptyQuotedPart
    | some inner =>
      if hasLoneQuote inner then .error .textAfterQuote else .ok (.quoted (undouble inner))
  | c :: rest =>
    if Text.isBareStart c ∧ rest.all Text.isBareLater then .ok (.bare (c :: rest))
    else .error .unexpectedCharacter

def read (text : List Char) : Except Flaw Ident :=
  if text.isEmpty then .error .empty
  else if text.contains '\x00' then .error .containsNul
  else
    match splitParts? false text with
    | none => .error .unclosedQuote
    | some parts => do .ok ⟨← parts.mapM readPart⟩

end Ident

end SqlTemplate
