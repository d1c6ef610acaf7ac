import SqlTemplate.Json.Basic

/-! The text of JSON documents over several lines. -/

namespace SqlTemplate.Json

def newLine (depth : Nat) : List Char :=
  '\n' :: List.replicate (2 * depth) ' '

mutual

def prettyText (depth : Nat) : Json → List Char
  | .array [] => ['[', ']']
  | .array items => '[' :: (prettyItems (depth + 1) items ++ newLine depth ++ [']'])
  | .object [] => ['\x7b', '\x7d']
  | .object members => '\x7b' :: (prettyMembers (depth + 1) members ++ newLine depth ++ ['\x7d'])
  | document => document.text

def prettyItems (depth : Nat) : List Json → List Char
  | [] => []
  | [item] => newLine depth ++ prettyText depth item
  | item :: rest => newLine depth ++ prettyText depth item ++ ',' :: prettyItems depth rest

def prettyMembers (depth : Nat) : List (String × Json) → List Char
  | [] => []
  | [(name, value)] => newLine depth ++ stringText name ++ ':' :: ' ' :: prettyText depth value
  | (name, value) :: rest =>
    newLine depth ++ stringText name ++ ':' :: ' ' ::
      (prettyText depth value ++ ',' :: prettyMembers depth rest)

end

end SqlTemplate.Json
