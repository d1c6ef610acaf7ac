import SqlTemplate.Value

/-! Statements with numbered markers, and the parameters that the markers stand for. -/

namespace SqlTemplate

inductive ParamType
  | string
  | integer
  | float
  | boolean
  | date
  | json
  deriving DecidableEq, Repr

namespace ParamType

def all : List ParamType := [string, integer, float, boolean, date, json]

def tag : ParamType → String
  | string => "string"
  | integer => "integer"
  | float => "float"
  | boolean => "boolean"
  | date => "date"
  | json => "json"

def describe : ParamType → String
  | string => "a string"
  | integer => "an integer"
  | float => "a number"
  | boolean => "a boolean"
  | date => "a valid date"
  | json => "valid JSON"

def ofTag? (text : List Char) : Option ParamType :=
  all.find? fun type => type.tag.toList == text.map Char.toLower

end ParamType

inductive Source (τ : Type)
  | named
  | computed (compute : τ)
  deriving DecidableEq

structure Param (τ : Type) where
  name : String
  type : ParamType
  source : Source τ
  deriving DecidableEq

namespace Param

variable {τ : Type}

def ofName (name : String) (type : ParamType) : Param τ :=
  ⟨name, type, .named⟩

def ofSlot (slot : Nat) (compute : τ) : Param τ :=
  ⟨"__transform_" ++ String.ofList (Number.digits slot) ++ "__", .string, .computed compute⟩

def isComputed (param : Param τ) : Bool :=
  match param.source with
  | .named => false
  | .computed _ => true

end Param

/-- A statement: marker `$n` of its text stands for parameter `n`, counted from one. -/
structure Statement (τ : Type) where
  text : String
  params : List (Param τ)
  deriving DecidableEq

namespace Statement

variable {τ : Type}

def namedParams (statement : Statement τ) : List String :=
  (statement.params.filter fun param => !param.isComputed).map Param.name

inductive Segment (τ : Type)
  | char (c : Char)
  | param (p : Param τ)
  deriving DecidableEq

def marker (number : Nat) : List Char :=
  '$' :: Number.digits number

def textOf (next : Nat) : List (Segment τ) → List Char
  | [] => []
  | .char c :: rest => c :: textOf next rest
  | .param _ :: rest => marker next ++ textOf (next + 1) rest

def paramsOf : List (Segment τ) → List (Param τ)
  | [] => []
  | .char _ :: rest => paramsOf rest
  | .param p :: rest => p :: paramsOf rest

def ofSegments (segments : List (Segment τ)) : Statement τ :=
  ⟨String.ofList (textOf 1 segments), paramsOf segments⟩

end Statement

end SqlTemplate
