import SqlTemplate.Template.Statement

/-! Checking values against the declared types of parameters. -/

namespace SqlTemplate

inductive Misfit
  | kind
  | malformed (cause : Json.SyntaxError)
  deriving DecidableEq, Repr

namespace ParamType

def require (fits : Bool) : Except Misfit Unit :=
  if fits then .ok () else .error .kind

/-- Checks a value against a declared type. An integer may be a whole float, a date may be text that
reads as one, and text for JSON has to be JSON; other values pass as JSON unchecked. -/
def check : ParamType → Value → Except Misfit Unit
  | string, _ => .ok ()
  | integer, .int _ => .ok ()
  | integer, .float x => require x.toInt?.isSome
  | float, .int _ => .ok ()
  | float, .float _ => .ok ()
  | boolean, .bool _ => .ok ()
  | date, .date _ => .ok ()
  | date, .timestamp _ => .ok ()
  | date, .text s => require (Calendar.readMoment? s.toList).isSome
  | json, .text s =>
    match Json.read s with
    | .ok _ => .ok ()
    | .error cause => .error (.malformed cause)
  | json, _ => .ok ()
  | _, _ => .error .kind

end ParamType

def Value.shown : Value → String
  | .null => "null"
  | .text s => "string " ++ Text.quoted s
  | .json _ => "json"
  | value => value.kind ++ " " ++ value.display

inductive BindError
  | missing (name : String)
  | mismatch (name : String) (expected : ParamType) (found : Value)
  | malformedJson (name : String) (cause : Json.SyntaxError)

namespace BindError

def message : BindError → String
  | missing name => "Missing parameter: " ++ name
  | mismatch name expected found =>
    "Parameter " ++ name ++ " must be " ++ expected.describe ++ ": got " ++ found.shown
  | malformedJson name cause =>
    "Parameter " ++ name ++ " must be valid JSON: " ++ cause.message

def param : BindError → String
  | missing name => name
  | mismatch name _ _ => name
  | malformedJson name _ => name

def isMissing : BindError → Bool
  | missing _ => true
  | _ => false

/-- Whether the value was refused for its type; malformed JSON is. -/
def isMismatch : BindError → Bool
  | missing _ => false
  | _ => true

def isMalformedJson : BindError → Bool
  | malformedJson _ _ => true
  | _ => false

end BindError

def checkParam (name : String) (type : ParamType) (value : Value) : Except BindError Unit :=
  match type.check value with
  | .ok () => .ok ()
  | .error .kind => .error (.mismatch name type value)
  | .error (.malformed cause) => .error (.malformedJson name cause)

end SqlTemplate
