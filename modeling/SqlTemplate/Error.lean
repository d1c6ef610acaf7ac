import SqlTemplate.Binding.Check
import SqlTemplate.Schema.Entity
import SqlTemplate.Template.Compile
import SqlTemplate.Wire.Encode

/-! Everything that can go wrong between a template and its rows. -/

namespace SqlTemplate

structure ServerReport where
  severity : String
  code : String
  message : String
  deriving DecidableEq, Repr

inductive QueryFailure
  | parameterCount (expected given : Nat)
  | parameter (index : Nat) (cause : EncodeError)
  | reported (report : ServerReport)
  | closed

namespace QueryFailure

def message : QueryFailure → String
  | parameterCount expected given => s!"expected {expected} parameters but got {given}"
  | parameter index _ => s!"error serializing parameter {index}"
  | reported _ => "db error"
  | closed => "connection closed"

def cause? : QueryFailure → Option String
  | parameter _ cause => some cause.message
  | reported report => some (report.severity ++ ": " ++ report.message)
  | _ => none

end QueryFailure

inductive FileFlaw
  | missing
  | directory
  | underFile
  | nameTooLong
  | nameWithNul
  | forbidden
  | notText
  deriving DecidableEq, Repr

namespace FileFlaw

def message : FileFlaw → String
  | missing => "No such file or directory (os error 2)"
  | directory => "Is a directory (os error 21)"
  | underFile => "Not a directory (os error 20)"
  | nameTooLong => "File name too long (os error 36)"
  | nameWithNul => "file name contained an unexpected NUL byte"
  | forbidden => "Permission denied (os error 13)"
  | notText => "stream did not contain valid UTF-8"

def isThere : FileFlaw → Bool
  | directory | forbidden | notText => true
  | _ => false

end FileFlaw

inductive Error
  | bind (cause : BindError)
  | template (cause : TemplateError)
  | ident (text : String) (flaw : Ident.Flaw)
  | schema (flaw : Schema.Flaw)
  | primaryKey (name : String)
  | emptyUpdate (entity : String)
  | query (failure : QueryFailure)
  | connection (message : String)
  | pool (message : String)
  | file (path : String) (flaw : FileFlaw)
  | aborted (reason : String)
  | other (message : String)

namespace Error

def message : Error → String
  | bind cause => cause.message
  | template cause => "Template error: " ++ cause.message
  | ident text flaw => "Validation error: Invalid identifier '" ++ text ++ "': " ++ flaw.message
  | schema flaw => "Validation error: " ++ flaw.message
  | primaryKey name =>
    "Validation error: Primary key '" ++ name ++ "' cannot be used as a placeholder name"
  | emptyUpdate entity =>
    "Validation error: Update of " ++ entity ++ " requires at least one column"
  | query failure => "Query error: " ++ failure.message
  | connection message => "Connection error: " ++ message
  | pool message => "Pool error: " ++ message
  | file path flaw => "Failed to read " ++ path ++ ": " ++ flaw.message
  | aborted reason => "Query aborted: " ++ reason
  | other message => message

def param? : Error → Option String
  | bind cause => some cause.param
  | _ => none

def isMissingParameter : Error → Bool
  | bind cause => cause.isMissing
  | _ => false

/-- Whether a value was refused for its type; malformed JSON is. -/
def isTypeMismatch : Error → Bool
  | bind cause => cause.isMismatch
  | _ => false

def isMalformedJson : Error → Bool
  | bind cause => cause.isMalformedJson
  | _ => false

end Error

end SqlTemplate
