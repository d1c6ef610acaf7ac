import SqlTemplate.Monitor.Log

/-! Settings of a database: how statements are logged and tagged, and what its keys are. -/

namespace SqlTemplate

structure Settings where
  logging : Bool
  log : SqlLog
  tagStart : Option String
  /-- The column that is the key of every table, and the type that its values are checked for. -/
  key : String
  keyType : ParamType
  deriving DecidableEq, Repr

namespace Settings

def default : Settings := ⟨false, .default, none, "id", .integer⟩

def tagFor (settings : Settings) (name : String) : String :=
  match settings.tagStart with
  | some start => start ++ "." ++ name
  | none => name

def tag? (settings : Settings) : Option String → Option String
  | some name => some (settings.tagFor name)
  | none => settings.tagStart

def hooks {σ : Type} (settings : Settings) (emit : LogEvent → StateM σ Unit) : List (Hook σ) :=
  if settings.logging then [settings.log.hook emit] else []

end Settings

end SqlTemplate
