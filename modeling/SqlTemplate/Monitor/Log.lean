import SqlTemplate.Monitor.Hook

/-! Log events, and the hook that logs every execution. -/

namespace SqlTemplate

inductive LogLevel
  | error
  | warn
  | info
  | debug
  | trace
  deriving DecidableEq, Repr

def LogLevel.word : LogLevel → String
  | error => "ERROR"
  | warn => "WARN"
  | info => "INFO"
  | debug => "DEBUG"
  | trace => "TRACE"

structure LogEvent where
  target : String
  level : LogLevel
  fields : List (String × String)
  deriving DecidableEq, Repr

/-- How executions are logged: the level of ordinary events, and the greatest number of bytes of a
statement that is shown. -/
structure SqlLog where
  level : LogLevel
  limit : Option Nat
  deriving DecidableEq, Repr

namespace SqlLog

def default : SqlLog := ⟨.debug, some 240⟩

def target : String := "sqlify.sql"

def shown (log : SqlLog) (sql : String) : String :=
  let compact := Text.unwords sql.toList
  String.ofList <|
    match log.limit with
    | some limit => Text.shorten limit compact
    | none => compact

def tagText (tag : Option String) : String :=
  tag.getD "-"

def invoking (log : SqlLog) (context : Context) : LogEvent :=
  ⟨target, log.level, [
    ("message", "invoking"),
    ("tag", tagText context.tag),
    ("kind", context.kind.word),
    ("named", Text.listed (context.named.map Text.quoted)),
    ("computed", String.ofList (Number.digits context.computed)),
    ("sql", log.shown context.sql)]⟩

/-- The event after an execution; a failure is a warning whatever the level. -/
def invoked (log : SqlLog) (context : Context) (outcome : Outcome) : LogEvent :=
  match outcome with
  | .failure message =>
    ⟨target, .warn, [
      ("message", "invocation failed"),
      ("tag", tagText context.tag),
      ("error", message),
      ("sql", log.shown context.sql)]⟩
  | .rows _ =>
    ⟨target, log.level, [
      ("message", "invocation finished"),
      ("tag", tagText context.tag),
      ("result", outcome.display)]⟩

def hook {σ : Type} (log : SqlLog) (emit : LogEvent → StateM σ Unit) : Hook σ :=
  { before := fun context => do
      emit (log.invoking context)
      pure .proceed
    after := fun context _ outcome => emit (log.invoked context outcome) }

end SqlLog

end SqlTemplate
