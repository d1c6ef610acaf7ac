import SqlTemplate.CommandLine.Configuration
import SqlTemplate.CommandLine.EnvFile
import SqlTemplate.CommandLine.Help
import SqlTemplate.Json.Pretty
import SqlTemplate.Loading
import SqlTemplate.Server.ConnectionString
import SqlTemplate.Server.Row

/-! Runs of the program: what they print, and why they fail. -/

namespace SqlTemplate.CommandLine

inductive Failure
  | usage (cause : UsageError)
  | file (path : String) (flaw : FileFlaw)
  | configuration (cause : Configuration.LoadError)
  | noUrl
  | connect (message : String)
  | database (cause : Error)

def causes : Error → List String
  | .query failure => failure.message :: failure.cause?.toList
  | .file _ flaw => [flaw.message]
  | _ => []

def Failure.message : Failure → String
  | usage cause => cause.message
  | file path flaw => "failed to read " ++ path ++ ": " ++ flaw.message
  | configuration cause => cause.message
  | noUrl => "no database url: pass --database, set database.url or DATABASE_URL"
  | connect message => "failed to connect to database: " ++ message
  | database cause => String.intercalate ": " (cause.message :: causes cause)

structure Transcript where
  out : String
  err : String
  failure : Option Failure

namespace Transcript

def printed (out : String) : Transcript := ⟨out, "", none⟩

def failed (failure : Failure) : Transcript := ⟨"", "", some failure⟩

end Transcript

structure Surroundings (σ : Type) where
  file : String → Except FileFlaw String
  environment : List (String × String)
  connect : List Server.Setting → StateM σ (Except String (Connection σ Server.Row))
  emit : LogEvent → StateM σ Unit

namespace Surroundings

variable {σ : Type}

def valueOf? (around : Surroundings σ) (name : String) : Option String :=
  Keyed.find? name around.environment

def envFile : String := ".env"

def withEnvFile (around : Surroundings σ) : Surroundings σ :=
  match around.file envFile with
  | .ok text => { around with environment := EnvFile.load around.environment text }
  | .error _ => around

end Surroundings

variable {σ : Type}

def gridText (header : List String) (rows : List (List String)) : String :=
  let grid : Text.Grid := ⟨header.map String.toList, rows.map (List.map String.toList)⟩
  String.ofList grid.text ++ "\n"

def paramRows {τ : Type} (next : Nat) : List (Param τ) → List (List String)
  | [] => []
  | param :: rest =>
    [String.ofList (Statement.marker next), param.name, param.type.tag] :: paramRows (next + 1) rest

def statementText {τ : Type} (statement : Statement τ) : String :=
  String.ofList (Text.trim statement.text.toList) ++ "\n\n" ++
    if statement.params.isEmpty then "(no parameters)\n"
    else gridText ["Marker", "Name", "Type"] (paramRows 1 statement.params)

def schemaNote (file : String) : String :=
  "note: " ++ file ++ " looks like a schema; see `sqlify schema` for its entity\n"

def compileFile (file : String) (content : Except FileFlaw String) : Transcript :=
  match content with
  | .error flaw => .failed (.file file flaw)
  | .ok text =>
    let err := if Schema.isSchema text then schemaNote file else ""
    match Statement.parse (τ := Unit) text with
    | .ok statement => ⟨statementText statement, err, none⟩
    | .error e => ⟨"", err, some (.database (.template e))⟩

def columnDocument (column : Column) : Json :=
  .object [("name", .string column.name), ("sql_type", .string column.sqlType),
    ("ty", .string column.type.word)]

def entityDocument (entity : Entity) : Json :=
  .object [("name", .string entity.name), ("kind", .string entity.kind.word),
    ("fields", .array (entity.columns.map columnDocument))]

def columnRow (column : Column) : List String :=
  let type := match column.type.paramType? with
    | some type => type.tag
    | none => "unknown"
  [column.name, column.sqlType, type]

def entityText (entity : Entity) : String :=
  "Entity: " ++ entity.name ++ " (" ++ entity.kind.name ++ ")\n" ++
    if entity.columns.isEmpty then "(no fields found)\n"
    else gridText ["Field", "SQL type", "Type"] (entity.columns.map columnRow)

/-- Shows the entity of a file, whose name names the entity if the schema does not. -/
def showEntity (file : String) (json : Bool) (content : Except FileFlaw String) : Transcript :=
  match content with
  | .error flaw => .failed (.file file flaw)
  | .ok text =>
    match Schema.entityOf text ((Text.fileStem? file).getD "") with
    | .error flaw => .failed (.database (.schema flaw))
    | .ok entity =>
      if json then .printed (String.ofList ((entityDocument entity).prettyText 0) ++ "\n")
      else .printed (entityText entity)

/-- The value of an argument: what it denotes as JSON, except for strings, or the text itself. -/
def argumentValue (text : String) : Value :=
  match Json.read text with
  | .ok (.string _) => .text text
  | .ok document => .ofJson document
  | .error _ => .text text

def rowsText (rows : List Server.Row) : String :=
  let grid := match Server.Row.grid? rows with
    | some grid => String.ofList grid.text ++ "\n"
    | none => "(no rows)\n"
  grid ++ "OK " ++ String.ofList (Number.digits rows.length) ++ " row(s)\n"

def settingsOf (configuration : Configuration) : Settings :=
  { Settings.default with tagStart := some "cli", logging := configuration.logsStatements }

/-- Loads a file and executes its query; the rows of a schema's entity are listed. -/
def execute (database : Database σ Server.Row) (options : RunOptions)
    (content : Except FileFlaw String) : StateM σ (Except Error (List Server.Row)) :=
  let args := Args.ofList (options.args.map fun (name, text) => (name, argumentValue text))
  match database.loadFile options.file content with
  | .error e => pure (.error e)
  | .ok (.query query) => query.invoke (some args)
  | .ok (.model model) => model.find.invoke none

/-- The URL of the database: from the arguments, the configuration or the environment. -/
def url? (around : Surroundings σ) (options : RunOptions) (configuration : Configuration) :
    Option String :=
  options.database.orElse fun _ =>
    configuration.url.orElse fun _ => around.valueOf? "DATABASE_URL"

def connect (around : Surroundings σ) (url : String) :
    StateM σ (Except String (Connection σ Server.Row)) :=
  match Server.ConnectionString.read? url with
  | some settings =>
    if Server.ConnectionString.isComplete settings then around.connect settings
    else pure (.error "invalid configuration")
  | none => pure (.error Server.ConnectionString.malformed)

def runFile (around : Surroundings σ) (options : RunOptions) : StateM σ Transcript := do
  match Configuration.load around.valueOf? options.config options.configRequired
      (around.file options.config) with
  | .error e => pure (.failed (.configuration e))
  | .ok configuration =>
    match url? around options configuration with
    | none => pure (.failed .noUrl)
    | some url =>
      match ← connect around url with
      | .error message => pure (.failed (.connect message))
      | .ok connection =>
        let database : Database σ Server.Row :=
          ⟨connection, settingsOf configuration, around.emit⟩
        match ← execute database options (around.file options.file) with
        | .ok rows => pure (.printed (rowsText rows))
        | .error e => pure (.failed (.database e))

def run (around : Surroundings σ) (arguments : List String) : StateM σ Transcript :=
  let around := around.withEnvFile
  match Command.read arguments with
  | .error e => pure (.failed (.usage e))
  | .ok (.help topic) => pure (.printed topic.text)
  | .ok (.compile file) => pure (compileFile file (around.file file))
  | .ok (.schema file json) => pure (showEntity file json (around.file file))
  | .ok (.run options) => runFile around options

end SqlTemplate.CommandLine
