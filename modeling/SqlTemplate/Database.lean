import SqlTemplate.Query
import SqlTemplate.Settings
import SqlTemplate.Template.Builder

/-! A connection with settings, on which queries are made. -/

namespace SqlTemplate

structure Database (σ ρ : Type) where
  connection : Connection σ ρ
  settings : Settings
  emit : LogEvent → StateM σ Unit

namespace Database

variable {σ ρ : Type}

def bind (database : Database σ ρ) (statement : Statement (Compute σ)) (name : Option String) :
    Query σ ρ :=
  { connection := database.connection
    statement
    hooks := database.settings.hooks database.emit
    tag := database.settings.tag? name }

def bindCompiled (database : Database σ ρ) (name : Option String) :
    Except TemplateError (Statement (Compute σ)) → Except Error (Query σ ρ)
  | .ok statement => .ok (database.bind statement name)
  | .error e => .error (.template e)

def ofTemplate (database : Database σ ρ) (template : Template (Compute σ)) :
    Except Error (Query σ ρ) :=
  database.bindCompiled none template.toStatement

def query (database : Database σ ρ) (text : String) (name : Option String) :
    Except Error (Query σ ρ) :=
  database.bindCompiled name (Statement.parse text)

end Database

end SqlTemplate
