import SqlTemplate.Database
import SqlTemplate.Model.Command

/-! Finding, creating, updating and deleting the rows of an entity. -/

namespace SqlTemplate

structure Model (σ ρ : Type) where
  database : Database σ ρ
  entity : Entity
  table : Ident
  key : Ident
  hooks : List (Hook σ)
  find : Query σ ρ
  findOne : Query σ ρ

namespace Model

variable {σ ρ : Type}

def findText (table : Ident) : String :=
  "SELECT * FROM " ++ String.ofList table.text

def findOneText (table key : Ident) (settings : Settings) : String :=
  findText table ++ " WHERE " ++ String.ofList key.text ++ " = $(" ++ settings.key ++ "):" ++
    settings.keyType.tag ++ " LIMIT 1"

def operationName (entity : Entity) (operation : String) : String :=
  entity.name ++ "." ++ operation

def ofEntity (database : Database σ ρ) (entity : Entity) : Except Error (Model σ ρ) := do
  let settings := database.settings
  let table ← Ident.require entity.name
  let key ← Ident.require settings.key
  if settings.key.toList.all Text.isAsciiWord then
    let find ← database.query (findText table) (operationName entity "find")
    let findOne ←
      database.query (findOneText table key settings) (operationName entity "find_one")
    .ok ⟨database, entity, table, key, settings.hooks database.emit, find, findOne⟩
  else .error (.primaryKey settings.key)

def undeclaredEvent (entity : Entity) (name : String) : LogEvent :=
  ⟨"sqlify.model", .warn, [
    ("message", "column is not declared by the entity"),
    ("entity", entity.name),
    ("column", name)]⟩

def report (model : Model σ ρ) (data : Args) : StateM σ Unit :=
  (Assignment.undeclared model.entity data.entries).forM fun name =>
    model.database.emit (undeclaredEvent model.entity name)

def keyOf (model : Model σ ρ) (id : Value) : Except Error Assignment :=
  let name := String.ofList model.key.name
  let type := model.database.settings.keyType
  match checkParam name type id with
  | .ok () => .ok ⟨model.key, name, type, id⟩
  | .error e => .error (.bind e)

def createCommand (model : Model σ ρ) (data : Args) : Except Error Command := do
  .ok (.insert model.table (← Assignment.readAll model.entity data.entries))

def updateCommand (model : Model σ ρ) (id : Value) (data : Args) : Except Error Command := do
  let slots ← Assignment.readAll model.entity data.entries
  if slots.isEmpty then .error (.emptyUpdate model.entity.name)
  else .ok (.update model.table (← model.keyOf id) slots)

def deleteCommand (model : Model σ ρ) (id : Value) : Except Error Command := do
  .ok (.delete model.table (← model.keyOf id))

def queryOf (model : Model σ ρ) (operation : String) (command : Command) : Query σ ρ :=
  { connection := model.database.connection
    statement := command.statement
    hooks := model.hooks
    tag := some (model.database.settings.tagFor (operationName model.entity operation)) }

def run (model : Model σ ρ) (operation : String) :
    Except Error Command → StateM σ (Except Error (List ρ))
  | .error e => pure (.error e)
  | .ok command => (model.queryOf operation command).execute command.values

def create (model : Model σ ρ) (data : Args) : StateM σ (Except Error (List ρ)) := do
  model.report data
  model.run "create" (model.createCommand data)

def update (model : Model σ ρ) (id : Value) (data : Args) :
    StateM σ (Except Error (List ρ)) := do
  model.report data
  model.run "update" (model.updateCommand id data)

def delete (model : Model σ ρ) (id : Value) : StateM σ (Except Error (List ρ)) :=
  model.run "delete" (model.deleteCommand id)

def quoted (model : Model σ ρ) : String :=
  "Model \x7b entity: " ++ model.entity.quoted ++
    ", table: " ++ Text.quoted (String.ofList model.table.text) ++
    ", primary_key: " ++ Text.quoted (String.ofList model.key.text) ++ " \x7d"

end Model

end SqlTemplate
