import SqlTemplate.Model
import SqlTemplate.Text.FileName

/-! Loading queries and models from text and from files. -/

namespace SqlTemplate

/-- What a text is loaded as: a schema gives a model, any other text a query. -/
inductive Loaded (σ ρ : Type)
  | query (query : Query σ ρ)
  | model (model : Model σ ρ)

namespace Loaded

variable {σ ρ : Type}

def query? : Loaded σ ρ → Option (Query σ ρ)
  | query q => some q
  | model _ => none

def model? : Loaded σ ρ → Option (Model σ ρ)
  | query _ => none
  | model m => some m

end Loaded

namespace Database

variable {σ ρ : Type}

/-- The model of a schema; `name` names the entity if the schema does not. -/
def modelOfSchema (database : Database σ ρ) (text name : String) : Except Error (Model σ ρ) :=
  match Schema.entityOf text name with
  | .ok entity => Model.ofEntity database entity
  | .error flaw => .error (.schema flaw)

def load (database : Database σ ρ) (text name : String) : Except Error (Loaded σ ρ) :=
  if Schema.isSchema text then (database.modelOfSchema text name).map .model
  else (database.query text name).map .query

/-- Loads what was read from a file; the name of the file without its extension names the entity
or the query. -/
def loadFile (database : Database σ ρ) (path : String) (content : Except FileFlaw String) :
    Except Error (Loaded σ ρ) :=
  match content with
  | .ok text => database.load text ((Text.fileStem? path).getD "query")
  | .error flaw => .error (.file path flaw)

end Database

end SqlTemplate
