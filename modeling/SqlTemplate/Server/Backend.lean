import SqlTemplate.Query
import SqlTemplate.Server.Row

/-! Statements sent to a server: prepared, bound and executed. -/

namespace SqlTemplate.Server

/-- What a server does with one statement at a time: it tells the types of its parameters, and then
takes their bytes. -/
structure Backend (σ : Type) where
  prepare : String → StateM σ (Except QueryFailure (List WireType))
  execute : List (Option (List UInt8)) → StateM σ (Except QueryFailure (List Row))

def encodeAll (index : Nat) : List Value → List WireType →
    Except QueryFailure (List (Option (List UInt8)))
  | value :: values, type :: types =>
    match Wire.encode value type with
    | .error cause => .error (.parameter index cause)
    | .ok bytes => do .ok (bytes :: (← encodeAll (index + 1) values types))
  | _, _ => .ok []

def encode (values : List Value) (types : List WireType) :
    Except QueryFailure (List (Option (List UInt8))) :=
  if values.length = types.length then encodeAll 0 values types
  else .error (.parameterCount types.length values.length)

namespace Backend

variable {σ : Type}

def query (backend : Backend σ) (text : String) (values : List Value) :
    StateM σ (Except QueryFailure (List Row)) := do
  match ← backend.prepare text with
  | .error failure => pure (.error failure)
  | .ok types =>
    match encode values types with
    | .error failure => pure (.error failure)
    | .ok bytes => backend.execute bytes

def connection (backend : Backend σ) : Connection σ Row where
  send := fun text values => do
    match ← backend.query text values with
    | .ok rows => pure ⟨.ok rows, 0⟩
    | .error failure => pure ⟨.error (.query failure), 0⟩

end Backend

end SqlTemplate.Server
