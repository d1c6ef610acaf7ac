import SqlTemplate.Query
import SqlTemplate.Server.ConnectionString

/-! Pools of connections to a server. -/

namespace SqlTemplate.Server

structure Pool where
  settings : List Setting
  capacity : Nat
  isClosed : Bool
  deriving DecidableEq, Repr

namespace Pool

def usualCapacity : Nat := 16

def ofUrl (url : String) (capacity : Nat) : Except Error Pool :=
  match ConnectionString.read? url with
  | some settings => .ok ⟨settings, capacity, false⟩
  | none => .error (.connection ("invalid database url: " ++ ConnectionString.malformed))

def refused (message : String) : Error :=
  .pool ("Error occurred while creating a new object: " ++ message)

def close (pool : Pool) : Pool :=
  { pool with isClosed := true }

def connection {σ ρ : Type} (pool : Pool) (server : Connection σ ρ) : Connection σ ρ where
  send := fun sql values =>
    if pool.isClosed then pure ⟨.error (.pool "Pool has been closed"), 0⟩
    else server.send sql values

end Pool

end SqlTemplate.Server
