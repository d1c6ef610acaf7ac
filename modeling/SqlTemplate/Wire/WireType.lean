/-! Types of parameters and columns on the wire. -/

namespace SqlTemplate

/-- A type of the server; those that values are never encoded for specially are known by name. -/
inductive WireType
  | bool
  | int2
  | int4
  | int8
  | float4
  | float8
  | numeric
  | text
  | varchar
  | bpchar
  | name
  | unknown
  | date
  | timestamp
  | timestamptz
  | json
  | jsonb
  | named (label : String)
  deriving DecidableEq, Repr

namespace WireType

def known : List (String × WireType) := [
  ("bool", bool), ("int2", int2), ("int4", int4), ("int8", int8), ("float4", float4),
  ("float8", float8), ("numeric", numeric), ("text", text), ("varchar", varchar),
  ("bpchar", bpchar), ("name", name), ("unknown", unknown), ("date", date),
  ("timestamp", timestamp), ("timestamptz", timestamptz), ("json", json), ("jsonb", jsonb)]

def ofName (name : String) : WireType :=
  match known.find? fun entry => entry.1 == name with
  | some entry => entry.2
  | none => named name

def toName (type : WireType) : String :=
  match type with
  | named label => label
  | type => ((known.find? fun entry => entry.2 == type).map Prod.fst).getD ""

def takesText : WireType → Bool
  | text | varchar | bpchar | name | unknown => true
  | named label => ["citext", "ltree", "lquery", "ltxtquery"].contains label
  | _ => false

def isVersioned : WireType → Bool
  | named label => ["ltree", "lquery", "ltxtquery"].contains label
  | _ => false

end WireType

end SqlTemplate
