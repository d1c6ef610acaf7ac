import SqlTemplate.Number.Power
import SqlTemplate.Server.Address

/-! Settings of a connection to a server. -/

namespace SqlTemplate.Server

inductive Setting
  | host (name : String)
  | address (text : String)
  | port (number : Nat)
  | password (bytes : List UInt8)
  | other (keyword : String) (value : String)
  deriving DecidableEq, Repr

namespace Setting

def natural? (text : List Char) : Option Nat :=
  let digits := match text with
    | '+' :: rest => rest
    | text => text
  if digits.isEmpty || !digits.all Char.isDigit then none
  else some (Number.ofDigits digits)

def isWord (bits : Nat) (text : List Char) : Bool :=
  (natural? text).any (· < Number.twoPow bits)

def isSigned (text : List Char) : Bool :=
  match text with
  | '-' :: '+' :: _ => false
  | '-' :: rest => (natural? rest).any (· ≤ Number.twoPow 63)
  | text => (natural? text).any (· < Number.twoPow 63)

def free : List String := ["user", "dbname", "options", "application_name"]

def chosen : List (String × List String) := [
  ("sslmode", ["disable", "prefer", "require"]),
  ("sslnegotiation", ["postgres", "direct"]),
  ("target_session_attrs", ["any", "read-write", "read-only"]),
  ("channel_binding", ["disable", "prefer", "require"]),
  ("load_balance_hosts", ["disable", "random"])]

def timed : List String :=
  ["connect_timeout", "tcp_user_timeout", "keepalives_idle", "keepalives_interval"]

def isValid (keyword value : String) : Bool :=
  free.contains keyword ||
    (chosen.any fun entry => entry.1 == keyword && entry.2.contains value) ||
    (timed.contains keyword && isSigned value.toList) ||
    (keyword == "keepalives" && isWord 64 value.toList) ||
    (keyword == "keepalives_retries" && isWord 32 value.toList)

/-- A port; an empty text stands for the usual one. -/
def port? (text : List Char) : Option Setting :=
  if text.isEmpty then some (.port 5432)
  else ((natural? text).filter (· < Number.twoPow 16)).map .port

def address? (text : List Char) : Option Setting :=
  if isAddress text then some (.address (String.ofList text)) else none

def read? (keyword value : String) : Option (List Setting) :=
  let items := Text.split ',' value.toList
  match keyword with
  | "host" => some (items.map fun item => .host (String.ofList item))
  | "hostaddr" => items.mapM address?
  | "port" => items.mapM port?
  | "password" => some [.password value.toUTF8.toList]
  | keyword => if isValid keyword value then some [.other keyword value] else none

end Setting

end SqlTemplate.Server
