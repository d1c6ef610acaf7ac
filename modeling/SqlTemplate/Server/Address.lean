import SqlTemplate.Number.Digits
import SqlTemplate.Text.After
import SqlTemplate.Text.HexDigit
import SqlTemplate.Text.Split

/-! Internet addresses as texts. -/

namespace SqlTemplate.Server

def isOctet (text : List Char) : Bool :=
  text.all Char.isDigit && text.length ≤ 3 && (text == ['0'] || text.head?.any (· != '0')) &&
    Number.ofDigits text ≤ 255

def isAddress4 (text : List Char) : Bool :=
  let pieces := Text.split '.' text
  pieces.length == 4 && pieces.all isOctet

def isGroup (text : List Char) : Bool :=
  !text.isEmpty && text.length ≤ 4 && text.all Text.isHexDigit

/-- The number of groups in a text; an address of four numbers at its end, where one may stand,
counts as two. -/
def groupCount? (address4 : Bool) (text : List Char) : Option Nat :=
  if text.isEmpty then some 0
  else
    let pieces := Text.split ':' text
    let early := pieces.dropLast
    let last := pieces.getLast?.getD []
    if !early.all isGroup then none
    else if isGroup last then some pieces.length
    else if address4 && isAddress4 last then some (pieces.length + 1)
    else none

/-- Whether a text is an address of eight groups; two colons stand for one or more groups of
zero. -/
def isAddress6 (text : List Char) : Bool :=
  match Text.splitAtFirst? [':', ':'] text with
  | none => groupCount? true text == some 8
  | some (before, after) =>
    match groupCount? false before, groupCount? true after with
    | some early, some late => early + late ≤ 7
    | _, _ => false

def isAddress (text : List Char) : Bool :=
  isAddress4 text || isAddress6 text

end SqlTemplate.Server
