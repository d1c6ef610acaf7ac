import SqlTemplate.Text.Grid
import SqlTemplate.Wire.Decode

/-! Rows that a server answers with. -/

namespace SqlTemplate.Server

structure ResultColumn where
  name : String
  type : WireType
  deriving DecidableEq, Repr

structure Row where
  columns : List ResultColumn
  cells : List (Option (List UInt8))
  deriving DecidableEq, Repr

namespace Row

def texts (row : Row) : List (List Char) :=
  (row.columns.zip row.cells).map fun (column, cell) => Wire.cellText column.type cell

/-- The grid of some rows under the columns of the first; no rows have none. -/
def grid? : List Row → Option Text.Grid
  | [] => none
  | first :: rest =>
    some ⟨first.columns.map fun column => column.name.toList, (first :: rest).map texts⟩

end Row

end SqlTemplate.Server
