import SqlTemplate.Text.Split
import SqlTemplate.Text.Width

/-! Grids of cells drawn with box characters. -/

namespace SqlTemplate.Text

structure Grid where
  header : List (List Char)
  rows : List (List (List Char))

namespace Grid

def cellWidth (cell : List Char) : Nat :=
  ((split '\n' cell).map width).foldl max 0

/-- The greatest width of each column of some rows; the widths so far are given. -/
def widen : List Nat → List (List Char) → List Nat
  | [], cells => cells.map cellWidth
  | widths, [] => widths
  | w :: widths, cell :: cells => max w (cellWidth cell) :: widen widths cells

def widths (grid : Grid) : List Nat :=
  grid.rows.foldl widen (widen (grid.header.map fun _ => 1) grid.header)

def pad (columns : Nat) (line : List Char) : List Char :=
  line ++ List.replicate (columns - width line) ' '

structure Rule where
  left : Char
  stroke : Char
  cross : Char
  right : Char

def top : Rule := ⟨'┌', '─', '┬', '┐'⟩

def underHeader : Rule := ⟨'╞', '═', '╪', '╡'⟩

def between : Rule := ⟨'├', '╌', '┼', '┤'⟩

def bottom : Rule := ⟨'└', '─', '┴', '┘'⟩

def Rule.draw (rule : Rule) (widths : List Nat) : List Char :=
  let strokes := widths.map fun w => List.replicate (w + 2) rule.stroke
  rule.left :: ((strokes.intersperse [rule.cross]).flatten ++ [rule.right])

def drawLine (widths : List Nat) (line : List (List Char)) : List Char :=
  let cells := (widths.zip line).map fun (w, text) => ' ' :: (pad w text ++ [' '])
  '│' :: ((cells.intersperse ['┆']).flatten ++ ['│'])

/-- The lines of a row; a cell of fewer lines than others is blank below. -/
def drawRow (widths : List Nat) (cells : List (List Char)) : List (List Char) :=
  let lines := cells.map (split '\n')
  let height := (lines.map List.length).foldl max 1
  (List.range height).map fun i => drawLine widths (lines.map fun cell => cell[i]?.getD [])

def drawRows (widths : List Nat) (rows : List (List (List Char))) : List (List Char) :=
  ((rows.map (drawRow widths)).intersperse [between.draw widths]).flatten

def draw (grid : Grid) : List (List Char) :=
  let widths := grid.widths
  top.draw widths :: (drawRow widths grid.header ++ [underHeader.draw widths] ++
    drawRows widths grid.rows ++ [bottom.draw widths])

def text (grid : Grid) : List Char :=
  (grid.draw.intersperse ['\n']).flatten

end Grid

end SqlTemplate.Text
