import TidyImports.Console.Markup
import TidyImports.Text.LineBreak

/-!
# Tables

A table has a title, columns with headings, and rows of cells; all texts are markup. A column is as
wide as its widest line with a blank on each side, a cell of several lines makes several rows, and
the title, unless it is empty, is centred above. Where the columns leave no room for each other,
`shrinkTo` makes the widest of them narrower.
-/

namespace TidyImports

structure Grid.Column where
  heading : Text
  justify : Wrap.Justify := .left

structure Grid where
  title : Text
  columns : List Grid.Column
  rows : List (List Text)

namespace Grid

/-! ## Widths -/

/-- The columns of the widest line of a text. -/
def widest (text : Text) : Nat := ((Text.cutBare text).map Text.columns).foldl max 0

/-- The width of a column with the blanks at its sides. -/
def columnWidth (cells : List Marked) : Nat :=
  (cells.map fun cell => widest cell.text).foldl max 0 + 2

/-- Takes the excess in equal parts from the `count` columns that are as wide as `top`, at most
`most` from each. -/
def lower (top most : Nat) : (excess count : Nat) → List Nat → List Nat
  | _, _, [] => []
  | excess, count, w :: rest =>
    if w = top then
      let cut := min most (Binary64.divideToEven excess count)
      (w - cut) :: lower top most (excess - cut) (count - 1) rest
    else w :: lower top most excess count rest

def totalWidth (ws : List Nat) : Nat := ws.foldl (· + ·) 0

/-- Lowers the widest columns to the next narrower ones until all fit into the room. The fuel bounds
the count of different widths. -/
def shrinkTo (room : Nat) : (fuel : Nat) → List Nat → List Nat
  | 0, ws => ws
  | fuel + 1, ws =>
    if totalWidth ws ≤ room then ws
    else
      let top := ws.foldl max 0
      let next := (ws.filter (· ≠ top)).foldl max 0
      let excess := totalWidth ws - room
      shrinkTo room fuel (lower top (min excess (top - next)) excess (ws.count top) ws)

/-- The widths of the columns in a table that is at most so wide. -/
def widths (room : Nat) (columns : List (List Marked)) : List Nat :=
  let ws := columns.map columnWidth
  let inner := room - (ws.length + 1)
  shrinkTo inner (ws.length + 1) (ws.map (min inner))

/-! ## Lines -/

/-- A rule from the left corner to the right one. -/
def rule (left bar cross right : Char) (ws : List Nat) : Text :=
  left :: Text.joinWith [cross] (ws.map fun w => List.replicate w bar) ++ [right]

/-- One line through all cells. -/
def lineOf (edge : Char) (cells : List Text) : Text :=
  edge :: cells.flatMap fun cell => ' ' :: cell ++ [' ', edge]

/-- The lines of each cell of a row in its column. -/
def cellLines : List (Column × Nat) → List Marked → Except Failure (List (Nat × List Text))
  | (c, w) :: columns, cell :: cells => do
    let ls ← cell.lines c.justify .ellipsis (w - 2)
    let others ← cellLines columns cells
    pure ((w - 2, ls) :: others)
  | _, _ => .ok []

/-- The lines of a row; a cell with fewer lines than another is filled up with blanks. -/
def rowLines (edge : Char) (columns : List (Column × Nat)) (cells : List Marked) :
    Except Failure (List Text) := do
  let blocks ← cellLines columns cells
  let height := blocks.foldl (fun h b => max h b.2.length) 0
  pure ((List.range height).map fun i =>
    lineOf edge (blocks.map fun (w, ls) => ls.getD i (Wrap.blanks w)))

def allRows (columns : List (Column × Nat)) : List (List Marked) → Except Failure (List Text)
  | [] => .ok []
  | row :: rest => do
    let ls ← rowLines '│' columns row
    let others ← allRows columns rest
    pure (ls ++ others)

/-! ## Tables -/

def renderAll : List Text → Except Failure (List Marked)
  | [] => .ok []
  | markup :: rest => do
    let cell ← Markup.render markup
    let cells ← renderAll rest
    pure (cell :: cells)

/-- The headings and cells from the column numbered `n` on, column by column. -/
def renderColumns (rows : List (List Text)) (n : Nat) :
    List Column → Except Failure (List (List Marked))
  | [] => .ok []
  | c :: rest => do
    let cells ← renderAll (c.heading :: rows.map fun row => row.getD n [])
    let others ← renderColumns rows (n + 1) rest
    pure (cells :: others)

def titleLines (width : Nat) (title : Text) : Except Failure (List Text) :=
  if title.isEmpty then .ok []
  else do (← Markup.render title).lines .center .fold width

/-- A table that is at most `room` wide. -/
def render (room : Nat) (grid : Grid) : Except Failure Text := do
  let cells ← renderColumns grid.rows 0 grid.columns
  let ws := widths room cells
  let columns := grid.columns.zip ws
  let rowOf := fun i => cells.map fun column => column.getD i {}
  let title ← titleLines (totalWidth ws + ws.length + 1) grid.title
  let head ← rowLines '┃' columns (rowOf 0)
  let body ← allRows columns ((List.range grid.rows.length).map fun i => rowOf (i + 1))
  let all :=
    title ++ [rule '┏' '━' '┳' '┓' ws] ++ head ++ [rule '┡' '━' '╇' '┩' ws] ++ body ++
      [rule '└' '─' '┴' '┘' ws]
  pure (all.flatMap (· ++ ['\n']))

end Grid
end TidyImports
