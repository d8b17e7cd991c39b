/-
This file draws tables. A heavy frame runs around the titles of the columns and a light
one around the rows. Every column is as wide as its widest cell with a space on each side.
If the table is too wide for its console, the last column gives way, and its cells are
broken into lines; if that is not enough, all columns give way, and what is still too long
is cut off. A row is as high as its highest cell. A title is one word.
-/

import LlmTxt.Terminal.Wrap

namespace LlmTxt.Terminal

/-- A column of a table. -/
structure Column where
  title : String
  alignment : Alignment
deriving DecidableEq, Repr

/-- A table: all columns but the last, the last, which gives way, and the cells of the rows. -/
structure Table where
  fixed : List Column
  last : Column
  rows : List (List (List Char))
deriving DecidableEq, Repr

/-- The characters of a line across a table. -/
structure Rule where
  left : Char
  fill : Char
  cross : Char
  right : Char
deriving DecidableEq, Repr

namespace Rule

/-- The upper edge of a table. -/
def top : Rule := ⟨'┏', '━', '┳', '┓'⟩

/-- The line below the titles. -/
def belowTitles : Rule := ⟨'┡', '━', '╇', '┩'⟩

/-- The lower edge of a table. -/
def bottom : Rule := ⟨'└', '─', '┴', '┘'⟩

/-- The line across columns of some widths. -/
def line (rule : Rule) (widths : List Nat) : List Char :=
  rule.left ::
    [rule.cross].intercalate (widths.map fun width => List.replicate width rule.fill) ++
    [rule.right]

end Rule

namespace Table

/-- The columns of a table. -/
def columns (table : Table) : List Column :=
  table.fixed ++ [table.last]

/-- The titles of the columns. -/
def titles (table : Table) : List (List Char) :=
  table.columns.map fun column => column.title.toList

/-- The width that the cells at an index ask for, with a space on each side. -/
def naturalWidth (table : Table) (index : Nat) : Nat :=
  ((table.titles :: table.rows).map fun row => widest (row.getD index [])).foldl max 0 + 2

/-- The width that a cell asks for in a column that has some places at most. Where there is no place
between the spaces, it asks for all. -/
def askedWidth (most natural : Nat) : Nat :=
  if most < 3 then most else min natural most

/-- A number divided by another, to the nearest number, and between two to the even one. -/
def nearestShare (number parts : Nat) : Nat :=
  let share := number / parts
  let twice := 2 * (number % parts)
  if twice < parts || (twice = parts && share % 2 = 0) then share else share + 1

/-- Takes as much from each width, as far as there is so much, until nothing of an excess is left.
`sharing` counts the widths that are something. -/
def reduceEvenly (excess sharing : Nat) : List Nat → List Nat
  | [] => []
  | 0 :: rest => 0 :: reduceEvenly excess sharing rest
  | width :: rest =>
    let taken := min width (nearestShare excess sharing)
    (width - taken) :: reduceEvenly (excess - taken) (sharing - 1) rest

/-- The widths that the cells of the columns ask for. -/
def naturalWidths (table : Table) : List Nat :=
  (List.range table.columns.length).map table.naturalWidth

/-- The places of a line across columns of some widths, with an edge before each and one behind. -/
def lineWidth (widths : List Nat) : Nat :=
  widths.foldr (· + ·) (widths.length + 1)

/-- The widths of the columns of a table on a console of some width. If the table is too wide, the
last column gives way; if that is not enough, all do. -/
def widths (table : Table) (room : Nat) : List Nat :=
  let most := room - (table.columns.length + 1)
  let asked := table.naturalWidths.map fun natural => max 1 (askedWidth most natural)
  let excess := lineWidth asked - room
  if excess = 0 then asked
  else
    let yielded := asked.dropLast ++ [asked.getLastD 0 - excess]
    let reduced := reduceEvenly (lineWidth yielded - room) (yielded.countP (0 < ·)) yielded
    reduced.zipWith askedWidth table.naturalWidths

/-- The lines of a cell in a column of some width, with a space on each side. There are none where
the spaces leave no place. -/
def cellLines (column : Column) (wraps : Bool) (width : Nat) (text : List Char) :
    List (List Char) :=
  if width < 3 then []
  else
    (layOut ⟨width - 2, wraps, .ellipsis, column.alignment⟩ text).map fun line =>
      ' ' :: fit (width - 2) line ++ [' ']

/-- The lines of a row: its cells side by side, between edges of one kind. -/
def rowLines (table : Table) (widths : List Nat) (edge : Char) (row : List (List Char)) :
    List (List Char) :=
  let cells := (table.columns.zip (widths.zip row)).zipIdx.map fun ((column, width, text), index) =>
    (width, cellLines column (index = table.fixed.length) width text)
  let height := (cells.map fun cell => cell.2.length).foldl max 1
  (List.range height).map fun number =>
    edge :: [edge].intercalate (cells.map fun (width, lines) =>
      lines.getD number (List.replicate width ' ')) ++ [edge]

/-- The lines of a table on a console of some width. They are cut where they are too long for it. -/
def lines (table : Table) (room : Nat) : List (List Char) :=
  let widths := table.widths room
  let drawn := Rule.top.line widths :: table.rowLines widths '┃' table.titles ++
    Rule.belowTitles.line widths :: table.rows.flatMap (table.rowLines widths '│') ++
    [Rule.bottom.line widths]
  if lineWidth widths ≤ room then drawn else drawn.map (fit room)

end Table

end LlmTxt.Terminal
