import Tabletop.Text.Columns

/-!
# Tabletop.CommandLine.Box — a table drawn with lines

A box has a head and rows of cells. Each column is as wide as its widest cell with a blank on
either side, cells are aligned to the left, and a cell with line breaks takes as many lines as it
has. Lines are dashed between rows and columns, doubled under the head, and solid around the box.
-/

namespace Tabletop.CommandLine.Box

/-- The lines of a cell. -/
def cellLines (cell : String) : List String := cell.splitOn "\n"

/-- The columns that a cell needs. -/
def cellWidth (cell : String) : Nat :=
  ((cellLines cell).map Text.columns).foldl max 1

/-- The wider of two rows of widths, column by column. -/
def widen : List Nat → List Nat → List Nat
  | w :: ws, v :: vs => max w v :: widen ws vs
  | ws, [] => ws
  | [], vs => vs

/-- The width of every column. -/
def widths (rows : List (List String)) : List Nat :=
  rows.foldl (fun ws row => widen ws (row.map cellWidth)) []

/-- A text with blanks up to a width. -/
def pad (width : Nat) (text : String) : String :=
  text ++ String.ofList (List.replicate (width - Text.columns text) ' ')

/-- A horizontal line: its left end, its stroke, its crossings and its right end. -/
structure Rule where
  /-- The left end. -/
  left : String
  /-- What the line is drawn with. -/
  stroke : Char
  /-- Where it crosses a line between columns. -/
  cross : String
  /-- The right end. -/
  right : String

/-- The line above the head. -/
def topRule : Rule := ⟨"┌", '─', "┬", "┐"⟩

/-- The line under the head. -/
def headRule : Rule := ⟨"╞", '═', "╪", "╡"⟩

/-- The line between two rows. -/
def rowRule : Rule := ⟨"├", '╌', "┼", "┤"⟩

/-- The line under the last row. -/
def bottomRule : Rule := ⟨"└", '─', "┴", "┘"⟩

/-- A horizontal line over columns of these widths. -/
def Rule.draw (rule : Rule) (widths : List Nat) : String :=
  rule.left ++
    rule.cross.intercalate
      (widths.map fun w => String.ofList (List.replicate (w + 2) rule.stroke)) ++
    rule.right

/-- One line of a row: the pieces of its cells that stand on that line. -/
def drawLine (widths : List Nat) (pieces : List String) : String :=
  "│" ++ "┆".intercalate ((widths.zip pieces).map fun c => " " ++ pad c.1 c.2 ++ " ") ++ "│"

/-- The lines of a row. -/
def drawRow (widths : List Nat) (row : List String) : List String :=
  let cells := row.map cellLines
  let height := (cells.map List.length).foldl max 0
  (List.range height).map fun i => drawLine widths (cells.map fun lines => lines.getD i "")

/-- Rows with lines between them. -/
def drawRows (widths : List Nat) : List (List String) → List String
  | [] => []
  | [row] => drawRow widths row
  | row :: more :: rest =>
    drawRow widths row ++ rowRule.draw widths :: drawRows widths (more :: rest)

/-- **The lines of a box.** -/
def draw (head : List String) (rows : List (List String)) : List String :=
  let ws := widths (head :: rows)
  topRule.draw ws :: drawRow ws head ++ headRule.draw ws :: drawRows ws rows ++
    [bottomRule.draw ws]

end Tabletop.CommandLine.Box
