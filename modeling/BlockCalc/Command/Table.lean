import BlockCalc.Text.Wrap

/-! # Ruled tables

A table in a frame, with a title centred above it. Every column is as wide as its widest cell and a
space on both sides. If that is more than a screen holds, the widest column gets what the others
leave, and cells that do not fit there end in an ellipsis. -/

namespace BlockCalc

/-- A column: its heading, and whether its cells stand at the right end. -/
structure Column where
  heading : String
  right : Bool

namespace Table

/-- The width of a screen. -/
def screenWidth : Nat := 80

/-- Copies of a character. -/
def copies (n : Nat) (c : Char) : String := String.ofList (List.replicate n c)

/-! ### Widths -/

/-- The widths of the columns with all that is in them. -/
def fullWidths (columns : List Column) (rows : List (List String)) : List Nat :=
  columns.zipIdx.map fun (c, i) =>
    rows.foldl (fun w row => max w (row.getD i "").length) c.heading.length

/-- The width of a table with its frame. -/
def totalWidth (widths : List Nat) : Nat := widths.foldl (fun n w => n + w + 3) 1

/-- Widths of which the greatest is less by what is too much for a screen. -/
def fit (widths : List Nat) : List Nat :=
  let greatest := widths.foldl max 0
  let excess := totalWidth widths - screenWidth
  widths.map fun w => if w = greatest then w - excess else w

/-- The widths of the columns. -/
def widths (columns : List Column) (rows : List (List String)) : List Nat :=
  fit (fullWidths columns rows)

/-! ### Lines -/

/-- A text that ends in an ellipsis if it is too long. -/
def shortened (width : Nat) (s : String) : String :=
  if s.length ≤ width then s else String.ofList (s.toList.take (width - 1)) ++ "…"

/-- A cell with a space on both sides, filled up to the width of its column. -/
def cell (column : Column) (width : Nat) (s : String) : String :=
  let text := shortened width s
  let space := copies (width - text.length) ' '
  if column.right then " " ++ space ++ text ++ " " else " " ++ text ++ space ++ " "

/-- A line of cells between bars. -/
def line (bar : String) (columns : List Column) (widths : List Nat) (row : List String) : String :=
  bar ++ bar.intercalate ((columns.zip widths).zip row |>.map fun ((c, w), s) => cell c w s) ++ bar

/-- A rule, with its left end, its crossings and its right end. -/
def rule (dash : Char) (left crossing right : String) (widths : List Nat) : String :=
  left ++ crossing.intercalate (widths.map fun w => copies (w + 2) dash) ++ right

/-- A table with its title, every line ended. -/
def render (title : List Char) (columns : List Column) (rows : List (List String)) : String :=
  let ws := widths columns rows
  let lines :=
    (centredLines (totalWidth ws) title).map String.ofList
      ++ [rule '━' "┏" "┳" "┓" ws, line "┃" columns ws (columns.map (·.heading)),
        rule '━' "┡" "╇" "┩" ws]
      ++ rows.map (line "│" columns ws)
      ++ [rule '─' "└" "┴" "┘" ws]
  String.join (lines.map (· ++ "\n"))

end Table

end BlockCalc
