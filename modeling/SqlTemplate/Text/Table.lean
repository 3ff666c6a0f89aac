import SqlTemplate.Text.Segments
import SqlTemplate.Text.Width

namespace SqlTemplate.Text

abbrev Cell := List (List Char)

namespace Table

def cell (s : String) : Cell := splitOn '\n' s.toList

def cellWidth (c : Cell) : Nat := (c.map width).foldl max 0

def columnWidths : List (List Cell) → List Nat
  | [] => []
  | [row] => row.map cellWidth
  | row :: rows => (row.zip (columnWidths rows)).map fun (c, w) => max (cellWidth c) w

def padCell (columnWidth : Nat) (line : List Char) : List Char :=
  [' '] ++ line ++ List.replicate (columnWidth - width line) ' ' ++ [' ']

def framed (left between right : Char) (parts : List (List Char)) : List Char :=
  [left] ++ List.intercalate [between] parts ++ [right]

def rule (left fill between right : Char) (widths : List Nat) : List Char :=
  framed left between right (widths.map fun w => List.replicate (w + 2) fill)

def rowLines (widths : List Nat) (row : List Cell) : List (List Char) :=
  let height := (row.map List.length).foldl max 0
  (List.range height).map fun i =>
    framed '│' '┆' '│' ((row.zip widths).map fun (cell, w) => padCell w (cell[i]?.getD []))

def bodyLines (widths : List Nat) : List (List Cell) → List (List Char)
  | [] => []
  | [row] => rowLines widths row
  | row :: rows => rowLines widths row ++ [rule '├' '╌' '┼' '┤' widths] ++ bodyLines widths rows

def lines (header : List Cell) (rows : List (List Cell)) : List (List Char) :=
  let widths := columnWidths (header :: rows)
  [rule '┌' '─' '┬' '┐' widths] ++ rowLines widths header ++ [rule '╞' '═' '╪' '╡' widths]
    ++ bodyLines widths rows ++ [rule '└' '─' '┴' '┘' widths]

def render (header : List String) (rows : List (List String)) : String :=
  String.ofList (List.intercalate ['\n'] (lines (header.map cell) (rows.map (·.map cell))))

end Table
end SqlTemplate.Text
