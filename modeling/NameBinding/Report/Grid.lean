/-
This file draws tables of text. Every column is as wide as its widest cell, with a blank on both
sides; a frame with round corners stands around the table, and a line under its first row, which holds
the headings. A cell of several lines makes its row that high.
-/

import NameBinding.Text.Width

namespace NameBinding

namespace Grid

/-- A character written so many times. -/
def repeated (c : Char) (count : Nat) : String :=
  String.ofList (List.replicate count c)

/-- The lines of a cell. -/
def lines (cell : String) : List String :=
  (cell.toList.splitOn '\n').map String.ofList

/-- The columns that a cell takes. -/
def cellWidth (cell : String) : Nat :=
  (lines cell).foldl (fun width line => max width (columns line)) 0

/-- The greater of two numbers at each place; a list that is shorter counts as zero there. -/
def maxEach : List Nat → List Nat → List Nat
  | [], widths => widths
  | widths, [] => widths
  | a :: as, b :: bs => max a b :: maxEach as bs

/-- The width of each column. -/
def widths (rows : List (List String)) : List Nat :=
  rows.foldl (fun widths row => maxEach widths (row.map cellWidth)) []

/-- A rule across the table: its left end, the joints between the columns, and its right end. -/
def rule (left joint right : String) (widths : List Nat) : String :=
  left ++ String.intercalate joint (widths.map fun width => repeated '─' (width + 2)) ++ right

/-- A line of a cell, filled up to the width of its column, with a blank on both sides. -/
def pad (width : Nat) (line : String) : String :=
  " " ++ line ++ repeated ' ' (width - columns line) ++ " "

/-- One line of a row. -/
def rowLine (widths : List Nat) (row : List String) (index : Nat) : String :=
  let cells := (widths.zip row).map fun (width, cell) => pad width ((lines cell).getD index "")
  "│" ++ String.intercalate "│" cells ++ "│"

/-- The lines of a row. -/
def rowLines (widths : List Nat) (row : List String) : List String :=
  let height := row.foldl (fun height cell => max height (lines cell).length) 1
  (List.range height).map (rowLine widths row)

/-- The table with these headings and rows. -/
def draw (headings : List String) (rows : List (List String)) : String :=
  let widths := widths (headings :: rows)
  String.intercalate "\n"
    (rule "╭" "┬" "╮" widths :: rowLines widths headings ++ rule "├" "┼" "┤" widths ::
      rows.flatMap (rowLines widths) ++ [rule "╰" "┴" "╯" widths])

end Grid

end NameBinding
