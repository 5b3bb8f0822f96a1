/-
This file defines where a token of a program stands. Lines and columns are machine words, because
that is what the parser hands over, and a position is shown as its two numbers with a colon between
them.
-/

namespace NameBinding

/-- A line and a column, both counted from one by the parser that made the tree. -/
structure Position where
  line : UInt32
  column : UInt32
deriving DecidableEq

namespace Position

/-- The text of a position is its line, a colon and its column. -/
def text (position : Position) : String :=
  position.line.toNat.repr ++ ":" ++ position.column.toNat.repr

end Position

end NameBinding
