/-
This file breaks a text into lines. A line ends with a line feed, and a carriage return right before
the line feed belongs to the end too. What stands after the last line feed is a line of its own, unless
it is empty.
-/

namespace NameBinding

/-- Leaves out a carriage return at the end. -/
def withoutReturn (line : List Char) : List Char :=
  if line.getLast? = some '\r' then line.dropLast else line

/-- The lines of a text. -/
def linesOf (text : String) : List String :=
  let pieces := text.toList.splitOn '\n'
  let last := pieces.getLast?.getD []
  let lines := pieces.dropLast.map withoutReturn ++ if last.isEmpty then [] else [last]
  lines.map String.ofList

end NameBinding
