/-!
# Lines and indentation

A line ends at a line feed, and a carriage return right before the line feed belongs to the end of
the line.  Text that ends with a line feed has no further, empty line.
-/

namespace AbiBindings.Text

/-- Drops one carriage return at the end. -/
def dropReturn (l : List Char) : List Char :=
  if l.getLast? = some '\r' then l.dropLast else l

/-- Lines as they stand between line feeds: all but the last one were ended by a feed, and the last
one counts only if it holds something. -/
def endedLines : List (List Char) → List (List Char)
  | [] => []
  | [l] => if l.isEmpty then [] else [l]
  | l :: ls => dropReturn l :: endedLines ls

/-- The lines of a text, without their ends. -/
def lines (s : String) : List String := (endedLines (s.toList.splitOn '\n')).map String.ofList

/-- Two spaces in front of every line. -/
def indentLines (s : String) : List String := (lines s).map ("  " ++ ·)

/-- Two spaces in front of every line that is not empty. -/
def indent (s : String) : String :=
  "\n".intercalate ((lines s).map fun l => if l.isEmpty then "" else "  " ++ l)

end AbiBindings.Text
