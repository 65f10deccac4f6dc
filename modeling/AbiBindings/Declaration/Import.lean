import AbiBindings.TypeNames
import AbiBindings.TypeScript.Statement

/-!
# Imports of a declaration file

A name of the import table is imported if it occurs in the body of the file as a whole word, that
is, as a longest run of ASCII letters, ASCII digits, `_` and `$`.
-/

namespace AbiBindings

/-! ## Words -/

/-- A character of the words that names in declarations are made of. -/
def isWordChar (c : Char) : Bool := c.isAlphanum || c == '_' || c == '$'

/-- Longest runs of word characters; the first of the result is the run that the text starts with,
and may be empty like those between two other characters. -/
def wordRuns : List Char → List (List Char)
  | [] => [[]]
  | c :: r =>
    if isWordChar c then
      match wordRuns r with
      | [] => [[c]]
      | w :: ws => (c :: w) :: ws
    else [] :: wordRuns r

/-- The words of a text. -/
def wordsOf (text : String) : List String :=
  ((wordRuns text.toList).filter (!·.isEmpty)).map String.ofList

/-! ## Lines -/

/-- The import of the names that are used, if there are any. -/
def TypeImport.line? (used : List String) (i : TypeImport) : Option String :=
  let names := i.names.filter used.contains
  if names.isEmpty then none
  else some ("import type " ++ braced names ++ " from " ++ doubleQuoted i.module ++ ";")

/-- The lines that import what the sections of a file use. -/
def importLines (imports : List TypeImport) (sections : List String) : List String :=
  let used := sections.flatMap wordsOf
  imports.filterMap (TypeImport.line? used)

end AbiBindings
