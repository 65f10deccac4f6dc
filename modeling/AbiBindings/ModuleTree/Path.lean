import AbiBindings.Diagnostic
import AbiBindings.Text.Split

/-!
# Paths of generated files

A generated file is named by its directories below the output directory and its own name, written
with slashes between them.  Each segment names something: it is not empty, not `.` and not `..`.
-/

namespace AbiBindings

/-! ## Algorithm -/

/-- A directory below the output directory, from the outside in. -/
abbrev DirectoryPath := List String

/-- Path of a file in a directory. -/
def DirectoryPath.file (name : String) (d : DirectoryPath) : String := "/".intercalate (d ++ [name])

/-- A generated file's place and name. -/
structure ModulePath where
  directory : DirectoryPath
  fileName : String
  deriving DecidableEq

/-- A segment that names a directory or a file. -/
def isModuleSegment (s : String) : Bool := s != "" && s != "." && s != ".."

/-- The segments of a path. -/
def pathSegments (path : String) : List String :=
  (path.toList.splitOn '/').map String.ofList

/-- The place and name that a path gives. -/
def ModulePath.parse (path : String) : Checked ModulePath :=
  let segments := pathSegments path
  match segments.getLast? with
  | some fileName =>
    if segments.all isModuleSegment then .ok ⟨segments.dropLast, fileName⟩
    else .error (.malformedPath path)
  | none => .error (.malformedPath path)

/-- The name of a file without its extension.  A dot in front starts no extension. -/
def fileStem (fileName : String) : String :=
  match Text.splitLast '.' fileName.toList with
  | (none, _) => fileName
  | (some [], _) => fileName
  | (some stem, _) => String.ofList stem

/-! ## Lemmas -/

theorem DirectoryPath.file_cons (name s : String) (d : DirectoryPath) :
    DirectoryPath.file name (s :: d) = s ++ "/" ++ d.file name :=
  String.intercalate_cons_of_ne_nil (by simp)

end AbiBindings
