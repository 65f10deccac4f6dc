import AbiBindings.ModuleTree.Path
import AbiBindings.Name.TypeName

/-!
# Paths of artifacts

A path is a sequence of parts; repeated slashes, slashes at the end and dots between slashes add
none, and a dot in front is a part of its own.  Paths with the same parts are the same path.  An
artifact's contract is named for its file, and its output directory is where its own directory lies
below the common root of all artifacts.

Paths are UTF-8 texts.  What is read off one, a stem or a directory, is a text again, and there is no
failure for parts that are none.
-/

namespace AbiBindings

/-! ## Parts -/

/-- A part of a path. -/
inductive PathPart where
  /-- The slash in front of an absolute path. -/
  | root
  /-- A dot in front of a relative path. -/
  | here
  /-- Two dots. -/
  | up
  | name (s : String)
  deriving DecidableEq

/-- The part that a segment of a path is, unless it adds none.  A dot only counts in front. -/
def PathPart.ofSegment? (isFirst : Bool) (segment : String) : Option PathPart :=
  if segment = "" then none
  else if segment = "." then if isFirst then some .here else none
  else if segment = ".." then some .up
  else some (.name segment)

/-- The parts of a text. -/
def pathParts (text : String) : List PathPart :=
  match pathSegments text with
  | [] => []
  | [first] => (PathPart.ofSegment? true first).toList
  | first :: rest =>
    let start := if first = "" then [PathPart.root] else (PathPart.ofSegment? true first).toList
    start ++ rest.filterMap (PathPart.ofSegment? false)

def PathPart.text : PathPart → String
  | .root => ""
  | .here => "."
  | .up => ".."
  | .name s => s

/-- The text of parts. -/
def pathText (parts : List PathPart) : String :=
  if parts = [.root] then "/" else "/".intercalate (parts.map PathPart.text)

/-- The parts of the directory of a path with these parts; a root and a path without parts have
none. -/
def parentParts (parts : List PathPart) : List PathPart :=
  if parts = [.root] then [] else parts.dropLast

/-! ## Common root -/

/-- The beginning that two sequences share. -/
def sharedStart {α : Type} [DecidableEq α] : List α → List α → List α
  | a :: r, b :: s => if a = b then a :: sharedStart r s else []
  | _, _ => []

/-- The parts of the deepest directory that holds all paths. -/
def commonRoot (paths : List String) : List PathPart :=
  match paths.map fun p => parentParts (pathParts p) with
  | [] => []
  | first :: rest => rest.foldl sharedStart first

/-! ## Names and places -/

/-- The name of the file that a path leads to, if it leads to one, without its extension. -/
def artifactStem? (path : String) : Option String :=
  match (pathParts path).getLast? with
  | some (.name s) => some (fileStem s)
  | _ => none

/-- The name of an artifact's contract. -/
def contractNameOf (path : String) : Checked String :=
  match artifactStem? path with
  | some stem => typeName stem
  | none => .error (.malformedPath path)

/-- The directory that a part leads to from the one it stands in; `none` if it is outside. -/
def PathPart.step? : PathPart → Option (List String)
  | .name s => some [s]
  | .here => some []
  | .root | .up => none

/-- The directory of an artifact below a root: its parts after those of the root, which must all
lead further in. -/
def directoryBelow? (root : List PathPart) (path : String) : Option DirectoryPath :=
  (root.isPrefixOf? (parentParts (pathParts path))).bind fun rest =>
    (rest.mapM PathPart.step?).map List.flatten

/-- The output directory of an artifact. -/
def outputDirectoryOf (root : List PathPart) (path : String) : Checked DirectoryPath :=
  match directoryBelow? root path with
  | some d => .ok d
  | none => .error (.malformedPath path)

/-- The path of a contract's declaration file in an output directory. -/
def declarationPath (d : DirectoryPath) (contract : String) : String := d.file (contract ++ ".ts")

end AbiBindings
