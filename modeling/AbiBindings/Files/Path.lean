import AbiBindings.Files.Access
import AbiBindings.ModuleTree.Path

/-!
# Paths of files as texts

A path is a text whose segments stand between slashes.  `pathBelow` puts a path below a directory,
`directoryOf` gives the directory of a file, `directoriesTo` all directories that a path needs.
Names and paths have bounded length.
-/

namespace AbiBindings

/-! ## Limits -/

/-- Bytes that the name of a file or a directory may have. -/
def nameLimit : Nat := 255

/-- Bytes that a path may have. -/
def pathLimit : Nat := 4095

/-- What keeps a text from being a path, before any file is looked for. -/
def pathFault? (path : String) : Option FileFault :=
  if path.toList.contains '\x00' then some .notPath
  else if pathLimit < path.utf8ByteSize then some .nameTooLong
  else if path.isEmpty then some .notFound
  else none

/-! ## Directories -/

/-- A path below a directory. -/
def pathBelow (directory path : String) : String :=
  if directory.isEmpty || directory.toList.getLast? = some '/' then directory ++ path
  else directory ++ "/" ++ path

/-- Text of a path, last character first, without slashes, and dots after them, at its end. -/
def trimEndReversed : List Char → List Char
  | '/' :: c :: r => trimEndReversed (c :: r)
  | '.' :: '/' :: c :: r => trimEndReversed (c :: r)
  | ['.', '/'] => ['/']
  | s => s

/-- A path without slashes, and dots after them, at its end. -/
def trimPath (path : List Char) : List Char := (trimEndReversed path.reverse).reverse

/-- The directory of a file given by its path. -/
def directoryOf (path : String) : String :=
  match Text.splitLast '/' (trimPath path.toList) with
  | (none, _) => ""
  | (some [], _) => "/"
  | (some d, _) => String.ofList (trimPath d)

/-- The beginnings of a sequence that hold something, shortest first. -/
def beginnings {α : Type} : List α → List (List α)
  | [] => []
  | a :: r => [a] :: (beginnings r).map (a :: ·)

/-- The last segment is neither empty nor a single dot. -/
def endsInStep (segments : List String) : Bool :=
  match segments.getLast? with
  | some s => s != "" && s != "."
  | none => false

/-- The directory that a path leads to and those around it, innermost first. -/
def directoriesTo (path : String) : List String :=
  if path.isEmpty then []
  else
    path :: (((beginnings (pathSegments (directoryOf path))).filter endsInStep).map
      ("/".intercalate ·)).reverse

end AbiBindings
