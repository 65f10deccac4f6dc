import AbiBindings.Files.Path

/-!
# Files in memory

A tree of directories and files that a run can read and change in the place of a disk.  Paths are
relative to the top of the tree; every step of a path needs a directory to start from, names and
paths have bounded length, and nothing is found outside of the tree.
-/

namespace AbiBindings

/-! ## Trees -/

/-- A file, or a directory with its entries. -/
inductive FileTree where
  | file (bytes : ByteArray)
  | directory (entries : List (String × FileTree))

namespace FileTree

def empty : FileTree := .directory []

def isDirectory : FileTree → Bool
  | .directory _ => true
  | .file _ => false

/-- An entry of a directory. -/
def entry? (name : String) : FileTree → Option FileTree
  | .directory entries => entries.lookup name
  | .file _ => none

/-- Names from the top of the tree to a place in it. -/
abbrev Place := List String

/-- What is at a place. -/
def find? : FileTree → Place → Option FileTree
  | t, [] => some t
  | t, name :: rest => (t.entry? name).bind fun e => find? e rest

/-- Replaces or adds an entry. -/
def setEntry (name : String) (e : FileTree) : List (String × FileTree) → List (String × FileTree)
  | [] => [(name, e)]
  | (n, x) :: rest => if n = name then (n, e) :: rest else (n, x) :: setEntry name e rest

/-- Puts something at a place in the directories that lead there. -/
def put (e : FileTree) : Place → FileTree → FileTree
  | [], _ => e
  | name :: rest, t =>
    match t with
    | .file bytes => .file bytes
    | .directory entries =>
      .directory (setEntry name (put e rest ((entries.lookup name).getD empty)) entries)

/-- Removes what is at a place below the top. -/
def erase : Place → FileTree → FileTree
  | [], t => t
  | [name], .directory entries => .directory (entries.filter fun e => e.1 != name)
  | name :: rest, .directory entries =>
    match entries.lookup name with
    | some e => .directory (setEntry name (erase rest e) entries)
    | none => .directory entries
  | _ :: _, .file bytes => .file bytes

/-! ## Paths -/

/-- Where a path leads: to a place in the tree, or to a directory outside of it. -/
inductive Destination where
  | inside (place : Place)
  | outside

/-- What keeps a step from starting somewhere. -/
def startFault? (t : FileTree) : Destination → Option FileFault
  | .outside => none
  | .inside place =>
    match t.find? place with
    | none => some .notFound
    | some (.file _) => some .notDirectory
    | some (.directory _) => none

/-- One segment further. -/
def step (t : FileTree) (here : Destination) (segment : String) : Except FileFault Destination :=
  match startFault? t here with
  | some fault => .error fault
  | none =>
    if segment = "" ∨ segment = "." then .ok here
    else if nameLimit < segment.utf8ByteSize then .error .nameTooLong
    else
      match here with
      | .outside => if segment = ".." then .ok .outside else .error .notFound
      | .inside place =>
        if segment = ".." then .ok (if place.isEmpty then .outside else .inside place.dropLast)
        else .ok (.inside (place ++ [segment]))

/-- Where the segments of a path lead; an empty one in front stands for the slash of an absolute
path. -/
def follow (t : FileTree) (segments : List String) : Except FileFault Destination :=
  segments.foldlM (step t) (if segments.head? = some "" then .outside else .inside [])

/-- Where a path leads. -/
def resolve (t : FileTree) (path : String) : Except FileFault Destination :=
  match pathFault? path with
  | some fault => .error fault
  | none => t.follow (pathSegments path)

/-- The place that a path leads to. -/
def placeOf (t : FileTree) (path : String) : Except FileFault Place := do
  match ← t.resolve path with
  | .inside place => .ok place
  | .outside => .error .isDirectory

/-! ## Access -/

/-- The text at a path. -/
def readText (path : String) (t : FileTree) : Except FileFault String := do
  let place ← t.placeOf path
  match t.find? place with
  | none => .error .notFound
  | some (.directory _) => .error .isDirectory
  | some (.file bytes) =>
    match String.fromUTF8? bytes with
    | some text => .ok text
    | none => .error .notText

/-- The tree with bytes in a file at a path. -/
def writeBytes (path : String) (bytes : ByteArray) (t : FileTree) : Except FileFault FileTree := do
  let place ← t.placeOf path
  match t.find? place with
  | some (.directory _) => .error .isDirectory
  | _ => .ok (put (.file bytes) place t)

/-- Segments without the empty ones at their end. -/
def dropEndSlashes (segments : List String) : List String :=
  (segments.reverse.dropWhile (·.isEmpty)).reverse

/-- The tree with a directory at a path, in the directories around it.  Slashes at the end of the
path do not ask for it to be there before. -/
def makeDirectory (path : String) (t : FileTree) : Except FileFault FileTree :=
  match pathFault? path with
  | some fault => .error fault
  | none => do
    match ← t.follow (dropEndSlashes (pathSegments path)) with
    | .outside => .error .alreadyExists
    | .inside place =>
      match t.find? place with
      | some _ => .error .alreadyExists
      | none => .ok (put empty place t)

/-- A path leads to a directory. -/
def isDirectoryAt (path : String) (t : FileTree) : Bool :=
  match t.resolve path with
  | .ok .outside => true
  | .ok (.inside place) => ((t.find? place).map isDirectory).getD false
  | .error _ => false

/-- Makes a directory unless it is there. -/
def ensureDirectory (path : String) (t : FileTree) : Except FileFault FileTree :=
  match t.makeDirectory path with
  | .ok t => .ok t
  | .error fault => if t.isDirectoryAt path then .ok t else .error fault

/-- What a change leaves: the changed tree, or the tree as it was and the fault. -/
def attempt (change : FileTree → Except FileFault FileTree) (t : FileTree) :
    Except FileFault Unit × FileTree :=
  match change t with
  | .ok t => (.ok (), t)
  | .error fault => (.error fault, t)

/-- Makes the first directory of a list; if there is no directory to make it in, makes the others
before, which stay even if the first cannot be made then. -/
def makeInnermost : List String → FileTree → Except FileFault Unit × FileTree
  | [], t => (.ok (), t)
  | path :: outer, t =>
    match t.makeDirectory path with
    | .error .notFound =>
      match makeInnermost outer t with
      | (.ok (), t) => t.attempt (ensureDirectory path)
      | (.error fault, t) => (.error fault, t)
    | _ => t.attempt (ensureDirectory path)

/-- Makes a directory at a path and all directories around it. -/
def makeDirectories (path : String) (t : FileTree) : Except FileFault Unit × FileTree :=
  makeInnermost (directoriesTo path) t

/-- Something is at a path. -/
def isThere (path : String) (t : FileTree) : Except FileFault Bool :=
  match t.resolve path with
  | .ok .outside => .ok true
  | .ok (.inside place) => .ok (t.find? place).isSome
  | .error .notFound => .ok false
  | .error fault => .error fault

/-- The directory at a path. -/
def directoryPlace (path : String) (t : FileTree) : Except FileFault Place := do
  let place ← t.placeOf path
  match t.find? place with
  | none => .error .notFound
  | some (.file _) => .error .notDirectory
  | some (.directory _) => .ok place

/-- Removes what is in the directory at a path, then the directory.  It cannot be removed by the
name of a dot, and is not there any more if the path leads through something in it. -/
def removeDirectory (path : String) (t : FileTree) : Except FileFault Unit × FileTree :=
  match t.directoryPlace path with
  | .error fault => (.error fault, t)
  | .ok place =>
    let emptied := put empty place t
    let segments := dropEndSlashes (pathSegments path)
    match emptied.follow segments with
    | .error .notFound => (.ok (), emptied)
    | .error fault => (.error fault, emptied)
    | .ok _ =>
      if segments.getLast? = some "." then (.error .invalidArgument, emptied)
      else (.ok (), t.erase place)

/-! ## Listing -/

mutual

/-- The files of a tree with their paths below it. -/
def filesBelow (before : Place) : FileTree → List (String × ByteArray)
  | .file bytes => [("/".intercalate before, bytes)]
  | .directory entries => entryFiles before entries

def entryFiles (before : Place) : List (String × FileTree) → List (String × ByteArray)
  | [] => []
  | (name, e) :: r => filesBelow (before ++ [name]) e ++ entryFiles before r

end

/-! ## Actions -/

instance : FileAccess (StateM FileTree) where
  readText path := do return (← get).readText path
  writeText path text := fun t => t.attempt (writeBytes path text.toUTF8)
  makeDirectories path := fun t => t.makeDirectories path
  isThere path := do return (← get).isThere path
  removeDirectory path := fun t => t.removeDirectory path

end FileTree

end AbiBindings
