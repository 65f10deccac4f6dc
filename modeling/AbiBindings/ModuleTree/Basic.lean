import AbiBindings.ModuleTree.NameTable

/-!
# The module tree

The directories of a list of files, with all directories around them, and the files in each.  Files
with the name of the index file have a directory but are no files of the tree.

Paths are entered one by one.  Then every directory is listed in the one around it, which is next
unless it was known: `close` works a stack of directories off, and each one that it adds is shorter
than the one that it takes away.
-/

namespace AbiBindings

/-- A tree of directories and files. -/
structure ModuleTree where
  /-- Stems of files by directory. -/
  stems : NameTable := []
  /-- Names of directories by the directory around them. -/
  children : NameTable := []

namespace ModuleTree

/-! ## Reading -/

/-- The directories that have an entry. -/
def listed (t : ModuleTree) : List DirectoryPath := t.stems.directories ++ t.children.directories

/-- All directories, in order, each once. -/
def directories (t : ModuleTree) : List DirectoryPath := sortDistinct textsLt t.listed

/-- Names of the directories right inside a directory, in order. -/
def childDirectories (t : ModuleTree) (d : DirectoryPath) : List String := t.children.namesIn d

/-- Stems of the files in a directory, in order. -/
def childFiles (t : ModuleTree) (d : DirectoryPath) : List String := t.stems.namesIn d

/-! ## Building -/

/-- Enters a file; of an index file, only its directory. -/
def enter (indexFile : String) (t : ModuleTree) (p : ModulePath) : ModuleTree :=
  if p.fileName = indexFile then { t with children := t.children.touch p.directory }
  else { t with stems := t.stems.add p.directory (fileStem p.fileName) }

/-- Lists a directory in the one around it. -/
def attach (t : ModuleTree) (parent : DirectoryPath) (name : String) : ModuleTree :=
  { t with children := t.children.add parent name }

/-- A directory holds neither directories nor files. -/
def isVacant (t : ModuleTree) (d : DirectoryPath) : Bool :=
  (t.children.namesIn d).isEmpty && !t.stems.directories.contains d

/-- The directory around another one, if it is news to the tree that this one lies in it. -/
def next (t : ModuleTree) (parent : DirectoryPath) (name : String) : List DirectoryPath :=
  if !(t.children.namesIn parent).contains name && t.isVacant parent then [parent] else []

/-- A bound on the steps that are left to the root, from each of several directories. -/
def stepsLeft : List DirectoryPath → Nat
  | [] => 0
  | d :: rest => d.length + 1 + stepsLeft rest

/-- Lists directories in those around them, and those in turn, up to the root. -/
def close (t : ModuleTree) : List DirectoryPath → ModuleTree
  | [] => t
  | [] :: rest => t.close rest
  | (s :: r) :: rest =>
    let parent := (s :: r).dropLast
    let name := (s :: r).getLast (List.cons_ne_nil s r)
    (t.attach parent name).close (t.next parent name ++ rest)
termination_by work => stepsLeft work
decreasing_by
  · simp only [stepsLeft]
    omega
  · unfold next
    split
    · simp only [List.cons_append, List.nil_append, stepsLeft, List.length_dropLast,
        List.length_cons]
      omega
    · simp only [List.nil_append, stepsLeft, List.length_cons]
      omega

/-- The tree of parsed paths. -/
def ofModulePaths (indexFile : String) (paths : List ModulePath) : ModuleTree :=
  let t := paths.foldl (enter indexFile) {}
  t.close t.listed.reverse

/-- The tree of a list of paths, or the first path that has no place in it. -/
def ofPaths (indexFile : String) (paths : List String) : Checked ModuleTree :=
  (paths.mapM ModulePath.parse).map (ofModulePaths indexFile)

end ModuleTree

end AbiBindings
