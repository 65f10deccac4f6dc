import AbiBindings.ModuleTree.Basic
import AbiBindings.Name.NamespaceName
import AbiBindings.Name.TypeName

/-!
# Index files

Every directory of a module tree has an index file, which re-exports the directories inside it as
namespaces and the types of its files by name.  Index files are listed outer directories first.
-/

namespace AbiBindings

/-! ## Options -/

/-- How index files re-export. -/
structure IndexOptions where
  /-- Types only, no values. -/
  typeOnly : Bool := false
  /-- Added to the name of every re-exported file. -/
  nameSuffix : String := ""
  /-- Added to the path of every module. -/
  moduleSuffix : String := ""
  /-- Name of the index file in each directory. -/
  indexFile : String := "index.ts"
  deriving DecidableEq

/-- A file to write, relative to the output directory. -/
structure GeneratedFile where
  path : String
  contents : String
  deriving DecidableEq

/-! ## Re-exports -/

/-- Something that an index file re-exports. -/
inductive ReExport where
  /-- A directory, by its own name, as a namespace. -/
  | directory (child : String)
  /-- The type of a file, by its name. -/
  | file (name : String)
  deriving DecidableEq

namespace ReExport

/-- The name that the index file introduces. -/
def name : ReExport → String
  | .directory child => namespaceName child
  | .file name => name

/-- The module that a re-export is from. -/
def specifier (o : IndexOptions) : ReExport → String
  | .directory child =>
    if o.moduleSuffix.isEmpty then "./" ++ child else "./" ++ child ++ "/index" ++ o.moduleSuffix
  | .file name => "./" ++ name ++ o.moduleSuffix

/-- A module in an import or export. -/
def fromModule (o : IndexOptions) (e : ReExport) : String := " from '" ++ e.specifier o ++ "';"

/-- The lines of a re-export. -/
def lines (o : IndexOptions) (e : ReExport) : List String :=
  let keyword := if o.typeOnly then "export type" else "export"
  let listed := keyword ++ r" { " ++ e.name ++ r" }"
  match e with
  | .directory _ =>
    if o.typeOnly then ["import type * as " ++ e.name ++ e.fromModule o, listed ++ ";"]
    else ["export * as " ++ e.name ++ e.fromModule o]
  | .file _ => [listed ++ e.fromModule o]

end ReExport

/-! ## Files -/

namespace ModuleTree

/-- The re-export of a file, given its stem. -/
def fileReExport (o : IndexOptions) (stem : String) : Checked ReExport :=
  (typeName stem).map fun name => .file (name ++ o.nameSuffix)

/-- The re-exports of a directory: its directories, then its files. -/
def reExports (o : IndexOptions) (t : ModuleTree) (d : DirectoryPath) :
    Checked (List ReExport) := do
  let files ← (t.childFiles d).mapM (fileReExport o)
  return (t.childDirectories d).map .directory ++ files

/-- The index file of a directory. -/
def indexOf (o : IndexOptions) (t : ModuleTree) (d : DirectoryPath) : Checked GeneratedFile := do
  let entries ← t.reExports o d
  return ⟨d.file o.indexFile, "\n".intercalate (entries.flatMap (ReExport.lines o))⟩

/-- The index files of a tree. -/
def indexFiles (o : IndexOptions) (t : ModuleTree) : Checked (List GeneratedFile) :=
  t.directories.mapM (t.indexOf o)

end ModuleTree

/-- The index files of the directories that files are in. -/
def indexFilesOf (o : IndexOptions) (paths : List String) : Checked (List GeneratedFile) :=
  ModuleTree.ofPaths o.indexFile paths >>= ModuleTree.indexFiles o

end AbiBindings
