import AbiBindings.Proofs.ModuleTree.ExportedName
import AbiBindings.Proofs.Name.BindingName

/-!
# Exported names that a file may bind

An index file binds the namespace name of each child directory and the name of each declaration.
Nothing keeps a namespace name from being a reserved word, and nothing keeps punctuation out of a
declaration's name: the directory `new` is imported as `new`, and `Vault+.ts` exports `Vault+`.

    a directory's name may be bound ↔ the directory reads as no reserved word, and
    a declaration's name may be bound ↔ it has word characters only    (exportedNames_binding_iff)
-/

namespace AbiBindings

open Text

/-- The names of an index file may be bound, those of directories that read as a reserved word and
those of declarations with other characters than word characters apart.  The latter are made from
raw names with characters that are neither word characters nor breaks. -/
theorem exportedNames_binding_iff (places : List Place) (typeOnly : Bool) :
    let o : IndexOptions := { typeOnly }
    indexFilesOf o (places.map Place.path) = .ok ((indexesOf places).map (IndexFile.file o)) ∧
    (∀ i ∈ indexesOf places,
      (∀ child, .directory child ∈ i.entries → IsAscii child.toList →
        (IsBindingName (ReExport.directory child).name ↔ ¬ ReadsReserved child)) ∧
      (∀ name, .file name ∈ i.entries →
        (IsBindingName (ReExport.file name).name ↔ ∀ c ∈ name.toList, isWordChar c = true))) ∧
    ∀ raw name, IsAscii raw.toList → typeName raw = .ok name →
      (IsBindingName name ↔ ∀ c ∈ raw.toList, IsWordBreak c ∨ isWordChar c = true) := by
  refine ⟨indexFilesOf_places rfl rfl, fun i hi => ?_, ?_⟩
  · obtain ⟨-, hentries⟩ := mem_indexesOf.1 hi
    rw [hentries]
    constructor
    · intro child _ hascii
      exact isBindingName_namespaceName_iff hascii
    · intro name hname
      have htype : IsTypeName name.toList := isTypeName_of_file_mem hname
      exact htype.isBindingName_iff
  · intro raw name hascii hname
    exact isBindingName_typeName_iff hascii hname

/-- Punctuation that breaks no word stays. -/
example : typeName "Vault+" = .ok "Vault+" ∧ ¬ IsBindingName "Vault+" := by decide

/-- A directory `new`: its import, and the export of this name, are no TypeScript. -/
theorem exportedNames_binding_fails_new :
    ["Y.json", "new/X.json"].mapM (placeArtifact []) = .ok ["Y.ts", "new/X.ts"] ∧
    indexFilesOf { typeOnly := true } ["Y.ts", "new/X.ts"] =
      .ok [⟨"index.ts", "import type * as new from './new';\nexport type { new };\n" ++
          "export type { Y } from './Y';"⟩,
        ⟨"new/index.ts", "export type { X } from './X';"⟩] ∧
    ModuleTree.ofPaths "index.ts" ["Y.ts", "new/X.ts"] >>= (ModuleTree.reExports {} · []) =
      .ok [.directory "new", .file "Y"] ∧
    ¬ IsBindingName (ReExport.directory "new").name := by
  decide +kernel

end AbiBindings
