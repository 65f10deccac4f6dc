import AbiBindings.Proofs.ModuleTree.IndexFile
import AbiBindings.Proofs.Name.NamespaceName

/-!
# Exported names

An index file exports a directory under its namespace name and a declaration under its own name.
The names of declarations are distinct, and begin with a character that is its own upper case.
Namespace names drop punctuation and change case, so the names of two directories may coincide
(`a-b` and `a_b`), and one that begins with an underscore may be that of a declaration (`1` next to
`_1.ts`).  ASCII directories whose letters and digits differ have different names, and a declaration
is called like one of them only if both names begin with an underscore.

    the names are distinct ↔ no two directories have one namespace name, and none is the name
    of a declaration                                              (exportedNames_distinct_iff)
-/

namespace AbiBindings

open Text

/-! ## Entries -/

/-- No directory is exported under the name of another entry. -/
structure NamesApart (entries : List ReExport) : Prop where
  directories : ∀ child other, .directory child ∈ entries → .directory other ∈ entries →
    namespaceName child = namespaceName other → child = other
  files : ∀ child name, .directory child ∈ entries → .file name ∈ entries →
    namespaceName child ≠ name

/-- Directories are told apart by their letters and digits, whatever their case, and those without
a letter in front lie next to no declaration that begins with an underscore. -/
structure LettersApart (entries : List ReExport) : Prop where
  ascii : ∀ child, .directory child ∈ entries → IsAscii child.toList
  directories : ∀ child other, .directory child ∈ entries → .directory other ∈ entries →
    lettersOf child = lettersOf other → child = other
  files : ∀ child name, .directory child ∈ entries → .file name ∈ entries →
    BeginsWithLetter child ∨ name.toList.head? ≠ some '_'

theorem LettersApart.namesApart {entries : List ReExport} (h : LettersApart entries)
    (htype : ∀ name, .file name ∈ entries → IsTypeName name.toList) : NamesApart entries where
  directories child other hc ho he := by
    refine h.directories child other hc ho ?_
    rw [← lettersOf_namespaceName (h.ascii child hc), he,
      lettersOf_namespaceName (h.ascii other ho)]
  files child name hc hn he := by
    have hascii := h.ascii child hc
    by_cases hletter : BeginsWithLetter child
    · exact hletter.not_isTypeName hascii (he ▸ htype name hn)
    · rcases h.files child name hc hn with hl | hl
      · exact hletter hl
      · exact hl (he ▸ head?_namespaceName hascii hletter)

/-! ## Index files of places -/

variable {places : List Place} {d : DirectoryPath}

theorem isTypeName_of_file_mem {name : String} (h : .file name ∈ entriesOf places d) :
    IsTypeName name.toList := by
  obtain ⟨p, -, -, rfl⟩ := file_mem_entriesOf.1 h
  exact p.isTypeName

theorem nodup_names_iff :
    ((entriesOf places d).map ReExport.name).Nodup ↔ NamesApart (entriesOf places d) := by
  rw [nodup_map_entriesOf_iff fun name other h => h]
  constructor
  · intro h
    exact ⟨fun child other hc ho => (h child hc).1 other ho,
      fun child name hc => (h child hc).2 name⟩
  · intro h child hc
    exact ⟨fun other ho => h.directories child other hc ho, fun name hn => h.files child name hc hn⟩

/-- The names that an index file exports are distinct unless two of its directories have one
namespace name, or one has the name of a declaration.  Neither is so where the letters and digits of
the directories differ and begin with a letter. -/
theorem exportedNames_distinct_iff (places : List Place) (typeOnly : Bool) :
    let o : IndexOptions := { typeOnly }
    indexFilesOf o (places.map Place.path) = .ok ((indexesOf places).map (IndexFile.file o)) ∧
    ∀ i ∈ indexesOf places,
      ((i.entries.map ReExport.name).Nodup ↔ NamesApart i.entries) ∧
      (LettersApart i.entries → (i.entries.map ReExport.name).Nodup) := by
  refine ⟨indexFilesOf_places rfl rfl, fun i hi => ?_⟩
  obtain ⟨-, hentries⟩ := mem_indexesOf.1 hi
  rw [hentries, nodup_names_iff]
  exact ⟨Iff.rfl, fun h => h.namesApart fun name => isTypeName_of_file_mem⟩

/-- The directory `1` next to `_1.ts`: both names begin with an underscore. -/
example : (ReExport.directory "1").name = (ReExport.file "_1").name := by decide +kernel

/-- `a-b` next to `a_b`: one name for both. -/
theorem exportedNames_clash_aB :
    ["a-b/X.json", "a_b/Y.json"].mapM (placeArtifact []) = .ok ["a-b/X.ts", "a_b/Y.ts"] ∧
    indexFilesOf {} ["a-b/X.ts", "a_b/Y.ts"] =
      .ok [⟨"index.ts", "export * as aB from './a-b';\nexport * as aB from './a_b';"⟩,
        ⟨"a-b/index.ts", "export { X } from './X';"⟩,
        ⟨"a_b/index.ts", "export { Y } from './Y';"⟩] ∧
    ModuleTree.ofPaths "index.ts" ["a-b/X.ts", "a_b/Y.ts"] >>= (ModuleTree.reExports {} · []) =
      .ok [.directory "a-b", .directory "a_b"] ∧
    ¬ ([.directory "a-b", .directory "a_b"].map ReExport.name).Nodup := by
  decide +kernel

end AbiBindings
