import AbiBindings.ModuleTree.Index
import AbiBindings.Proofs.Artifact.Place
import AbiBindings.Proofs.ModuleTree.Closure
import Mathlib.Data.List.Nodup

/-!
# Index files of places

The index files of a list of places, as data: every directory around a place has one, with an entry
for each directory inside it that is around a place, and for each place in it.

    indexFilesOf o (places.map Place.path) = .ok …                      (indexFilesOf_places)
    d ∈ directoriesOf places ↔ d is a beginning of a place's directory  (mem_directoriesOf)
    .directory c ∈ entriesOf places d ↔ d ++ [c] ∈ directoriesOf places (directory_mem_entriesOf)
    .file n ∈ entriesOf places d ↔ a place in d is called n             (file_mem_entriesOf)
-/

namespace AbiBindings

open ModuleTree

/-! ## Index files -/

/-- An index file before it is written: its directory, and what it re-exports. -/
structure IndexFile where
  directory : DirectoryPath
  entries : List ReExport

/-- The file that is written. -/
def IndexFile.file (o : IndexOptions) (i : IndexFile) : GeneratedFile :=
  ⟨i.directory.file "index.ts", "\n".intercalate (i.entries.flatMap (ReExport.lines o))⟩

/-- The file that an entry of a directory's index file leads to. -/
def ReExport.target (d : DirectoryPath) : ReExport → String
  | .directory child => DirectoryPath.file "index.ts" (d ++ [child])
  | .file name => declarationPath d name

/-- The directories that one comes to from the root by the entries of index files. -/
inductive Reached (indexes : List IndexFile) : DirectoryPath → Prop where
  | root {i : IndexFile} (h : i ∈ indexes) (hd : i.directory = []) : Reached indexes []
  | step {i j : IndexFile} {child : String} (hr : Reached indexes i.directory) (h : i ∈ indexes)
    (he : .directory child ∈ i.entries) (hj : j ∈ indexes)
    (hd : j.directory = i.directory ++ [child]) : Reached indexes (i.directory ++ [child])

/-! ## Places -/

variable {places : List Place} {d : DirectoryPath}

/-- The tree of places. -/
def treeOf (places : List Place) : ModuleTree :=
  ofModulePaths "index.ts" (places.map Place.modulePath)

/-- The directories around places. -/
def directoriesOf (places : List Place) : List DirectoryPath := (treeOf places).directories

/-- What the index file of a directory re-exports. -/
def entriesOf (places : List Place) (d : DirectoryPath) : List ReExport :=
  ((treeOf places).childDirectories d).map .directory ++
    (sortDistinct textLt ((places.filter (·.directory = d)).map Place.name)).map .file

/-- The index files of the directories around places. -/
def indexesOf (places : List Place) : List IndexFile :=
  (directoriesOf places).map fun d => ⟨d, entriesOf places d⟩

/-! ## Membership -/

theorem mem_directoriesOf : d ∈ directoriesOf places ↔ ∃ p ∈ places, d <+: p.directory := by
  rw [directoriesOf, treeOf, mem_directories_ofModulePaths]
  simp only [List.mem_map]
  constructor
  · rintro ⟨_, ⟨p, hp, rfl⟩, hd⟩
    exact ⟨p, hp, hd⟩
  · rintro ⟨p, hp, hd⟩
    exact ⟨_, ⟨p, hp, rfl⟩, hd⟩

theorem directory_mem_entriesOf {child : String} :
    .directory child ∈ entriesOf places d ↔ d ++ [child] ∈ directoriesOf places := by
  simp only [entriesOf, List.mem_append, List.mem_map, ReExport.directory.injEq, exists_eq_right,
    reduceCtorEq, and_false, exists_false, or_false]
  exact mem_childDirectories_ofModulePaths

theorem file_mem_entriesOf {name : String} :
    .file name ∈ entriesOf places d ↔ ∃ p ∈ places, p.directory = d ∧ p.name = name := by
  simp only [entriesOf, List.mem_append, List.mem_map, mem_sortDistinct, List.mem_filter,
    decide_eq_true_eq, ReExport.file.injEq, exists_eq_right, reduceCtorEq, and_false, exists_false,
    false_or, and_assoc]

theorem nodup_entriesOf : (entriesOf places d).Nodup := by
  have hdirectories : ((treeOf places).childDirectories d).Nodup :=
    (hasNamesInOrder_ofModulePaths _ _ d).1.nodup isOrder_textLt
  have hfiles := (inOrder_sortDistinct isOrder_textLt
    ((places.filter (·.directory = d)).map Place.name)).nodup isOrder_textLt
  refine List.nodup_append.2 ⟨hdirectories.map fun _ _ => ReExport.directory.inj,
    hfiles.map fun _ _ => ReExport.file.inj, ?_⟩
  rintro a ha b hb rfl
  obtain ⟨c, -, rfl⟩ := List.mem_map.1 ha
  obtain ⟨n, -, hn⟩ := List.mem_map.1 hb
  cases hn

/-- What tells files apart tells all entries apart, if it tells each directory from the others and
from the files. -/
theorem nodup_map_entriesOf_iff {β : Type} {f : ReExport → β}
    (hf : ∀ name other, f (.file name) = f (.file other) → name = other) :
    ((entriesOf places d).map f).Nodup ↔
      ∀ child, .directory child ∈ entriesOf places d →
        (∀ other, .directory other ∈ entriesOf places d →
          f (.directory child) = f (.directory other) → child = other) ∧
        ∀ name, .file name ∈ entriesOf places d → f (.directory child) ≠ f (.file name) := by
  rw [List.nodup_map_iff_inj_on nodup_entriesOf]
  constructor
  · intro h child hc
    refine ⟨fun other ho he => ReExport.directory.inj (h _ hc _ ho he), fun name hn he => ?_⟩
    cases h _ hc _ hn he
  · intro h a ha b hb he
    cases a with
    | directory child =>
      cases b with
      | directory other => rw [(h child ha).1 other hb he]
      | file name => exact absurd he ((h child ha).2 name hb)
    | file name =>
      cases b with
      | directory child => exact absurd he.symm ((h child hb).2 name ha)
      | file other => rw [hf name other he]

theorem mem_indexesOf {i : IndexFile} :
    i ∈ indexesOf places ↔
      i.directory ∈ directoriesOf places ∧ i.entries = entriesOf places i.directory := by
  rw [indexesOf, List.mem_map]
  constructor
  · rintro ⟨d, hd, rfl⟩
    exact ⟨hd, rfl⟩
  · rintro ⟨hd, he⟩
    refine ⟨i.directory, hd, ?_⟩
    rw [← he]

theorem isSegment_of_mem_directoriesOf (h : d ∈ directoriesOf places) {s : String} (hs : s ∈ d) :
    IsSegment s := by
  obtain ⟨p, -, hd⟩ := mem_directoriesOf.1 h
  exact p.isSegment s (hd.mem hs)

theorem noSlash_of_mem_directoriesOf (h : d ∈ directoriesOf places) : ∀ s ∈ d, '/' ∉ s.toList :=
  fun _ hs => (isSegment_of_mem_directoriesOf h hs).noSlash

/-- With a directory, those around it have index files. -/
theorem mem_directoriesOf_of_prefix {e : DirectoryPath} (h : d ∈ directoriesOf places)
    (he : e <+: d) : e ∈ directoriesOf places := by
  obtain ⟨p, hp, hd⟩ := mem_directoriesOf.1 h
  exact mem_directoriesOf.2 ⟨p, hp, he.trans hd⟩

/-- An entry leads to a place, or to the index file of a directory. -/
theorem target_cases {i : IndexFile} (hi : i ∈ indexesOf places) {e : ReExport}
    (he : e ∈ i.entries) :
    (∃ p ∈ places, e.target i.directory = p.path) ∨
      ∃ j ∈ indexesOf places, e.target i.directory = j.directory.file "index.ts" := by
  rw [(mem_indexesOf.1 hi).2] at he
  cases e with
  | directory child =>
    refine Or.inr ⟨⟨_, entriesOf places (i.directory ++ [child])⟩, ?_, rfl⟩
    exact mem_indexesOf.2 ⟨directory_mem_entriesOf.1 he, rfl⟩
  | file name =>
    obtain ⟨p, hp, hd, rfl⟩ := file_mem_entriesOf.1 he
    refine Or.inl ⟨p, hp, ?_⟩
    rw [← hd]
    rfl

theorem reached_of_mem_directoriesOf (h : d ∈ directoriesOf places) :
    Reached (indexesOf places) d := by
  induction d using List.reverseRecOn with
  | nil => exact .root (mem_indexesOf.2 ⟨h, rfl⟩ : ⟨[], entriesOf places []⟩ ∈ _) rfl
  | append_singleton e child ih =>
    have he : e ∈ directoriesOf places := mem_directoriesOf_of_prefix h (List.prefix_append _ _)
    have hi : ⟨e, entriesOf places e⟩ ∈ indexesOf places := mem_indexesOf.2 ⟨he, rfl⟩
    have hj : ⟨e ++ [child], entriesOf places (e ++ [child])⟩ ∈ indexesOf places :=
      mem_indexesOf.2 ⟨h, rfl⟩
    exact .step (ih he) hi (directory_mem_entriesOf.2 h) hj rfl

/-- A place is re-exported by the index file of its own directory. -/
theorem exists_entry_of_mem {p : Place} (hp : p ∈ places) :
    ∃ i ∈ indexesOf places, i.directory = p.directory ∧ .file p.name ∈ i.entries := by
  have hd : p.directory ∈ directoriesOf places :=
    mem_directoriesOf.2 ⟨p, hp, List.prefix_rfl⟩
  refine ⟨⟨_, entriesOf places p.directory⟩, mem_indexesOf.2 ⟨hd, rfl⟩, rfl, ?_⟩
  exact file_mem_entriesOf.2 ⟨p, hp, rfl, rfl⟩

/-! ## Files -/

theorem ofPaths_places : ofPaths "index.ts" (places.map Place.path) = .ok (treeOf places) := by
  have h : (places.map Place.path).mapM ModulePath.parse =
      .ok (places.map Place.modulePath) := by
    rw [List.mapM_map]
    exact mapM_eq_ok_map fun p _ => p.parse_path
  rw [ofPaths, h]
  rfl

theorem childFiles_treeOf :
    (treeOf places).childFiles d =
      sortDistinct textLt ((places.filter (·.directory = d)).map Place.name) := by
  refine (hasNamesInOrder_ofModulePaths _ _ d).2.eq_of_mem_iff isOrder_textLt
    (inOrder_sortDistinct isOrder_textLt _) fun stem => ?_
  rw [mem_childFiles_ofModulePaths, mem_sortDistinct]
  simp only [List.mem_map, List.mem_filter, decide_eq_true_eq]
  constructor
  · rintro ⟨_, ⟨p, hp, rfl⟩, hd, -, rfl⟩
    exact ⟨p, ⟨hp, hd⟩, p.fileStem_fileName.symm⟩
  · rintro ⟨p, ⟨hp, hd⟩, rfl⟩
    exact ⟨_, ⟨p, hp, rfl⟩, hd, p.fileName_ne_index, p.fileStem_fileName⟩

theorem reExports_treeOf {o : IndexOptions} (hs : o.nameSuffix = "") :
    (treeOf places).reExports o d = .ok (entriesOf places d) := by
  have h : ∀ stem ∈ (treeOf places).childFiles d, fileReExport o stem = .ok (.file stem) := by
    intro stem hm
    rw [childFiles_treeOf, mem_sortDistinct] at hm
    obtain ⟨p, -, rfl⟩ := List.mem_map.1 hm
    rw [fileReExport, typeName_of_isTypeName p.isTypeName, hs]
    show Except.ok (ReExport.file (p.name ++ "")) = _
    rw [String.append_empty]
  rw [reExports, mapM_eq_ok_map h, childFiles_treeOf]
  rfl

theorem indexFilesOf_places {o : IndexOptions} (hi : o.indexFile = "index.ts")
    (hs : o.nameSuffix = "") :
    indexFilesOf o (places.map Place.path) = .ok ((indexesOf places).map (IndexFile.file o)) := by
  have h : ∀ d ∈ (treeOf places).directories,
      (treeOf places).indexOf o d = .ok (IndexFile.file o ⟨d, entriesOf places d⟩) := by
    intro d _
    rw [indexOf, reExports_treeOf hs, hi]
    rfl
  rw [indexFilesOf, hi, ofPaths_places]
  show (treeOf places).directories.mapM ((treeOf places).indexOf o) = _
  rw [mapM_eq_ok_map h, indexesOf, List.map_map]
  rfl

end AbiBindings
