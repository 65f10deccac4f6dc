import AbiBindings.Proofs.ModuleTree.IndexFile

/-!
# Module specifiers

An index file names the modules that it re-exports by specifiers.  Without a suffix a directory goes
by its own name, as a declaration does: next to a declaration of its name it shares the specifier,
which then leads to the declaration, and a directory called `index` leads back to the index file.
With a suffix the index file inside the directory is named, and nothing is shared.

    the specifiers are distinct ↔ no suffix → no directory is called like a declaration next to it
    an entry leads to its target ↔ no suffix → it is no directory that is called so, or `index`
                                                            (specifiers_distinct_and_lead_iff)
-/

namespace AbiBindings

/-! ## Modules -/

/-- The module of an entry as its specifier names it, without extension and suffix. -/
def ReExport.moduleName (o : IndexOptions) : ReExport → String
  | .directory child => if o.moduleSuffix = "" then child else child ++ "/index"
  | .file name => name

/-- The file that a module is read from, which is named in a directory: a file of this name, or else
the index file inside a directory of this name. -/
def moduleFile? (files : List String) (d : DirectoryPath) (name : String) : Option String :=
  if d.file (name ++ ".ts") ∈ files then some (d.file (name ++ ".ts"))
  else if d.file (name ++ "/index.ts") ∈ files then some (d.file (name ++ "/index.ts"))
  else none

/-- The specifier of an entry in a directory's index file leads to a file. -/
def ReExport.LeadsTo (o : IndexOptions) (files : List String) (d : DirectoryPath) (e : ReExport)
    (path : String) : Prop :=
  ∃ name, e.specifier o = "./" ++ name ++ o.moduleSuffix ∧ moduleFile? files d name = some path

/-- The files of places, and the index files of the directories around them. -/
def filesOf (places : List Place) : List String :=
  places.map Place.path ++ (indexesOf places).map fun i => i.directory.file "index.ts"

variable {places : List Place} {d : DirectoryPath} {o : IndexOptions}

theorem specifier_eq (o : IndexOptions) (e : ReExport) :
    e.specifier o = "./" ++ e.moduleName o ++ o.moduleSuffix := by
  cases e with
  | file name => rfl
  | directory child =>
    by_cases hs : o.moduleSuffix = ""
    · simp [ReExport.specifier, ReExport.moduleName, hs]
    · simp [ReExport.specifier, ReExport.moduleName, hs, String.append_assoc]

theorem specifier_eq_specifier_iff {a b : ReExport} :
    a.specifier o = b.specifier o ↔ a.moduleName o = b.moduleName o := by
  rw [specifier_eq, specifier_eq, String.append_left_inj, String.append_right_inj]

theorem leadsTo_iff {files : List String} {e : ReExport} {path : String} :
    e.LeadsTo o files d path ↔ moduleFile? files d (e.moduleName o) = some path := by
  unfold ReExport.LeadsTo
  simp only [specifier_eq, String.append_left_inj, String.append_right_inj, exists_eq_left']

/-! ## Distinct specifiers -/

theorem specifier_injective_directory {child other : String}
    (h : (ReExport.directory child).specifier o = (ReExport.directory other).specifier o) :
    child = other := by
  rw [specifier_eq_specifier_iff] at h
  simp only [ReExport.moduleName] at h
  split at h
  · exact h
  · exact (String.append_left_inj _).1 h

theorem specifier_directory_eq_file_iff {child name : String} (hn : '/' ∉ name.toList) :
    (ReExport.directory child).specifier o = (ReExport.file name).specifier o ↔
      o.moduleSuffix = "" ∧ child = name := by
  rw [specifier_eq_specifier_iff]
  simp only [ReExport.moduleName]
  split
  · rename_i hs
    simp [hs]
  · rename_i hs
    have hne : child ++ "/index" ≠ name := fun h => hn (h ▸ by simp)
    simp [hs, hne]

theorem noSlash_of_file_mem {name : String} (h : .file name ∈ entriesOf places d) :
    '/' ∉ name.toList := by
  obtain ⟨p, -, -, rfl⟩ := file_mem_entriesOf.1 h
  exact p.noSlash

theorem nodup_specifiers_iff :
    ((entriesOf places d).map (ReExport.specifier o)).Nodup ↔
      (o.moduleSuffix = "" → ∀ name, .file name ∈ entriesOf places d →
        .directory name ∉ entriesOf places d) := by
  rw [nodup_map_entriesOf_iff fun name other h => specifier_eq_specifier_iff.1 h]
  constructor
  · intro h hs name hn hd
    exact (h name hd).2 name hn
      ((specifier_directory_eq_file_iff (noSlash_of_file_mem hn)).2 ⟨hs, rfl⟩)
  · intro h child hc
    refine ⟨fun other _ => specifier_injective_directory, fun name hn he => ?_⟩
    obtain ⟨hs, rfl⟩ := (specifier_directory_eq_file_iff (noSlash_of_file_mem hn)).1 he
    exact h hs child hn hc

/-! ## Where specifiers lead -/

theorem index_mem_filesOf (hd : d ∈ directoriesOf places) : d.file "index.ts" ∈ filesOf places :=
  List.mem_append_right _
    (List.mem_map.2 ⟨⟨d, entriesOf places d⟩, mem_indexesOf.2 ⟨hd, rfl⟩, rfl⟩)

/-- A file next to an index file is a declaration that it re-exports, or it is this one. -/
theorem file_mem_filesOf_iff (hd : d ∈ directoriesOf places) {name : String}
    (hn : '/' ∉ name.toList) :
    d.file (name ++ ".ts") ∈ filesOf places ↔
      name = "index" ∨ .file name ∈ entriesOf places d := by
  have hslash := noSlash_of_mem_directoriesOf hd
  have hname := noSlash_append hn (by decide : '/' ∉ ".ts".toList)
  have hplace (p : Place) : p.path = d.file (name ++ ".ts") ↔ p.directory = d ∧ p.name = name := by
    rw [Place.path, declarationPath, file_eq_file_iff (fun _ => p.noSlash_of_mem_directory)
      p.fileName_isSegment.noSlash hslash hname, String.append_left_inj]
  have hindex (i : IndexFile) (hi : i ∈ indexesOf places) :
      i.directory.file "index.ts" = d.file (name ++ ".ts") ↔
        i.directory = d ∧ name = "index" := by
    have hi := noSlash_of_mem_directoriesOf (mem_indexesOf.1 hi).1
    rw [file_eq_file_iff hi (by decide) hslash hname, show "index.ts" = "index" ++ ".ts" from rfl,
      String.append_left_inj, eq_comm (a := "index")]
  rw [filesOf, List.mem_append, List.mem_map, List.mem_map, or_comm, file_mem_entriesOf]
  refine or_congr ⟨?_, ?_⟩ (exists_congr fun p => and_congr_right fun _ => hplace p)
  · rintro ⟨i, hi, he⟩
    exact ((hindex i hi).1 he).2
  · rintro rfl
    exact ⟨⟨d, entriesOf places d⟩, mem_indexesOf.2 ⟨hd, rfl⟩, rfl⟩

/-- A directory's name followed by the index file leads into the directory. -/
theorem file_index_eq (d : DirectoryPath) (child : String) :
    d.file (child ++ "/index.ts") = DirectoryPath.file "index.ts" (d ++ [child]) := by
  induction d with
  | nil =>
    show "/".intercalate [child ++ "/index.ts"] = _
    rw [List.nil_append, DirectoryPath.file_cons, String.intercalate_singleton, String.append_assoc]
    rfl
  | cons s d ih => rw [List.cons_append, DirectoryPath.file_cons, DirectoryPath.file_cons, ih]

theorem file_ne_index {child : String} (hd : d ++ [child] ∈ directoriesOf places) :
    d.file (child ++ ".ts") ≠ DirectoryPath.file "index.ts" (d ++ [child]) := by
  have hslash := noSlash_of_mem_directoriesOf hd
  obtain ⟨houter, hchild⟩ := List.forall_mem_append.1 hslash
  have hname := noSlash_append (hchild child List.mem_cons_self) (by decide : '/' ∉ ".ts".toList)
  intro h
  have hlength := ((file_eq_file_iff houter hname hslash (by decide)).1 h).1
  simp at hlength

theorem leadsTo_target_file {name : String} (h : .file name ∈ entriesOf places d) :
    (ReExport.file name).LeadsTo o (filesOf places) d ((ReExport.file name).target d) := by
  obtain ⟨p, hp, rfl, rfl⟩ := file_mem_entriesOf.1 h
  have hm : p.directory.file (p.name ++ ".ts") ∈ filesOf places :=
    List.mem_append_left _ (List.mem_map_of_mem hp)
  rw [leadsTo_iff, ReExport.moduleName, moduleFile?, if_pos hm]
  rfl

theorem leadsTo_target_directory_iff {child : String}
    (h : .directory child ∈ entriesOf places d) :
    (ReExport.directory child).LeadsTo o (filesOf places) d
        ((ReExport.directory child).target d) ↔
      (o.moduleSuffix = "" → child ≠ "index" ∧ .file child ∉ entriesOf places d) := by
  have hd := directory_mem_entriesOf.1 h
  have hm : DirectoryPath.file "index.ts" (d ++ [child]) ∈ filesOf places := index_mem_filesOf hd
  have hslash : '/' ∉ child.toList :=
    noSlash_of_mem_directoriesOf hd child (List.mem_append_right _ List.mem_cons_self)
  rw [leadsTo_iff, ReExport.target, ReExport.moduleName]
  by_cases hs : o.moduleSuffix = ""
  · have hparent : d ∈ directoriesOf places :=
      mem_directoriesOf_of_prefix hd (List.prefix_append _ _)
    have hfile := file_mem_filesOf_iff hparent hslash
    rw [if_pos hs, moduleFile?, file_index_eq, if_pos hm]
    by_cases hf : d.file (child ++ ".ts") ∈ filesOf places
    · rw [if_pos hf, Option.some.injEq]
      refine iff_of_false (file_ne_index hd) fun hnot => ?_
      rcases hfile.1 hf with he | he
      · exact (hnot hs).1 he
      · exact (hnot hs).2 he
    · rw [if_neg hf]
      rw [hfile, not_or] at hf
      exact iff_of_true rfl fun _ => hf
  · have hname : child ++ "/index" ++ ".ts" = child ++ "/index.ts" := String.append_assoc
    rw [if_neg hs, moduleFile?, hname, file_index_eq, if_pos hm]
    exact iff_of_true rfl fun h => absurd h hs

/-! ## Index files of places -/

/-- The specifiers of an index file are distinct unless a directory is called like a declaration
next to it and no suffix is set.  Each leads to the file that it is meant for, but those of such
directories and of directories called `index`. -/
theorem specifiers_distinct_and_lead_iff (places : List Place) (typeOnly : Bool)
    (suffix : String) :
    let o : IndexOptions := { typeOnly, moduleSuffix := suffix }
    indexFilesOf o (places.map Place.path) = .ok ((indexesOf places).map (IndexFile.file o)) ∧
    ∀ i ∈ indexesOf places,
      ((i.entries.map (ReExport.specifier o)).Nodup ↔
        (suffix = "" → ∀ name, .file name ∈ i.entries → .directory name ∉ i.entries)) ∧
      ∀ e ∈ i.entries,
        (e.LeadsTo o (filesOf places) i.directory (e.target i.directory) ↔
          (suffix = "" → e ≠ .directory "index" ∧
            ∀ name, .file name ∈ i.entries → e ≠ .directory name)) := by
  refine ⟨indexFilesOf_places rfl rfl, fun i hi => ?_⟩
  obtain ⟨-, hentries⟩ := mem_indexesOf.1 hi
  rw [hentries]
  refine ⟨nodup_specifiers_iff, fun e he => ?_⟩
  cases e with
  | directory child =>
    rw [leadsTo_target_directory_iff he]
    simp only [Ne, ReExport.directory.injEq, imp_not_comm, forall_eq']
  | file name => exact iff_of_true (leadsTo_target_file he) fun _ => by simp

/-- `Token.ts` next to the directory `Token`: one specifier for both. -/
theorem specifiers_clash_token :
    ["Token.json", "Token/X.json"].mapM (placeArtifact []) = .ok ["Token.ts", "Token/X.ts"] ∧
    indexFilesOf {} ["Token.ts", "Token/X.ts"] = .ok [
      ⟨"index.ts", "export * as token from './Token';\nexport { Token } from './Token';"⟩,
      ⟨"Token/index.ts", "export { X } from './X';"⟩] ∧
    ModuleTree.ofPaths "index.ts" ["Token.ts", "Token/X.ts"] >>= (ModuleTree.reExports {} · []) =
      .ok [.directory "Token", .file "Token"] ∧
    ¬ ([.directory "Token", .file "Token"].map (ReExport.specifier {})).Nodup := by
  decide +kernel

end AbiBindings
