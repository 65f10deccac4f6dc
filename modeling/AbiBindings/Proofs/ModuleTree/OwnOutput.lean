import AbiBindings.Proofs.Artifact.Place
import AbiBindings.Proofs.ModuleTree.Build

/-!
# Index files among the paths

The index file of a directory adds nothing to a tree that has the directory: it lies in no other
place, and it is no file of the tree.  So index files that are made from paths, and from their own
paths as well, are the same.

    t shows paths → t shows paths and index files of its directories     (Shows.withIndexFiles)
    indexFilesOf o paths = .ok files →
      indexFilesOf o (paths and those of files) = .ok files              (indexFilesOf_ownOutput)
-/

namespace AbiBindings

open ModuleTree

variable {indexFile : String} {paths paths' : List String} {t : ModuleTree} {d : DirectoryPath}

/-! ## Paths of index files -/

theorem isSegment_of_mem_index (hi : IsSegment indexFile) (ht : ofPaths indexFile paths = .ok t)
    (hd : d ∈ t.directories) {s : String} (hs : s ∈ d ++ [indexFile]) : IsSegment s := by
  rcases List.mem_append.1 hs with hs | hs
  · exact isSegment_of_mem_directories ht hd hs
  · exact List.mem_singleton.1 hs ▸ hi

/-- The path of an index file leads to its directory. -/
theorem pathSegments_index (hi : IsSegment indexFile) (ht : ofPaths indexFile paths = .ok t)
    (hd : d ∈ t.directories) : pathSegments (d.file indexFile) = d ++ [indexFile] :=
  pathSegments_file fun _ hs => (isSegment_of_mem_index hi ht hd hs).noSlash

theorem not_isMalformedPath_index (hi : IsSegment indexFile)
    (ht : ofPaths indexFile paths = .ok t) (hd : d ∈ t.directories) :
    ¬ IsMalformedPath (d.file indexFile) := by
  rw [isMalformedPath_iff, pathSegments_index hi ht hd, Bool.not_eq_false, List.all_eq_true]
  exact fun s hs => (isSegment_of_mem_index hi ht hd hs).names

/-! ## Trees with index files -/

/-- A tree shows its paths also with index files of its directories among them. -/
theorem Shows.withIndexFiles (h : Shows indexFile paths t) (hsub : paths ⊆ paths')
    (hnew : ∀ path ∈ paths', path ∈ paths ∨
      ∃ d ∈ t.directories, pathSegments path = d ++ [indexFile]) :
    Shows indexFile paths' t where
  directories d := by
    constructor
    · intro hd
      obtain ⟨path, hp, hrest⟩ := (h.directories d).1 hd
      exact ⟨path, hsub hp, hrest⟩
    · rintro ⟨path, hp, e, name, hs, hpre⟩
      rcases hnew path hp with hold | ⟨e', he', hs'⟩
      · exact (h.directories d).2 ⟨path, hold, e, name, hs, hpre⟩
      · -- What lies around a directory of the tree is one, too.
        obtain ⟨rfl, -⟩ := List.append_inj' (hs.symm.trans hs') rfl
        obtain ⟨old, hold, f, n, hsold, hpre'⟩ := (h.directories e).1 he'
        exact (h.directories d).2 ⟨old, hold, f, n, hsold, hpre.trans hpre'⟩
  childDirectories := h.childDirectories
  childFiles d stem := by
    rw [h.childFiles]
    constructor
    · rintro ⟨path, hp, hrest⟩
      exact ⟨path, hsub hp, hrest⟩
    · rintro ⟨path, hp, name, hs, hname, hstem⟩
      rcases hnew path hp with hold | ⟨e, -, hs'⟩
      · exact ⟨path, hold, name, hs, hname, hstem⟩
      · obtain ⟨-, hn⟩ := List.append_inj' (hs.symm.trans hs') rfl
        exact absurd (List.cons.inj hn).1 hname
  directoriesInOrder := h.directoriesInOrder
  namesInOrder := h.namesInOrder

/-! ## Index files -/

/-- Index files are the same if their own paths are given as well, wherever in the list and however
often. -/
theorem indexFilesOf_ownOutput {o : IndexOptions} {files : List GeneratedFile}
    (hi : IsSegment o.indexFile) (h : indexFilesOf o paths = .ok files)
    (hp : ∀ path, path ∈ paths' ↔ path ∈ paths ∨ path ∈ files.map (·.path)) :
    indexFilesOf o paths' = .ok files := by
  obtain ⟨t, ht, hfiles⟩ := bind_eq_ok_iff.1 h
  obtain ⟨_, ht', hpaths, -⟩ := paths_of_indexFilesOf h
  cases ht.symm.trans ht'
  -- The paths of the files are those of the index files of the tree's directories.
  have hindex (path : String) (hf : path ∈ files.map (·.path)) :
      ∃ d ∈ t.directories, path = d.file o.indexFile := by
    rw [hpaths] at hf
    obtain ⟨d, hd, rfl⟩ := List.mem_map.1 hf
    exact ⟨d, hd, rfl⟩
  have hwell : ∀ path ∈ paths', ¬ IsMalformedPath path := by
    intro path hm
    rcases (hp path).1 hm with hold | hf
    · exact not_isMalformedPath_of_ofPaths ht hold
    · obtain ⟨d, hd, rfl⟩ := hindex path hf
      exact not_isMalformedPath_index hi ht hd
  obtain ⟨t', hbuilt⟩ : ∃ t', ofPaths o.indexFile paths' = .ok t' := exists_ofPaths hwell
  have hshows : Shows o.indexFile paths' t := by
    refine (shows_of_ofPaths ht).withIndexFiles (fun path hold => (hp path).2 (.inl hold)) ?_
    intro path hm
    refine ((hp path).1 hm).imp_right fun hf => ?_
    obtain ⟨d, hd, rfl⟩ := hindex path hf
    exact ⟨d, hd, pathSegments_index hi ht hd⟩
  have halike : Alike t t' := alike_of_shows hshows (shows_of_ofPaths hbuilt) fun _ => Iff.rfl
  rw [indexFilesOf, hbuilt]
  exact halike.indexFiles.trans hfiles

/-- The paths of index files in front of, between and behind those that they were made from, one of
which is that of an index file itself. -/
theorem indexFilesOf_ownOutput_nested :
    let o : IndexOptions := { typeOnly := true, moduleSuffix := ".js", indexFile := "mod" }
    IsSegment o.indexFile ∧
    ∃ files, indexFilesOf o ["a/b/Deep.ts", "a/c/mod", "Token.ts"] = .ok files ∧
      files.map (·.path) = ["mod", "a/mod", "a/b/mod", "a/c/mod"] ∧
      indexFilesOf o ["a/c/mod", "a/b/mod", "a/b/Deep.ts", "mod", "a/c/mod", "Token.ts", "a/mod"] =
        .ok files := by
  intro o
  have hi : IsSegment o.indexFile := ⟨by decide, by decide⟩
  have h : (indexFilesOf o ["a/b/Deep.ts", "a/c/mod", "Token.ts"]).map (·.map (·.path)) =
      .ok ["mod", "a/mod", "a/b/mod", "a/c/mod"] := by
    decide +kernel
  obtain ⟨files, hfiles, hpaths⟩ := map_eq_ok_iff.1 h
  refine ⟨hi, files, hfiles, hpaths, indexFilesOf_ownOutput hi hfiles fun path => ?_⟩
  rw [hpaths]
  simp only [List.mem_cons, List.not_mem_nil, or_false]
  tauto

end AbiBindings
