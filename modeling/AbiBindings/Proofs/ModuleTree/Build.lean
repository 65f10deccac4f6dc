import AbiBindings.ModuleTree.Index
import AbiBindings.Proofs.Artifact.Path
import AbiBindings.Proofs.Checked
import AbiBindings.Proofs.ModuleTree.Closure
import Mathlib.Data.List.Nodup

/-!
# Trees of paths

A path has no place in the tree if it is empty, starts at the root of the file system, or has a
segment that names nothing.  The first path of a list without a place is reported; otherwise there
is a tree, which shows the directories of the paths with all directories around them, and depends on
which paths there are only.  Every directory has one index file.

    parse path = .error e ↔ path has no place, and e says so            (parse_eq_error_iff)
    parse path = .ok p ↔ path has a place, which p is                   (parse_eq_ok_iff)
    two trees of the same paths are alike                               (alike_of_shows)
-/

namespace AbiBindings

open Text ModuleTree

/-! ## Paths -/

/-- A path without a place below the output directory. -/
def IsMalformedPath (path : String) : Prop :=
  path = "" ∨ path.toList.head? = some '/' ∨ ∃ s ∈ pathSegments path, s = "" ∨ s = "." ∨ s = ".."

theorem empty_mem_pathSegments {path : String} (h : path.toList.head? = some '/') :
    "" ∈ pathSegments path := by
  obtain ⟨r, hr⟩ := List.head?_eq_some_iff.1 h
  rw [pathSegments, hr, List.splitOn_cons_eq_if_modifyHead, beq_self_eq_true, if_pos rfl]
  exact List.mem_cons_self

theorem isMalformedPath_iff {path : String} :
    IsMalformedPath path ↔ (pathSegments path).all isModuleSegment = false := by
  have hall : (pathSegments path).all isModuleSegment = false ↔
      ∃ s ∈ pathSegments path, s = "" ∨ s = "." ∨ s = ".." := by
    simp [List.all_eq_false, isModuleSegment, or_iff_not_imp_left]
  rw [hall]
  constructor
  · rintro (rfl | h | h)
    · exact ⟨"", List.mem_cons_self, Or.inl rfl⟩
    · exact ⟨"", empty_mem_pathSegments h, Or.inl rfl⟩
    · exact h
  · exact fun h => Or.inr (Or.inr h)

theorem isSegment_of_not_malformed {path s : String} (h : ¬ IsMalformedPath path)
    (hs : s ∈ pathSegments path) : IsSegment s := by
  rw [isMalformedPath_iff, Bool.not_eq_false, List.all_eq_true] at h
  exact ⟨h s hs, noSlash_of_mem_pathSegments hs⟩

theorem pathSegments_eq (path : String) : ∃ d name, pathSegments path = d ++ [name] := by
  have hne : pathSegments path ≠ [] := fun h => List.splitOn_ne_nil _ _ (List.map_eq_nil_iff.1 h)
  exact ⟨_, _, (List.dropLast_concat_getLast hne).symm⟩

theorem parse_eq {path name : String} {d : DirectoryPath} (h : pathSegments path = d ++ [name]) :
    ModulePath.parse path =
      if (d ++ [name]).all isModuleSegment then .ok ⟨d, name⟩
      else .error (.malformedPath path) := by
  unfold ModulePath.parse
  rw [h]
  simp only [List.getLast?_concat, List.dropLast_concat]

theorem parse_eq_error_iff {path : String} {e : Diagnostic} :
    ModulePath.parse path = .error e ↔ IsMalformedPath path ∧ e = .malformedPath path := by
  obtain ⟨d, name, h⟩ := pathSegments_eq path
  rw [parse_eq h, isMalformedPath_iff, h]
  by_cases hall : (d ++ [name]).all isModuleSegment = true
  · simp [hall]
  · rw [if_neg hall, Except.error.injEq, eq_comm]
    simp [Bool.not_eq_true _ ▸ hall]

theorem parse_eq_ok_iff {path : String} {p : ModulePath} :
    ModulePath.parse path = .ok p ↔
      ¬ IsMalformedPath path ∧ pathSegments path = p.directory ++ [p.fileName] := by
  obtain ⟨d, name, h⟩ := pathSegments_eq path
  rw [parse_eq h, isMalformedPath_iff, h]
  by_cases hall : (d ++ [name]).all isModuleSegment = true
  · rw [if_pos hall, Except.ok.injEq]
    constructor
    · rintro rfl
      exact ⟨by simp only [hall, Bool.true_eq_false, not_false_eq_true], rfl⟩
    · rintro ⟨-, he⟩
      obtain ⟨hd, hn⟩ := List.append_inj' he rfl
      rw [hd, (List.cons.inj hn).1]
  · simp [hall]

/-! ## Trees -/

/-- A tree shows the directories and files of paths, with all directories around them. -/
structure Shows (indexFile : String) (paths : List String) (t : ModuleTree) : Prop where
  directories : ∀ d, d ∈ t.directories ↔
    ∃ path ∈ paths, ∃ e name, pathSegments path = e ++ [name] ∧ d <+: e
  childDirectories : ∀ d name, name ∈ t.childDirectories d ↔ d ++ [name] ∈ t.directories
  childFiles : ∀ d stem, stem ∈ t.childFiles d ↔
    ∃ path ∈ paths, ∃ name, pathSegments path = d ++ [name] ∧ name ≠ indexFile ∧
      fileStem name = stem
  directoriesInOrder : InOrder textsLt t.directories
  namesInOrder : ∀ d, InOrder textLt (t.childDirectories d) ∧ InOrder textLt (t.childFiles d)

/-- Two trees show the same. -/
structure Alike (t t' : ModuleTree) : Prop where
  directories : t'.directories = t.directories
  childDirectories : ∀ d, t'.childDirectories d = t.childDirectories d
  childFiles : ∀ d, t'.childFiles d = t.childFiles d

variable {indexFile : String} {paths paths' : List String} {t t' : ModuleTree}

theorem shows_of_ofPaths (h : ofPaths indexFile paths = .ok t) : Shows indexFile paths t := by
  obtain ⟨ps, hps, rfl⟩ := map_eq_ok_iff.1 h
  -- A path of the list is parsed, and what was parsed is a path of the list.
  have hparsed {path : String} {d : DirectoryPath} {name : String} (hm : path ∈ paths)
      (hs : pathSegments path = d ++ [name]) : ⟨d, name⟩ ∈ ps := by
    obtain ⟨p, hp, hparse⟩ := mem_of_mapM_eq_ok hps hm
    rw [(parse_eq_ok_iff.1 hparse).2] at hs
    obtain ⟨rfl, hn⟩ := List.append_inj' hs rfl
    rw [← (List.cons.inj hn).1]
    exact hp
  have hpath {p : ModulePath} (hp : p ∈ ps) :
      ∃ path ∈ paths, pathSegments path = p.directory ++ [p.fileName] := by
    obtain ⟨path, hm, hparse⟩ := (mem_iff_of_mapM_eq_ok hps).1 hp
    exact ⟨path, hm, (parse_eq_ok_iff.1 hparse).2⟩
  refine ⟨fun d => ?_, fun d name => mem_childDirectories_ofModulePaths, fun d stem => ?_,
    inOrder_directories _, hasNamesInOrder_ofModulePaths indexFile ps⟩
  · rw [mem_directories_ofModulePaths]
    constructor
    · rintro ⟨p, hp, hd⟩
      obtain ⟨path, hm, hs⟩ := hpath hp
      exact ⟨path, hm, _, _, hs, hd⟩
    · rintro ⟨path, hm, e, name, hs, hd⟩
      exact ⟨_, hparsed hm hs, hd⟩
  · rw [mem_childFiles_ofModulePaths]
    constructor
    · rintro ⟨p, hp, rfl, hi, hstem⟩
      obtain ⟨path, hm, hs⟩ := hpath hp
      exact ⟨path, hm, _, hs, hi, hstem⟩
    · rintro ⟨path, hm, name, hs, hi, hstem⟩
      exact ⟨_, hparsed hm hs, rfl, hi, hstem⟩

theorem alike_of_shows (h : Shows indexFile paths t) (h' : Shows indexFile paths' t')
    (hp : ∀ path, path ∈ paths' ↔ path ∈ paths) : Alike t t' := by
  have hdir (d : DirectoryPath) : d ∈ t'.directories ↔ d ∈ t.directories := by
    simp only [h.directories, h'.directories, hp]
  refine ⟨h'.directoriesInOrder.eq_of_mem_iff isOrder_textsLt h.directoriesInOrder hdir,
    fun d => ?_, fun d => ?_⟩
  · refine (h'.namesInOrder d).1.eq_of_mem_iff isOrder_textLt (h.namesInOrder d).1 fun name => ?_
    rw [h.childDirectories, h'.childDirectories, hdir]
  · refine (h'.namesInOrder d).2.eq_of_mem_iff isOrder_textLt (h.namesInOrder d).2 fun stem => ?_
    simp only [h.childFiles, h'.childFiles, hp]

theorem ofPaths_eq_error_iff {e : Diagnostic} :
    ofPaths indexFile paths = .error e ↔
      ∃ before path after, paths = before ++ path :: after ∧
        (∀ p ∈ before, ¬ IsMalformedPath p) ∧ IsMalformedPath path ∧ e = .malformedPath path := by
  have hmap : ofPaths indexFile paths = .error e ↔
      paths.mapM ModulePath.parse = .error e := by
    unfold ofPaths
    cases paths.mapM ModulePath.parse <;> simp [Except.map]
  have hok (p : String) : (∃ m, ModulePath.parse p = .ok m) ↔ ¬ IsMalformedPath p := by
    obtain ⟨d, name, hs⟩ := pathSegments_eq p
    constructor
    · rintro ⟨m, hm⟩
      exact (parse_eq_ok_iff.1 hm).1
    · exact fun h => ⟨⟨d, name⟩, parse_eq_ok_iff.2 ⟨h, hs⟩⟩
  rw [hmap, mapM_eq_error_iff]
  simp only [hok, parse_eq_error_iff]

theorem exists_ofPaths (h : ∀ path ∈ paths, ¬ IsMalformedPath path) :
    ∃ t, ofPaths indexFile paths = .ok t := by
  cases ht : ofPaths indexFile paths with
  | ok t => exact ⟨t, rfl⟩
  | error e =>
    obtain ⟨before, path, after, rfl, -, hm, -⟩ := ofPaths_eq_error_iff.1 ht
    exact absurd hm (h path (List.mem_append_right _ List.mem_cons_self))

theorem not_isMalformedPath_of_ofPaths (h : ofPaths indexFile paths = .ok t) {path : String}
    (hm : path ∈ paths) : ¬ IsMalformedPath path := by
  obtain ⟨ps, hps, -⟩ := map_eq_ok_iff.1 h
  obtain ⟨p, -, hp⟩ := mem_of_mapM_eq_ok hps hm
  exact (parse_eq_ok_iff.1 hp).1

/-- The directories of a tree have proper names. -/
theorem isSegment_of_mem_directories (ht : ofPaths indexFile paths = .ok t)
    {d : DirectoryPath} (hd : d ∈ t.directories) {s : String} (hs : s ∈ d) : IsSegment s := by
  obtain ⟨path, hp, e, name, hsegments, hpre⟩ := ((shows_of_ofPaths ht).directories d).1 hd
  have hmem : s ∈ pathSegments path := hsegments ▸ List.mem_append_left _ (hpre.mem hs)
  exact isSegment_of_not_malformed (not_isMalformedPath_of_ofPaths ht hp) hmem

/-! ## Index files -/

/-- Trees that show the same have the same index files. -/
theorem Alike.indexFiles {o : IndexOptions} (h : Alike t t') :
    t'.indexFiles o = t.indexFiles o := by
  have hindex : t'.indexOf o = t.indexOf o := by
    funext d
    rw [ModuleTree.indexOf, ModuleTree.indexOf, ModuleTree.reExports, ModuleTree.reExports,
      h.childFiles, h.childDirectories]
  rw [ModuleTree.indexFiles, ModuleTree.indexFiles, hindex, h.directories]

theorem path_of_indexOf {o : IndexOptions} {d : DirectoryPath} {f : GeneratedFile}
    (h : t.indexOf o d = .ok f) : f.path = d.file o.indexFile := by
  obtain ⟨entries, -, h⟩ := bind_eq_ok_iff.1 h
  cases h
  rfl

theorem head?_directories (h : Shows indexFile paths t) (hne : paths ≠ []) :
    t.directories.head? = some [] := by
  obtain ⟨path, hm⟩ := List.exists_mem_of_ne_nil _ hne
  obtain ⟨d, name, hs⟩ := pathSegments_eq path
  have hroot : [] ∈ t.directories :=
    (h.directories []).2 ⟨path, hm, d, name, hs, List.nil_prefix⟩
  have ho := h.directoriesInOrder
  cases hd : t.directories with
  | nil => rw [hd] at hroot; cases hroot
  | cons first rest =>
    rw [hd] at hroot ho
    rcases List.mem_cons.1 hroot with rfl | hr
    · rfl
    · have hlt := (List.pairwise_cons.1 ho).1 [] hr
      cases first <;> cases hlt

/-- The index files of paths are those of the directories of their tree. -/
theorem paths_of_indexFilesOf {o : IndexOptions} {files : List GeneratedFile}
    (h : indexFilesOf o paths = .ok files) :
    ∃ t, ofPaths o.indexFile paths = .ok t ∧
      files.map (·.path) = t.directories.map (DirectoryPath.file o.indexFile) ∧
      (files.map (·.path)).Nodup := by
  obtain ⟨t, ht, hf⟩ := bind_eq_ok_iff.1 h
  have hpaths : files.map (·.path) = t.directories.map (DirectoryPath.file o.indexFile) :=
    map_of_mapM_eq_ok (fun d f => path_of_indexOf) hf
  refine ⟨t, ht, hpaths, ?_⟩
  rw [hpaths]
  refine List.Nodup.map_on (fun d hd e he hde => ?_)
    ((inOrder_directories t).nodup isOrder_textsLt)
  exact file_injective (fun s hs => (isSegment_of_mem_directories ht hd hs).noSlash)
    (fun s hs => (isSegment_of_mem_directories ht he hs).noSlash) hde

/-! ## Building -/

/-- Building fails at the first path without a place.  Otherwise it closes the directories of the
paths upwards, whatever their order and repetition, and every directory has one index file, that of
the root first. -/
theorem ofPaths_closes_upward (indexFile : String) (paths : List String) :
    (∀ e, ofPaths indexFile paths = .error e ↔
      ∃ before path after, paths = before ++ path :: after ∧
        (∀ p ∈ before, ¬ IsMalformedPath p) ∧ IsMalformedPath path ∧
          e = .malformedPath path) ∧
    ((∀ path ∈ paths, ¬ IsMalformedPath path) →
      ∃ t, ofPaths indexFile paths = .ok t ∧ Shows indexFile paths t) ∧
    (∀ paths' t, (∀ path, path ∈ paths' ↔ path ∈ paths) → ofPaths indexFile paths = .ok t →
      ∃ t', ofPaths indexFile paths' = .ok t' ∧ Alike t t') ∧
    (∀ o files, o.indexFile = indexFile → indexFilesOf o paths = .ok files →
      ∃ t, ofPaths indexFile paths = .ok t ∧ Shows indexFile paths t ∧
        files.map (·.path) = t.directories.map (DirectoryPath.file indexFile) ∧
        (files.map (·.path)).Nodup ∧ (paths ≠ [] → t.directories.head? = some [])) := by
  refine ⟨fun e => ofPaths_eq_error_iff, fun h => ?_, fun paths' t hp ht => ?_,
    fun o files ho h => ?_⟩
  · obtain ⟨t, ht⟩ := exists_ofPaths h
    exact ⟨t, ht, shows_of_ofPaths ht⟩
  · obtain ⟨t', ht'⟩ : ∃ t', ofPaths indexFile paths' = .ok t' :=
      exists_ofPaths fun path hm => not_isMalformedPath_of_ofPaths ht ((hp path).1 hm)
    exact ⟨t', ht', alike_of_shows (shows_of_ofPaths ht) (shows_of_ofPaths ht') hp⟩
  · subst ho
    obtain ⟨t, ht, hpaths, hnodup⟩ := paths_of_indexFilesOf h
    have hshows := shows_of_ofPaths ht
    exact ⟨t, ht, hshows, hpaths, hnodup, head?_directories hshows⟩

end AbiBindings
