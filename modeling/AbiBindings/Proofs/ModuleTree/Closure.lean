import AbiBindings.ModuleTree.Basic
import AbiBindings.Proofs.Ordered
import Mathlib.Data.List.Induction

/-!
# Directories around directories

Closing a tree lists every directory in the one around it.  What one step keeps: nothing is listed
but what was and the directories around it, every directory is attached to the one around it or
still to be worked off, and every name is that of a directory.  When nothing is left, the
directories are all those around the ones that were entered.

    d ∈ (ofModulePaths i paths).directories ↔ d is a beginning of a path's directory
                                                           (mem_directories_ofModulePaths)
    name ∈ t.childDirectories d ↔ d ++ [name] ∈ t.directories
                                                           (mem_childDirectories_ofModulePaths)
    s ∈ t.childFiles d ↔ s is the stem of a path in d      (mem_childFiles_ofModulePaths)
-/

namespace AbiBindings

namespace ModuleTree

variable {t : ModuleTree} {indexFile : String} {d e : DirectoryPath}

theorem mem_directories : d ∈ t.directories ↔ d ∈ t.listed := mem_sortDistinct _ _ _

/-! ## Entering -/

theorem mem_listed_enter {p : ModulePath} :
    d ∈ (t.enter indexFile p).listed ↔ d = p.directory ∨ d ∈ t.listed := by
  unfold enter listed
  by_cases h : p.fileName = indexFile
  · rw [if_pos h, List.mem_append, List.mem_append]
    dsimp only
    rw [NameTable.touch, NameTable.mem_directories_update]
    exact or_left_comm
  · rw [if_neg h, List.mem_append, List.mem_append]
    dsimp only
    rw [NameTable.add, NameTable.mem_directories_update, or_assoc]

theorem mem_childFiles_enter {p : ModulePath} {stem : String} :
    stem ∈ (t.enter indexFile p).childFiles d ↔
      (p.directory = d ∧ p.fileName ≠ indexFile ∧ fileStem p.fileName = stem) ∨
        stem ∈ t.childFiles d := by
  unfold enter childFiles
  by_cases h : p.fileName = indexFile
  · rw [if_pos h]
    simp [h]
  · rw [if_neg h]
    dsimp only
    rw [NameTable.add, NameTable.namesIn_update]
    by_cases hd : d = p.directory
    · rw [if_pos hd, mem_insertDistinct]
      simp [h, hd, eq_comm]
    · rw [if_neg hd]
      simp [Ne.symm hd]

theorem childDirectories_enter (p : ModulePath) :
    (t.enter indexFile p).childDirectories d = t.childDirectories d := by
  unfold enter childDirectories
  by_cases h : p.fileName = indexFile
  · rw [if_pos h, NameTable.touch, NameTable.namesIn_update]
    exact ite_self _
  · rw [if_neg h]

/-- The tree with all files entered, before any directory is listed in another. -/
def entered (indexFile : String) (paths : List ModulePath) : ModuleTree :=
  paths.foldl (enter indexFile) {}

theorem entered_concat (paths : List ModulePath) (p : ModulePath) :
    entered indexFile (paths ++ [p]) = (entered indexFile paths).enter indexFile p := by
  rw [entered, List.foldl_append]
  rfl

theorem mem_listed_entered {paths : List ModulePath} :
    d ∈ (entered indexFile paths).listed ↔ ∃ p ∈ paths, p.directory = d := by
  induction paths using List.reverseRecOn with
  | nil => simp [entered, listed, NameTable.directories]
  | append_singleton paths p ih =>
    rw [entered_concat, mem_listed_enter, ih]
    simp [or_comm, eq_comm, or_and_right, exists_or]

theorem mem_childFiles_entered {paths : List ModulePath} {stem : String} :
    stem ∈ (entered indexFile paths).childFiles d ↔
      ∃ p ∈ paths, p.directory = d ∧ p.fileName ≠ indexFile ∧ fileStem p.fileName = stem := by
  induction paths using List.reverseRecOn with
  | nil => simp [entered, childFiles, NameTable.namesIn]
  | append_singleton paths p ih =>
    rw [entered_concat, mem_childFiles_enter, ih]
    simp [or_comm, or_and_right, exists_or]

theorem childDirectories_entered (paths : List ModulePath) :
    (entered indexFile paths).childDirectories d = [] := by
  induction paths using List.reverseRecOn with
  | nil => rfl
  | append_singleton paths p ih => rw [entered_concat, childDirectories_enter, ih]

/-! ## Attaching -/

theorem mem_listed_attach {parent : DirectoryPath} {name : String} :
    d ∈ (t.attach parent name).listed ↔ d = parent ∨ d ∈ t.listed := by
  unfold attach listed
  rw [List.mem_append, List.mem_append]
  dsimp only
  rw [NameTable.add, NameTable.mem_directories_update]
  exact or_left_comm

theorem mem_childDirectories_attach {parent : DirectoryPath} {name n : String} :
    n ∈ (t.attach parent name).childDirectories d ↔
      (d = parent ∧ n = name) ∨ n ∈ t.childDirectories d := by
  unfold attach childDirectories
  dsimp only
  rw [NameTable.add, NameTable.namesIn_update]
  by_cases hd : d = parent
  · rw [if_pos hd, mem_insertDistinct]
    simp [hd]
  · rw [if_neg hd]
    simp [hd]

theorem listed_of_mem_childDirectories {name : String} (h : name ∈ t.childDirectories d) :
    d ∈ t.listed :=
  List.mem_append_right _ (NameTable.mem_directories_of_mem_namesIn h)

/-- What is not next was known before. -/
theorem next_cases (t : ModuleTree) (parent : DirectoryPath) (name : String) :
    t.next parent name = [parent] ∨ t.next parent name = [] ∧ parent ∈ t.listed := by
  unfold next
  split
  · exact Or.inl rfl
  · rename_i h
    refine Or.inr ⟨rfl, ?_⟩
    simp only [Bool.and_eq_true, Bool.not_eq_true', not_and_or, Bool.not_eq_false, isVacant,
      List.contains_iff_mem, List.isEmpty_iff] at h
    rcases h with h | h | h
    · exact listed_of_mem_childDirectories h
    · obtain ⟨n, hn⟩ := List.exists_mem_of_ne_nil _ h
      exact listed_of_mem_childDirectories hn
    · exact List.mem_append_left _ h

/-! ## Closing -/

/-- A directory is listed in the one around it. -/
def IsAttached (t : ModuleTree) (d : DirectoryPath) : Prop :=
  ∀ parent name, d = parent ++ [name] → name ∈ t.childDirectories parent

/-- What holds while the directories around some others are added to a tree. -/
structure Closing (given work : List DirectoryPath) (t : ModuleTree) : Prop where
  given_listed : ∀ d ∈ given, d ∈ t.listed
  work_listed : ∀ d ∈ work, d ∈ t.listed
  around : ∀ d ∈ t.listed, ∃ e ∈ given, d <+: e
  attached : ∀ d ∈ t.listed, d ∈ work ∨ t.IsAttached d
  named : ∀ d name, name ∈ t.childDirectories d → d ++ [name] ∈ t.listed

variable {given work : List DirectoryPath}

theorem isAttached_nil (t : ModuleTree) : t.IsAttached [] :=
  fun _ _ h => absurd h.symm (List.append_ne_nil_of_right_ne_nil _ (List.cons_ne_nil _ _))

theorem IsAttached.attach (h : t.IsAttached d) (parent : DirectoryPath) (name : String) :
    (t.attach parent name).IsAttached d :=
  fun p n hd => mem_childDirectories_attach.2 (Or.inr (h p n hd))

theorem Closing.skip_root (h : Closing given ([] :: work) t) : Closing given work t where
  given_listed := h.given_listed
  work_listed d hd := h.work_listed d (List.mem_cons_of_mem _ hd)
  around := h.around
  named := h.named
  attached d hd := by
    rcases h.attached d hd with hw | ha
    · rcases List.mem_cons.1 hw with rfl | hw
      · exact Or.inr (isAttached_nil t)
      · exact Or.inl hw
    · exact Or.inr ha

/-- One step: the first directory is attached, and the one around it is next, or was known. -/
theorem Closing.step {parent : DirectoryPath} {name : String}
    (h : Closing given ((parent ++ [name]) :: work) t) :
    Closing given (t.next parent name ++ work) (t.attach parent name) where
  given_listed d hd := mem_listed_attach.2 (Or.inr (h.given_listed d hd))
  work_listed d hd := by
    rw [mem_listed_attach]
    rcases List.mem_append.1 hd with hd | hd
    · rcases next_cases t parent name with hn | ⟨hn, -⟩
      · rw [hn, List.mem_singleton] at hd
        exact Or.inl hd
      · rw [hn] at hd
        cases hd
    · exact Or.inr (h.work_listed d (List.mem_cons_of_mem _ hd))
  around d hd := by
    rcases mem_listed_attach.1 hd with rfl | hd
    · obtain ⟨e, he, hp⟩ := h.around _ (h.work_listed _ List.mem_cons_self)
      exact ⟨e, he, (List.prefix_append _ _).trans hp⟩
    · exact h.around d hd
  attached d hd := by
    have hold (hd : d ∈ t.listed) :
        d ∈ t.next parent name ++ work ∨ (t.attach parent name).IsAttached d := by
      rcases h.attached d hd with hw | ha
      · rcases List.mem_cons.1 hw with rfl | hw
        · refine Or.inr fun p n he => ?_
          obtain ⟨hp, hn⟩ := List.append_inj' he rfl
          rw [mem_childDirectories_attach, ← hp]
          exact Or.inl ⟨rfl, (List.cons.inj hn).1.symm⟩
        · exact Or.inl (List.mem_append_right _ hw)
      · exact Or.inr (ha.attach parent name)
    rcases mem_listed_attach.1 hd with rfl | hd
    · rcases next_cases t d name with hn | ⟨-, hl⟩
      · refine Or.inl (List.mem_append_left _ ?_)
        rw [hn]
        exact List.mem_singleton_self _
      · exact hold hl
    · exact hold hd
  named d n hn := by
    rw [mem_listed_attach]
    rcases mem_childDirectories_attach.1 hn with ⟨rfl, rfl⟩ | hn
    · exact Or.inr (h.work_listed _ List.mem_cons_self)
    · exact Or.inr (h.named d n hn)

theorem Closing.close (h : Closing given work t) : Closing given [] (t.close work) := by
  induction t, work using ModuleTree.close.induct with
  | case1 t => simpa only [ModuleTree.close] using h
  | case2 t rest ih => simpa only [ModuleTree.close] using ih h.skip_root
  | case3 t s r rest parent name ih =>
    have hsr : s :: r = parent ++ [name] := (List.dropLast_concat_getLast _).symm
    rw [hsr] at h
    rw [ModuleTree.close]
    exact ih h.step

theorem closing_entered (indexFile : String) (paths : List ModulePath) :
    Closing (entered indexFile paths).listed (entered indexFile paths).listed.reverse
      (entered indexFile paths) where
  given_listed _ hd := hd
  work_listed _ hd := List.mem_reverse.1 hd
  around d hd := ⟨d, hd, List.prefix_rfl⟩
  attached _ hd := Or.inl (List.mem_reverse.2 hd)
  named d name hn := by
    rw [childDirectories_entered] at hn
    cases hn

theorem closing_ofModulePaths (indexFile : String) (paths : List ModulePath) :
    Closing (entered indexFile paths).listed [] (ofModulePaths indexFile paths) :=
  (closing_entered indexFile paths).close

theorem childFiles_close (t : ModuleTree) (work : List DirectoryPath) :
    (t.close work).childFiles d = t.childFiles d := by
  induction t, work using ModuleTree.close.induct with
  | case1 t => rw [ModuleTree.close]
  | case2 t rest ih => rw [ModuleTree.close, ih]
  | case3 t s r rest parent name ih =>
    rw [ModuleTree.close, ih]
    rfl

/-! ## Closed trees -/

/-- In a closed tree every name is that of a directory, and every directory has its name. -/
theorem Closing.mem_childDirectories_iff (h : Closing given [] t) {name : String} :
    name ∈ t.childDirectories d ↔ d ++ [name] ∈ t.listed := by
  constructor
  · exact h.named d name
  · intro hd
    rcases h.attached _ hd with hw | ha
    · cases hw
    · exact ha d name rfl

/-- In a closed tree there are the directories around those that were given. -/
theorem Closing.mem_listed_iff (h : Closing given [] t) :
    d ∈ t.listed ↔ ∃ e ∈ given, d <+: e := by
  constructor
  · exact h.around d
  · rintro ⟨e, he, rest, rfl⟩
    replace he := h.given_listed _ he
    induction rest using List.reverseRecOn with
    | nil => rwa [List.append_nil] at he
    | append_singleton rest name ih =>
      rw [← List.append_assoc] at he
      exact ih (listed_of_mem_childDirectories (h.mem_childDirectories_iff.2 he))

/-! ## Trees of paths -/

variable {paths : List ModulePath}

theorem mem_directories_ofModulePaths :
    d ∈ (ofModulePaths indexFile paths).directories ↔ ∃ p ∈ paths, d <+: p.directory := by
  rw [mem_directories, (closing_ofModulePaths indexFile paths).mem_listed_iff]
  constructor
  · rintro ⟨e, he, hd⟩
    obtain ⟨p, hp, rfl⟩ := mem_listed_entered.1 he
    exact ⟨p, hp, hd⟩
  · rintro ⟨p, hp, hd⟩
    exact ⟨_, mem_listed_entered.2 ⟨p, hp, rfl⟩, hd⟩

theorem mem_childDirectories_ofModulePaths {name : String} :
    name ∈ (ofModulePaths indexFile paths).childDirectories d ↔
      d ++ [name] ∈ (ofModulePaths indexFile paths).directories := by
  rw [mem_directories]
  exact (closing_ofModulePaths indexFile paths).mem_childDirectories_iff

theorem mem_childFiles_ofModulePaths {stem : String} :
    stem ∈ (ofModulePaths indexFile paths).childFiles d ↔
      ∃ p ∈ paths, p.directory = d ∧ p.fileName ≠ indexFile ∧ fileStem p.fileName = stem := by
  rw [ofModulePaths, childFiles_close]
  exact mem_childFiles_entered

/-! ## Order -/

/-- The names in each directory are in order. -/
def HasNamesInOrder (t : ModuleTree) : Prop :=
  ∀ d, InOrder textLt (t.childDirectories d) ∧ InOrder textLt (t.childFiles d)

theorem inOrder_namesIn_add {table : NameTable} {parent : DirectoryPath} (name : String)
    (h : InOrder textLt (table.namesIn d)) :
    InOrder textLt ((table.add parent name).namesIn d) := by
  rw [NameTable.add, NameTable.namesIn_update]
  split
  · exact inOrder_insertDistinct isOrder_textLt name h
  · exact h

theorem HasNamesInOrder.enter (h : t.HasNamesInOrder) (p : ModulePath) :
    (t.enter indexFile p).HasNamesInOrder := by
  intro d
  refine ⟨by rw [childDirectories_enter]; exact (h d).1, ?_⟩
  unfold ModuleTree.enter
  split
  · exact (h d).2
  · exact inOrder_namesIn_add _ (h d).2

theorem hasNamesInOrder_entered (indexFile : String) (paths : List ModulePath) :
    (entered indexFile paths).HasNamesInOrder := by
  induction paths using List.reverseRecOn with
  | nil => exact fun d => ⟨List.Pairwise.nil, List.Pairwise.nil⟩
  | append_singleton paths p ih =>
    rw [entered_concat]
    exact ih.enter p

theorem HasNamesInOrder.close (h : t.HasNamesInOrder) (work : List DirectoryPath) :
    (t.close work).HasNamesInOrder := by
  induction t, work using ModuleTree.close.induct with
  | case1 t => rwa [ModuleTree.close]
  | case2 t rest ih =>
    rw [ModuleTree.close]
    exact ih h
  | case3 t s r rest parent name ih =>
    rw [ModuleTree.close]
    exact ih fun d => ⟨inOrder_namesIn_add _ (h d).1, (h d).2⟩

theorem hasNamesInOrder_ofModulePaths (indexFile : String) (paths : List ModulePath) :
    (ofModulePaths indexFile paths).HasNamesInOrder :=
  (hasNamesInOrder_entered indexFile paths).close _

theorem inOrder_directories (t : ModuleTree) : InOrder textsLt t.directories :=
  inOrder_sortDistinct isOrder_textsLt _

end ModuleTree

end AbiBindings
