import AbiBindings.ModuleTree.Path
import AbiBindings.Ordered

/-!
# Names by directory

A table lists directories, each with names in order.  A directory may be listed without names, and
one that is not listed has none.

    e ∈ (update d change t).directories ↔ e = d ∨ e ∈ t.directories     (mem_directories_update)
    the names in d are changed, and no others                           (namesIn_update)
-/

namespace AbiBindings

/-! ## Algorithm -/

/-- Directories, and the names in each. -/
abbrev NameTable := List (DirectoryPath × List String)

namespace NameTable

/-- The directories that are listed. -/
def directories (t : NameTable) : List DirectoryPath := t.map (·.1)

/-- The names in a directory. -/
def namesIn (t : NameTable) (d : DirectoryPath) : List String := (t.lookup d).getD []

/-- Changes the names in a directory, which is listed from then on. -/
def update (d : DirectoryPath) (change : List String → List String) : NameTable → NameTable
  | [] => [(d, change [])]
  | (e, names) :: rest =>
    if e = d then (e, change names) :: rest else (e, names) :: update d change rest

/-- Lists a directory. -/
def touch (d : DirectoryPath) (t : NameTable) : NameTable := update d id t

/-- Adds a name in a directory. -/
def add (d : DirectoryPath) (name : String) (t : NameTable) : NameTable :=
  update d (insertDistinct textLt name) t

/-! ## Lemmas -/

theorem mem_directories_update {d e : DirectoryPath} {change : List String → List String}
    {t : NameTable} : e ∈ (update d change t).directories ↔ e = d ∨ e ∈ t.directories := by
  unfold directories
  induction t with
  | nil => simp [update]
  | cons entry rest ih =>
    obtain ⟨d', names⟩ := entry
    by_cases h : d' = d
    · simp [update, h]
    · simp only [update, if_neg h, List.map_cons, List.mem_cons, ih]
      exact or_left_comm

theorem namesIn_update (d e : DirectoryPath) (change : List String → List String) (t : NameTable) :
    (update d change t).namesIn e = if e = d then change (t.namesIn e) else t.namesIn e := by
  unfold namesIn
  induction t with
  | nil =>
    by_cases h : e = d
    · simp [update, h]
    · simp [update, h, List.lookup_cons, beq_eq_false_iff_ne.2 h]
  | cons entry rest ih =>
    obtain ⟨d', names⟩ := entry
    by_cases h : d' = d
    · by_cases he : e = d
      · simp [update, h, he]
      · simp [update, h, he, List.lookup_cons, beq_eq_false_iff_ne.2 he]
    · by_cases he : e = d'
      · simp [update, h, he]
      · simpa [update, h, List.lookup_cons, beq_eq_false_iff_ne.2 he] using ih

theorem mem_directories_of_mem_namesIn {t : NameTable} {d : DirectoryPath} {name : String}
    (h : name ∈ t.namesIn d) : d ∈ t.directories := by
  unfold namesIn at h
  cases hl : t.lookup d with
  | none => simp [hl] at h
  | some names =>
    obtain ⟨l₁, l₂, rfl, -⟩ := List.lookup_eq_some_iff.1 hl
    simp [directories]

end NameTable

end AbiBindings
