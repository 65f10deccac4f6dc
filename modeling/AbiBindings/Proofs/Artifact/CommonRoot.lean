import AbiBindings.Artifact.Path

/-!
# The common root

The common root of some artifacts is the longest beginning that their directories share.  So it
depends on which artifacts there are, and not on their order or repetition.

    r <+: commonRoot paths ↔ r is a beginning of every directory        (prefix_commonRoot_iff)
    the same paths have the same common root                            (commonRoot_eq_of_mem_iff)
-/

namespace AbiBindings

/-! ## Shared beginnings -/

section
variable {α : Type}

theorem prefix_of_prefix_nil {r b : List α} (h : r <+: []) : r <+: b := by
  rw [List.prefix_nil.1 h]
  exact List.nil_prefix

theorem prefix_sharedStart_iff [DecidableEq α] {r a b : List α} :
    r <+: sharedStart a b ↔ r <+: a ∧ r <+: b := by
  induction a generalizing r b with
  | nil =>
    have hnil : sharedStart [] b = [] := by cases b <;> rfl
    rw [hnil]
    exact ⟨fun h => ⟨h, prefix_of_prefix_nil h⟩, fun h => h.1⟩
  | cons x a ih =>
    cases b with
    | nil => exact ⟨fun h => ⟨prefix_of_prefix_nil h, h⟩, fun h => h.2⟩
    | cons y b =>
      cases r with
      | nil => simp only [List.nil_prefix, and_self]
      | cons z r =>
        rw [List.cons_prefix_cons, List.cons_prefix_cons]
        by_cases hxy : x = y
        · rw [sharedStart, if_pos hxy, List.cons_prefix_cons, ih, hxy]
          constructor
          · rintro ⟨hz, ha, hb⟩
            exact ⟨⟨hz, ha⟩, hz, hb⟩
          · rintro ⟨⟨hz, ha⟩, -, hb⟩
            exact ⟨hz, ha, hb⟩
        · rw [sharedStart, if_neg hxy, List.prefix_nil]
          constructor
          · intro h
            cases h
          · rintro ⟨⟨hx, -⟩, hy, -⟩
            exact absurd (hx.symm.trans hy) hxy

theorem prefix_foldl_sharedStart_iff [DecidableEq α] {r first : List α} {rest : List (List α)} :
    r <+: rest.foldl sharedStart first ↔ r <+: first ∧ ∀ d ∈ rest, r <+: d := by
  induction rest generalizing first with
  | nil => simp
  | cons d rest ih =>
    rw [List.foldl_cons, ih, prefix_sharedStart_iff, List.forall_mem_cons, and_assoc]

theorem eq_of_prefix_iff {a b : List α} (h : ∀ r, r <+: a ↔ r <+: b) : a = b :=
  ((h a).1 List.prefix_rfl).eq_of_length_le ((h b).2 List.prefix_rfl).length_le

end

/-! ## Roots -/

variable {paths paths' : List String}

/-- The common root is the longest beginning of all directories. -/
theorem prefix_commonRoot_iff (hne : paths ≠ []) {r : List PathPart} :
    r <+: commonRoot paths ↔ ∀ path ∈ paths, r <+: parentParts (pathParts path) := by
  obtain ⟨first, rest, rfl⟩ := List.exists_cons_of_ne_nil hne
  show r <+: (rest.map fun p => parentParts (pathParts p)).foldl sharedStart
    (parentParts (pathParts first)) ↔ _
  rw [prefix_foldl_sharedStart_iff, List.forall_mem_map, List.forall_mem_cons]

theorem commonRoot_eq_of_mem_iff (h : ∀ path, path ∈ paths' ↔ path ∈ paths) :
    commonRoot paths' = commonRoot paths := by
  by_cases hne : paths = []
  · have hne' : paths' = [] := by
      rw [List.eq_nil_iff_forall_not_mem]
      intro path hp
      rw [h, hne] at hp
      cases hp
    rw [hne, hne']
  · obtain ⟨path, hp⟩ := List.exists_mem_of_ne_nil _ hne
    have hne' : paths' ≠ [] := List.ne_nil_of_mem ((h path).2 hp)
    refine eq_of_prefix_iff fun r => ?_
    simp only [prefix_commonRoot_iff hne, prefix_commonRoot_iff hne', h]

end AbiBindings
