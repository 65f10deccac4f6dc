import AbiBindings.Proofs.EvmType.SourceName
import AbiBindings.Proofs.Struct.Session

/-!
# Structs that a collection keeps apart

A collection compares structs by their shapes.  Where names can be read out of shapes, two structs
of one shape have the same components but for spellings, so nothing else goes through a collection
under one name, be it in one pass over many types or in visits one after the other.

    register s known passes ↔ s is what its name stands for already     (register_passes_iff)
    OneShapePerName l ↔ OneDefinitionPerName l                  (oneShapePerName_iff_definition)
-/

namespace AbiBindings

namespace EvmType

mutual

theorem haveReadableNames_of_mem : (t : EvmType) → t.HasReadableNames → {s : StructType} →
    s ∈ t.structsIn → HaveReadableNames s.components
  | .leaf _ _, _, _, hs => by cases hs
  | .array element _ _, h, _, hs => haveReadableNames_of_mem element h hs
  | .tuple cs none _, h, _, hs => haveReadableNames_of_mems cs h.2 hs
  | .tuple cs (some n) spelling, h, _, hs => by
    rcases List.mem_cons.1 hs with rfl | hs
    · exact h.2
    · exact haveReadableNames_of_mems cs h.2 hs

theorem haveReadableNames_of_mems : (cs : List (Named EvmType)) → HaveReadableNames cs →
    {s : StructType} → s ∈ structsInAll cs → HaveReadableNames s.components
  | [], _, _, hs => by cases hs
  | ⟨_, t⟩ :: cs, h, _, hs => by
    rcases List.mem_append.1 hs with hs | hs
    · exact haveReadableNames_of_mem t h.2.1 hs
    · exact haveReadableNames_of_mems cs h.2.2 hs

end

end EvmType

namespace StructCollection

open EvmType

/-- Structs of one name have the same components, but for spellings. -/
def OneDefinitionPerName (l : List StructType) : Prop :=
  ∀ a ∈ l, ∀ b ∈ l, a.name = b.name → erasedAll a.components = erasedAll b.components

theorem oneShapePerName_iff_definition {l : List StructType}
    (h : ∀ s ∈ l, HaveReadableNames s.components) :
    OneShapePerName l ↔ OneDefinitionPerName l := by
  constructor
  · intro hone a ha b hb hn
    exact (shape_struct_eq_iff (h a ha) (h b hb)).1 (hone a ha b hb hn)
  · intro hone a ha b hb hn
    exact (shape_struct_eq_iff (h a ha) (h b hb)).2 (hone a ha b hb hn)

/-- A struct passes if its name is new or stands for a struct with its components. -/
theorem register_passes_iff {s : StructType} {known : List StructType}
    (hs : HaveReadableNames s.components) (hk : ∀ k ∈ known, HaveReadableNames k.components) :
    (register s known).2 = none ↔
      ∀ k, firstNamed? known s.name = some k →
        erasedAll k.components = erasedAll s.components := by
  cases hfirst : firstNamed? known s.name with
  | none => simp [register_of_new hfirst]
  | some k =>
    have hkn := hk k (mem_of_firstNamed? hfirst).1
    simp [register_of_known hfirst, ← shape_struct_eq_iff hkn hs]

/-! ## Visits -/

theorem metOf_subset (nodes known : List StructType) : metOf nodes known ⊆ nodes := by
  induction nodes generalizing known with
  | nil => exact List.Subset.refl _
  | cons s rest ih =>
    rw [metOf]
    refine List.cons_subset_cons s ?_
    split
    · exact ih _
    · exact List.nil_subset _

theorem Session.met_run_subset (types : List EvmType) :
    (run types).met ⊆ types.flatMap structsIn := by
  induction types using List.reverseRecOn with
  | nil => exact List.Subset.refl _
  | append_singleton types t ih =>
    rw [run_concat, List.flatMap_append, List.flatMap_singleton]
    exact List.append_subset.2 ⟨List.Subset.trans ih (List.subset_append_left _ _),
      List.Subset.trans (metOf_subset _ _) (List.subset_append_right _ _)⟩

/-- No visit of a run clashes exactly if the structs in the types have one shape per name. -/
theorem Session.clashes_run_eq_nil_iff (types : List EvmType) :
    (run types).clashes = [] ↔ OneShapePerName (types.flatMap structsIn) := by
  have hs := isFiltered_run types
  have hmet : (run types).clashes = [] ↔ OneShapePerName (run types).met := by
    rw [hs.agree, hs.known, ← oneShapePerName_iff]
  constructor
  · intro hc
    rw [← hs.all hc]
    exact hmet.1 hc
  · intro hone
    have hsub := met_run_subset types
    exact hmet.2 fun a ha b hb => hone a (hsub ha) b (hsub hb)

/-- Types, and likewise structs but for their own names, have one shape exactly if they are the
same but for spellings, given that their names can be read out of shapes.  So a collection lets a
struct pass exactly if its name is new or stands for the same components; types are collected, and
visited without a clash, exactly if all structs of one name in them have the same components. -/
theorem shapes_tell_structs_apart :
    (∀ t u : EvmType, t.HasReadableNames → u.HasReadableNames →
      (t.shape = u.shape ↔ t.erased = u.erased)) ∧
    (∀ s r : StructType, HaveReadableNames s.components → HaveReadableNames r.components →
      (s.shape = r.shape ↔ erasedAll s.components = erasedAll r.components)) ∧
    (∀ (s : StructType) (known : List StructType), HaveReadableNames s.components →
      (∀ k ∈ known, HaveReadableNames k.components) →
      ((register s known).2 = none ↔ ∀ k, firstNamed? known s.name = some k →
        erasedAll k.components = erasedAll s.components)) ∧
    (∀ (s : StructType) (known : Collected), HaveReadableNames s.components →
      (∀ k ∈ known.items, HaveReadableNames k.components) →
      ((Collected.register s known).2 = none ↔ ∀ k, firstNamed? known.items s.name = some k →
        erasedAll k.components = erasedAll s.components)) ∧
    ∀ types : List EvmType, (∀ t ∈ types, t.HasReadableNames) →
      ((∃ structs, ofTypes types = .ok structs) ↔
        OneDefinitionPerName (types.flatMap structsIn)) ∧
      ((Session.run types).clashes = [] ↔ OneDefinitionPerName (types.flatMap structsIn)) := by
  refine ⟨fun t u => shape_eq_iff, fun s r => shape_struct_eq_iff,
    fun s known => register_passes_iff, fun s known hs hk => ?_, fun types h => ?_⟩
  · rw [← register_passes_iff hs hk, ← listed_register]
    exact Iff.rfl
  have hreadable : ∀ s ∈ types.flatMap structsIn, HaveReadableNames s.components := by
    intro s hs
    obtain ⟨t, ht, hst⟩ := List.mem_flatMap.1 hs
    exact haveReadableNames_of_mem t (h t ht) hst
  rw [← oneShapePerName_iff_definition hreadable]
  refine ⟨?_, Session.clashes_run_eq_nil_iff types⟩
  constructor
  · rintro ⟨structs, hok⟩
    exact (ofTypes_eq_ok_iff.1 hok).1
  · intro hone
    exact ⟨_, ofTypes_eq_ok_iff.2 ⟨hone, rfl⟩⟩

/-- Points of two widths have two shapes, so visits to both clash. -/
theorem shapes_tell_structs_apart_point :
    let point (bits : Nat) : EvmType :=
      .tuple [⟨"x", .leaf (.uint bits) "uint"⟩] (some ⟨"Point", some "Plane"⟩) "tuple"
    (∀ bits, (point bits).HasReadableNames) ∧ (point 8).shape ≠ (point 16).shape ∧
      (Session.run [point 8, point 16]).clashes ≠ [] := by
  intro point
  have hreadable (bits : Nat) : (point bits).HasReadableNames := hasReadableNames_of_source _ rfl
  obtain ⟨htypes, -, -, -, hvisits⟩ := shapes_tell_structs_apart
  have hne : (point 8).erased ≠ (point 16).erased := by decide
  refine ⟨hreadable, mt (htypes _ _ (hreadable 8) (hreadable 16)).1 hne, fun hc => ?_⟩
  have hone := ((hvisits [point 8, point 16] (by simp [hreadable])).2.1 hc)
    _ List.mem_cons_self _ (List.mem_cons_of_mem _ List.mem_cons_self) rfl
  exact absurd hone (by decide)

end StructCollection

end AbiBindings
