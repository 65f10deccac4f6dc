import AbiBindings.Proofs.Struct.Collection
import Mathlib.Data.List.Induction
import Mathlib.Logic.Basic

/-!
# Visits one after the other

Visits to types, on a collection that starts empty.  A clash ends the visit that it happens in and
no other: what was kept before it stays, and later visits go on from there.  So what is known at any
time is the first struct of each name among all that were met so far.

    s.known = firstOfEachName [] s.met, and no visit clashed ↔
      all that were met have one shape per name             (Session.IsFiltered)
    each visit keeps this up                                (Session.IsFiltered.visit)
    what a run of visits leaves                             (visits_keep_first_of_each_name)
-/

namespace AbiBindings.StructCollection

open EvmType

/-- What visits have left: the collection, the structs that were met, and the clashes that ended
visits. -/
structure Session where
  collected : Collected
  met : List StructType
  clashes : List StructClash

namespace Session

def start : Session := ⟨Indexed.empty, [], []⟩

/-- The structs that are known. -/
def known (s : Session) : List StructType := s.collected.items

/-- A visit to a type, from what the visits before it left. -/
def visit (s : Session) (t : EvmType) : Session :=
  let v := s.collected.visit t
  ⟨v.1, s.met ++ metOf t.structsIn s.known, s.clashes ++ v.2.toList⟩

/-- Visits to types, in order. -/
def run (types : List EvmType) : Session := types.foldl visit start

/-- What every visit keeps up, where `nodes` are the structs in all types visited. -/
structure IsFiltered (s : Session) (nodes : List StructType) : Prop where
  known : s.known = firstOfEachName [] s.met
  agree : s.clashes = [] ↔ ∀ m ∈ s.met, Knows s.known m
  all : s.clashes = [] → s.met = nodes

/-- What a visit leaves, found by searching. -/
theorem known_visit (s : Session) (t : EvmType) :
    (s.visit t).known = (StructCollection.visit t s.known).1 ∧
      (s.visit t).clashes = s.clashes ++ (StructCollection.visit t s.known).2.toList := by
  rw [known, known, ← listed_visit]
  exact ⟨rfl, rfl⟩

theorem isFiltered_start : start.IsFiltered [] :=
  ⟨rfl, by simp [start], fun _ => rfl⟩

theorem IsFiltered.visit {s : Session} {nodes : List StructType} (h : s.IsFiltered nodes)
    (t : EvmType) : (s.visit t).IsFiltered (nodes ++ t.structsIn) := by
  have hf := filters_registerAll t.structsIn s.known
  obtain ⟨hknown, hclashes⟩ := s.known_visit t
  rw [visit_eq_registerAll] at hknown hclashes
  have hmet : (s.visit t).met = s.met ++ metOf t.structsIn s.known := rfl
  have hfirsts (l : List StructType) :
      firstOfEachName [] (s.met ++ l) = withFirsts s.known l := by
    rw [← withFirsts_empty, withFirsts_append, withFirsts_empty, ← h.known]
  generalize metOf t.structsIn s.known = met at hf hmet
  generalize registerAll t.structsIn s.known = v at hf hknown hclashes
  cases hf with
  | all hall =>
    rw [Option.toList_none, List.append_nil] at hclashes
    refine ⟨?_, ?_, fun hc => ?_⟩
    · rw [hknown, hmet, hfirsts]
    · rw [hknown, hmet, hclashes, h.agree]
      constructor
      · intro hmet m hm
        rcases List.mem_append.1 hm with hm | hm
        · exact (hmet m hm).mono (withFirsts_extends _ _)
        · exact hall m hm
      · -- What was met before knows its shape already from what was known then.
        intro hmet
        rw [h.known]
        refine oneShapePerName_iff.1 fun a ha b hb hn => ?_
        obtain ⟨k, hk, hka⟩ := hmet a (List.mem_append_left _ ha)
        obtain ⟨k', hk', hkb⟩ := hmet b (List.mem_append_left _ hb)
        rw [hn, hk'] at hk
        rw [← hka, ← hkb, Option.some.inj hk]
    · rw [hmet, h.all (hclashes ▸ hc)]
  | @upTo before after a k hn hbefore hk hs =>
    have hclash : (s.visit t).clashes ≠ [] := by
      rw [hclashes]
      exact List.append_ne_nil_of_right_ne_nil _ (List.cons_ne_nil _ _)
    refine ⟨?_, ?_, fun hc => absurd hc hclash⟩
    · have hold : a.name ∈ (withFirsts s.known before).map (·.name) := by
        obtain ⟨hmem, hkn⟩ := mem_of_firstNamed? hk
        exact hkn ▸ List.mem_map_of_mem hmem
      rw [hknown, hmet, hfirsts, withFirsts_append, withFirsts_cons_of_known hold, withFirsts_nil]
    · rw [hknown, hmet]
      constructor
      · exact fun hc => absurd hc hclash
      · intro hall
        have ha : a ∈ s.met ++ (before ++ [a]) := by simp
        obtain ⟨k', hk', hshape⟩ := hall a ha
        cases hk.symm.trans hk'
        exact absurd hshape hs

theorem run_concat (types : List EvmType) (t : EvmType) :
    run (types ++ [t]) = (run types).visit t := by
  rw [run, List.foldl_append]
  rfl

theorem isFiltered_run (types : List EvmType) :
    (run types).IsFiltered (types.flatMap structsIn) := by
  induction types using List.reverseRecOn with
  | nil => exact isFiltered_start
  | append_singleton types t ih =>
    rw [run_concat, List.flatMap_append, List.flatMap_singleton]
    exact ih.visit t

/-- What is known stays, and in its place. -/
theorem known_run_extends (types more : List EvmType) :
    (run types).known <+: (run (types ++ more)).known := by
  induction more using List.reverseRecOn with
  | nil =>
    have hsame : run types = run (types ++ []) := by rw [List.append_nil]
    exact hsame ▸ List.prefix_refl _
  | append_singleton more t ih =>
    rw [← List.append_assoc, run_concat, (known_visit _ t).1]
    exact ih.trans (visit_extends t _)

end Session

/-- A visit, in any state that a run of visits has left, takes the structs of its type in order: it
keeps the new names and ends at the first struct whose name stands for another shape, whether it
goes by the positions of names or searches for them.  The index has the position of each struct that
is known under its name, and no others.  The structs that are known have different names, stay where
they are, and are the first ones of their names among all that were met; if no visit clashed, these
are all structs in the types.  Some visit clashed exactly if two structs that were met have one name
but not one shape. -/
theorem visits_keep_first_of_each_name (types : List EvmType) :
    let s := Session.run types
    (∀ t, (s.collected.visit t).listed = visit t s.known ∧
      Filters s.known t.structsIn (metOf t.structsIn s.known) (visit t s.known)) ∧
    (∀ n i, s.collected.slots.lookup n = some i ↔ (s.known.map (·.name))[i]? = some n) ∧
    (s.known.map (·.name)).Nodup ∧
    (∀ more, s.known <+: (Session.run (types ++ more)).known) ∧
    s.known = firstOfEachName [] s.met ∧
    (∀ k ∈ s.known, firstNamed? s.met k.name = some k) ∧
    (s.clashes = [] → s.known = firstOfEachName [] (types.flatMap structsIn)) ∧
    (s.clashes ≠ [] ↔ ∃ a ∈ s.met, ∃ b ∈ s.met, a.name = b.name ∧ a.shape ≠ b.shape) := by
  intro s
  have hs := Session.isFiltered_run types
  have hnodup : (s.known.map (·.name)).Nodup := by
    rw [show s.known = _ from hs.known]
    exact nodup_firstOfEachName
  refine ⟨fun t => ⟨listed_visit _ t, ?_⟩, s.collected.aligned, hnodup,
    Session.known_run_extends types, hs.known, fun k hk => ?_, fun hc => ?_, ?_⟩
  · rw [visit_eq_registerAll]
    exact filters_registerAll _ _
  · have hfirst := firstNamed?_of_nodup hnodup hk
    rwa [show s.known = _ from hs.known, firstNamed?_firstOfEachName List.not_mem_nil] at hfirst
  · rw [← hs.all hc]
    exact hs.known
  · rw [not_iff_comm, hs.agree, show (Session.run types).known = _ from hs.known,
      ← oneShapePerName_iff, OneShapePerName]
    simp only [not_exists, not_and, not_not]
    exact Iff.rfl

/-- The second `P` ends the visit before `Q` is met; a later visit to `Q` keeps it. -/
example :
    let p (x : String) : EvmType := .tuple [⟨x, .leaf .bool "bool"⟩] (some ⟨"P", none⟩) "tuple"
    let q : EvmType := .tuple [] (some ⟨"Q", none⟩) "tuple"
    let s := Session.run [.tuple [⟨"", p "a"⟩, ⟨"", p "b"⟩, ⟨"", q⟩] none "tuple", q]
    s.known = [⟨⟨"P", none⟩, [⟨"a", .leaf .bool "bool"⟩], "tuple"⟩, ⟨⟨"Q", none⟩, [], "tuple"⟩] ∧
      s.clashes = [⟨⟨"P", none⟩, "(bool a)", "(bool b)"⟩] := by
  decide +kernel

end AbiBindings.StructCollection
