import AbiBindings.Proofs.Grouping
import AbiBindings.Proofs.Struct.Collection

/-!
# Structs in their namespaces

Of structs of one name the first is kept.  The structs that are kept stand at the top level if they
have no owner, and else in the namespace of their owner, in the order in which they come.  Owners
stand in the order in which they first occur, and nothing is lost or doubled.

    what is kept of a list                                 (keepsFirst_firstOfEachName)
    the structs without an owner are at the top level      (topLevel_ofStructs)
    the namespaces are the groups of the other ones        (namespaces_ofStructs)
-/

namespace AbiBindings

open StructCollection

variable {structs : List StructType}

/-! ## The first of each name -/

/-- Of the structs of one name the first is kept, and all that is kept keeps its order. -/
structure KeepsFirstOfEachName (structs kept : List StructType) : Prop where
  sublist : kept.Sublist structs
  inOrder : InFirstSeenOrder (structs.map (·.name)) (kept.map (·.name))
  mem_iff : ∀ s, s ∈ kept ↔ firstNamed? structs s.name = some s

theorem sublist_firstOfEachName (seen : List StructName) (l : List StructType) :
    (firstOfEachName seen l).Sublist l := by
  induction l generalizing seen with
  | nil => exact List.Sublist.refl _
  | cons s rest ih =>
    unfold firstOfEachName
    split
    · exact (ih seen).cons s
    · exact (ih _).cons_cons s

theorem inOrder_firstOfEachName (seen : List StructName) (l : List StructType) :
    InFirstSeenOrder (l.map (·.name)) ((firstOfEachName seen l).map (·.name)) := by
  induction l generalizing seen with
  | nil => exact List.Pairwise.nil
  | cons s rest ih =>
    have hnot {seen : List StructName} (hs : s.name ∈ seen) :
        s.name ∉ (firstOfEachName seen rest).map (·.name) := by
      intro hmem
      obtain ⟨k, hk, hn⟩ := List.mem_map.1 hmem
      exact (of_mem_firstOfEachName hk).2 (hn ▸ hs)
    unfold firstOfEachName
    split
    · rename_i hs
      exact (ih seen).behind (hnot hs)
    · exact (ih _).cons (hnot List.mem_cons_self)

theorem keepsFirst_firstOfEachName (structs : List StructType) :
    KeepsFirstOfEachName structs (firstOfEachName [] structs) where
  sublist := sublist_firstOfEachName [] structs
  inOrder := inOrder_firstOfEachName [] structs
  mem_iff s := by
    rw [← firstNamed?_firstOfEachName (l := structs) List.not_mem_nil]
    constructor
    · exact firstNamed?_of_nodup nodup_firstOfEachName
    · intro h
      exact (mem_of_firstNamed? h).1

/-! ## Groups -/

/-- The namespaces among groups of structs. -/
def namespacesOf (groups : List (Option String × List StructType)) :
    List (String × List StructType) :=
  groups.filterMap fun g => g.1.map fun owner => (owner, g.2)

/-- One group after the other: the last one without an owner stays at the top level. -/
theorem foldl_add (groups : List (Option String × List StructType)) (start : NamespaceGroups)
    (h : (groups.map (·.1)).Nodup) :
    groups.foldl NamespaceGroups.add start =
      ⟨(groups.lookup none).getD start.topLevel, start.namespaces ++ namespacesOf groups⟩ := by
  induction groups generalizing start with
  | nil => simp [namespacesOf]
  | cons g rest ih =>
    obtain ⟨owner, l⟩ := g
    rw [List.map_cons, List.nodup_cons] at h
    rw [List.foldl_cons, ih _ h.2]
    cases owner with
    | none =>
      -- No other group is without an owner.
      have hrest : rest.lookup none = none := by
        rw [List.lookup_eq_none_iff]
        intro p hp
        rw [bne_iff_ne]
        intro he
        exact h.1 (List.mem_map.2 ⟨p, hp, he.symm⟩)
      rw [hrest]
      rfl
    | some owner => simp [NamespaceGroups.add, namespacesOf, List.lookup_cons]

theorem ofStructs_eq (structs : List StructType) :
    NamespaceGroups.ofStructs structs =
      ⟨((groupByFirstSeen (·.name.owner) (firstOfEachName [] structs)).lookup none).getD [],
        namespacesOf (groupByFirstSeen (·.name.owner) (firstOfEachName [] structs))⟩ := by
  rw [NamespaceGroups.ofStructs, foldl_add _ _ (nodup_keys_groupByFirstSeen _ _)]
  rfl

/-- At the top level are the structs without an owner. -/
theorem topLevel_ofStructs :
    (NamespaceGroups.ofStructs structs).topLevel =
      (firstOfEachName [] structs).filter (·.name.owner = none) := by
  rw [ofStructs_eq, lookup_groupByFirstSeen]
  split
  · rfl
  · rename_i hnone
    refine (List.filter_eq_nil_iff.2 fun s hs ho => hnone ?_).symm
    exact List.mem_map.2 ⟨s, hs, of_decide_eq_true ho⟩

/-- There is a namespace for each owner of a struct, and it holds the structs of the owner. -/
theorem mem_namespaces_ofStructs_iff {owner : String} {g : List StructType} :
    (owner, g) ∈ (NamespaceGroups.ofStructs structs).namespaces ↔
      (∃ s ∈ firstOfEachName [] structs, s.name.owner = some owner) ∧
        g = (firstOfEachName [] structs).filter (·.name.owner = some owner) := by
  rw [ofStructs_eq, namespacesOf, List.mem_filterMap]
  constructor
  · rintro ⟨⟨owner?, l⟩, hmem, hmap⟩
    obtain ⟨_, rfl, he⟩ := Option.map_eq_some_iff.1 hmap
    cases he
    exact mem_groupByFirstSeen_iff.1 hmem
  · intro h
    exact ⟨(some owner, g), mem_groupByFirstSeen_iff.2 h, rfl⟩

/-- The structs at the top level and in namespaces are the first ones of their names. -/
theorem mem_ofStructs_iff {s : StructType} :
    (s ∈ (NamespaceGroups.ofStructs structs).topLevel ∨
      ∃ g ∈ (NamespaceGroups.ofStructs structs).namespaces, s ∈ g.2) ↔
      s ∈ firstOfEachName [] structs := by
  rw [topLevel_ofStructs, List.mem_filter, decide_eq_true_eq]
  constructor
  · rintro (h | ⟨⟨owner, g⟩, hg, hs⟩)
    · exact h.1
    · obtain ⟨-, rfl⟩ := mem_namespaces_ofStructs_iff.1 hg
      exact (List.mem_filter.1 hs).1
  · intro h
    cases ho : s.name.owner with
    | none => exact .inl ⟨h, rfl⟩
    | some owner =>
      exact .inr ⟨(owner, _), mem_namespaces_ofStructs_iff.2 ⟨⟨s, h, ho⟩, rfl⟩,
        List.mem_filter.2 ⟨h, decide_eq_true ho⟩⟩

/-! ## Order of namespaces -/

/-- The namespaces are the groups of the structs with an owner. -/
theorem namespaces_ofStructs (structs : List StructType) :
    (NamespaceGroups.ofStructs structs).namespaces.map (fun g => (some g.1, g.2)) =
      groupByFirstSeen (·.name.owner)
        ((firstOfEachName [] structs).filter (·.name.owner.isSome)) := by
  have hsome (groups : List (Option String × List StructType)) :
      (namespacesOf groups).map (fun g => (some g.1, g.2)) = groups.filter (·.1.isSome) := by
    unfold namespacesOf
    induction groups with
    | nil => rfl
    | cons g rest ih =>
      obtain ⟨owner, l⟩ := g
      cases owner <;> simp [ih]
  rw [ofStructs_eq, hsome]
  exact filter_groupByFirstSeen Option.isSome (fun s => s.name.owner) (firstOfEachName [] structs)

theorem perm_ofStructs (structs : List StructType) :
    ((NamespaceGroups.ofStructs structs).topLevel ++
        (NamespaceGroups.ofStructs structs).namespaces.flatMap (·.2)).Perm
      (firstOfEachName [] structs) := by
  have hnamespaces : ((NamespaceGroups.ofStructs structs).namespaces.flatMap (·.2)).Perm
      ((firstOfEachName [] structs).filter (·.name.owner.isSome)) := by
    have hperm := perm_groupByFirstSeen (fun s : StructType => s.name.owner)
      ((firstOfEachName [] structs).filter (·.name.owner.isSome))
    rw [← namespaces_ofStructs, List.flatMap_map] at hperm
    exact hperm
  have hnot : (firstOfEachName [] structs).filter (·.name.owner.isSome) =
      (firstOfEachName [] structs).filter (fun s => !decide (s.name.owner = none)) := by
    refine List.filter_congr fun s _ => ?_
    cases s.name.owner <;> rfl
  rw [topLevel_ofStructs]
  refine (hnamespaces.append_left _).trans ?_
  rw [hnot]
  exact List.filter_append_perm _ _

/-- Grouping loses, doubles and reorders nothing: neither the items of a list by a key, nor the
first structs of each name by their owners, those without an owner apart. -/
theorem grouping_keeps_all {α κ : Type} [DecidableEq κ] (key : α → κ) (items : List α)
    (structs : List StructType) :
    IsGroupedBy key items (groupByFirstSeen key items) ∧
    let kept := firstOfEachName [] structs
    let groups := NamespaceGroups.ofStructs structs
    KeepsFirstOfEachName structs kept ∧
    groups.topLevel = kept.filter (·.name.owner = none) ∧
    IsGroupedBy (·.name.owner) (kept.filter (·.name.owner.isSome))
      (groups.namespaces.map fun g => (some g.1, g.2)) ∧
    (groups.topLevel ++ groups.namespaces.flatMap (·.2)).Perm kept := by
  refine ⟨isGroupedBy_groupByFirstSeen key items, keepsFirst_firstOfEachName structs,
    topLevel_ofStructs, ?_, perm_ofStructs structs⟩
  rw [namespaces_ofStructs]
  exact isGroupedBy_groupByFirstSeen _ _

end AbiBindings
