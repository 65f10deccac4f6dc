import AbiBindings.Grouping
import Mathlib.Data.List.Basic
import Mathlib.Data.List.Induction

/-!
# What groups hold

There is one group for each key that occurs, and it holds the items of this key, in their order.
The groups stand in the order in which their keys first occur, and they hold every item once.

    the index leads to the group that a search meets       (Groups.items_add)
    the keys of groups are distinct                        (nodup_keys_groupByFirstSeen)
    the group of a key is the sublist of its items         (lookup_groupByFirstSeen)
    all of this at once                                    (isGroupedBy_groupByFirstSeen)
    groups of some keys = groups of the items of the keys  (filter_groupByFirstSeen)
-/

namespace AbiBindings

/-! ## Adding an item -/

section
variable {α κ : Type} [DecidableEq κ]

/-- Adds an item to the first group of its key, or starts a group at the end. -/
def addToGroup (key : κ) (item : α) : List (κ × List α) → List (κ × List α)
  | [] => [(key, [item])]
  | (k, items) :: rest =>
    if k = key then (k, items ++ [item]) :: rest else (k, items) :: addToGroup key item rest

theorem keys_addToGroup (key : κ) (item : α) (groups : List (κ × List α)) :
    (addToGroup key item groups).map (·.1) =
      if key ∈ groups.map (·.1) then groups.map (·.1) else groups.map (·.1) ++ [key] := by
  induction groups with
  | nil => simp [addToGroup]
  | cons g rest ih =>
    obtain ⟨k, items⟩ := g
    by_cases h : k = key
    · simp [addToGroup, h]
    · by_cases hr : key ∈ rest.map (·.1) <;> simp [addToGroup, h, Ne.symm h, ih, hr]

theorem addToGroup_of_not_mem {key : κ} {groups : List (κ × List α)}
    (h : key ∉ groups.map (·.1)) (item : α) :
    addToGroup key item groups = groups ++ [(key, [item])] := by
  induction groups with
  | nil => rfl
  | cons g rest ih =>
    obtain ⟨k, items⟩ := g
    rw [List.map_cons, List.mem_cons, not_or] at h
    rw [addToGroup, if_neg (Ne.symm h.1), ih h.2, List.cons_append]

/-- With distinct keys, the group that is found at a position is the one that a search meets. -/
theorem addToGroup_eq_modify {key : κ} {groups : List (κ × List α)} {i : Nat}
    (hn : (groups.map (·.1)).Nodup) (hi : (groups.map (·.1))[i]? = some key) (item : α) :
    addToGroup key item groups = groups.modify i fun g => (g.1, g.2 ++ [item]) := by
  induction groups generalizing i with
  | nil => cases hi
  | cons g rest ih =>
    obtain ⟨k, items⟩ := g
    rw [List.map_cons, List.nodup_cons] at hn
    cases i with
    | zero =>
      have hk : k = key := Option.some.inj hi
      rw [addToGroup, if_pos hk, List.modify_zero_cons]
    | succ i =>
      have hrest : (rest.map (·.1))[i]? = some key := hi
      have hk : k ≠ key := fun he => hn.1 (he ▸ List.mem_of_getElem? hrest)
      rw [addToGroup, if_neg hk, ih hn.2 hrest, List.modify_succ_cons]

/-- Going by the index, an item gets into the group that a search for its key meets. -/
theorem Groups.items_add (key : α → κ) (groups : Groups α κ) (item : α) :
    (groups.add key item).items = addToGroup (key item) item groups.items := by
  unfold Groups.add
  split
  · rename_i slot h
    have hkey := (groups.slot?_eq_some_iff _ _).1 h
    have hslot : (groups.items.map (·.1))[slot.val]? = some (key item) := by
      rw [List.getElem?_map, List.getElem?_eq_getElem slot.isLt]
      exact congrArg some hkey
    exact (addToGroup_eq_modify groups.nodup_keys hslot item).symm
  · rename_i h
    exact (addToGroup_of_not_mem ((groups.slot?_eq_none_iff _).1 h) item).symm

theorem groupByFirstSeen_append (key : α → κ) (items : List α) (item : α) :
    groupByFirstSeen key (items ++ [item]) =
      addToGroup (key item) item (groupByFirstSeen key items) := by
  rw [groupByFirstSeen, List.foldl_append]
  exact Groups.items_add key _ item

theorem nodup_keys_groupByFirstSeen (key : α → κ) (items : List α) :
    ((groupByFirstSeen key items).map (·.1)).Nodup :=
  Indexed.nodup_keys _

end

/-! ## Groups by key -/

section
variable {α κ : Type} [DecidableEq κ] [BEq κ] [LawfulBEq κ]

theorem lookup_addToGroup (key k : κ) (item : α) (groups : List (κ × List α)) :
    (addToGroup key item groups).lookup k =
      if k = key then some ((groups.lookup key).getD [] ++ [item]) else groups.lookup k := by
  by_cases h : k = key
  · rw [if_pos h, h]
    induction groups with
    | nil => simp [addToGroup]
    | cons g rest ih =>
      obtain ⟨k', items⟩ := g
      by_cases hk : k' = key
      · simp [addToGroup, hk]
      · have hkey : (key == k') = false := beq_eq_false_iff_ne.2 (Ne.symm hk)
        simpa [addToGroup, List.lookup_cons, hk, hkey] using ih
  · have hne : (k == key) = false := beq_eq_false_iff_ne.2 h
    rw [if_neg h]
    induction groups with
    | nil => simp [addToGroup, List.lookup_cons, hne]
    | cons g rest ih =>
      obtain ⟨k', items⟩ := g
      by_cases hk : k' = key
      · simp [addToGroup, List.lookup_cons, hk, hne]
      · simp [addToGroup, List.lookup_cons, hk, ih]

/-- Looking a key up gives the items of the key, if there are any. -/
theorem lookup_groupByFirstSeen (key : α → κ) (items : List α) (k : κ) :
    (groupByFirstSeen key items).lookup k =
      if k ∈ items.map key then some (items.filter (key · = k)) else none := by
  induction items using List.reverseRecOn generalizing k with
  | nil => rfl
  | append_singleton items item ih =>
    rw [groupByFirstSeen_append, lookup_addToGroup, ih, ih]
    by_cases hk : k = key item
    · subst hk
      have hnone (h : key item ∉ items.map key) : items.filter (key · = key item) = [] :=
        List.filter_eq_nil_iff.2 fun a ha hak =>
          h (List.mem_map.2 ⟨a, ha, of_decide_eq_true hak⟩)
      by_cases hm : key item ∈ items.map key
      · simp [hm]
      · simp [hm, hnone hm]
    · have hne : key item ≠ k := Ne.symm hk
      simp [hk, hne]

omit [DecidableEq κ] in
/-- With distinct keys, the entries of a table are those that are found in it. -/
theorem mem_iff_lookup_eq_some {l : List (κ × α)} (h : (l.map (·.1)).Nodup) {k : κ} {a : α} :
    (k, a) ∈ l ↔ l.lookup k = some a := by
  rw [List.lookup_eq_some_iff]
  constructor
  · intro hm
    obtain ⟨before, after, rfl⟩ := List.append_of_mem hm
    rw [List.map_append, List.nodup_append] at h
    refine ⟨before, after, rfl, fun p hp => ?_⟩
    rw [bne_iff_ne]
    rintro rfl
    exact h.2.2 _ (List.mem_map_of_mem hp) _ List.mem_cons_self rfl
  · rintro ⟨before, after, rfl, -⟩
    exact List.mem_append_right _ List.mem_cons_self

/-- There is a group for each key of an item, and it consists of the items of this key. -/
theorem mem_groupByFirstSeen_iff {key : α → κ} {items : List α} {k : κ} {g : List α} :
    (k, g) ∈ groupByFirstSeen key items ↔
      (∃ a ∈ items, key a = k) ∧ g = items.filter (key · = k) := by
  rw [mem_iff_lookup_eq_some (nodup_keys_groupByFirstSeen key items), lookup_groupByFirstSeen,
    ← List.mem_map]
  split
  · rename_i hm
    simp [hm, eq_comm]
  · rename_i hm
    simp [hm]

end

/-! ## Order of keys -/

section
variable {α κ : Type} [DecidableEq κ]

/-- Keys of a list in the order in which they first occur in it. -/
def InFirstSeenOrder (l keys : List κ) : Prop := keys.Pairwise fun j k => l.idxOf j < l.idxOf k

variable {l keys : List κ} {k : κ}

/-- What comes later does not matter to the keys that were seen. -/
theorem InFirstSeenOrder.append (h : InFirstSeenOrder l keys) (hs : keys ⊆ l) (more : List κ) :
    InFirstSeenOrder (l ++ more) keys := by
  refine List.Pairwise.imp_of_mem (fun {i j} hi hj hlt => ?_) h
  rw [List.idxOf_append_of_mem (hs hi), List.idxOf_append_of_mem (hs hj)]
  exact hlt

/-- A key that was not seen comes last. -/
theorem InFirstSeenOrder.snoc (h : InFirstSeenOrder l keys) (hs : keys ⊆ l) (hnew : k ∉ l) :
    InFirstSeenOrder (l ++ [k]) (keys ++ [k]) := by
  refine List.pairwise_append.2 ⟨h.append hs [k], List.pairwise_singleton _ _, fun j hj i hi => ?_⟩
  rw [List.mem_singleton] at hi
  rw [hi, List.idxOf_append_of_mem (hs hj), List.idxOf_append_of_notMem hnew]
  have := List.idxOf_lt_length_of_mem (hs hj)
  omega

/-- A key in front does not matter to the other ones. -/
theorem InFirstSeenOrder.behind (h : InFirstSeenOrder l keys) (hk : k ∉ keys) :
    InFirstSeenOrder (k :: l) keys := by
  refine List.Pairwise.imp_of_mem (fun {i j} hi hj hlt => ?_) h
  have hki : k ≠ i := fun he => hk (he ▸ hi)
  have hkj : k ≠ j := fun he => hk (he ▸ hj)
  rw [List.idxOf_cons_ne _ hki, List.idxOf_cons_ne _ hkj]
  omega

theorem InFirstSeenOrder.cons (h : InFirstSeenOrder l keys) (hk : k ∉ keys) :
    InFirstSeenOrder (k :: l) (k :: keys) := by
  refine List.pairwise_cons.2 ⟨fun j hj => ?_, h.behind hk⟩
  have hkj : k ≠ j := fun he => hk (he ▸ hj)
  rw [List.idxOf_cons_self, List.idxOf_cons_ne _ hkj]
  omega

/-! ## All groups -/

/-- The groups of a list: one for each key, in the order in which the keys first occur, with the
items of the key in their order. -/
structure IsGroupedBy (key : α → κ) (items : List α) (groups : List (κ × List α)) : Prop where
  nodup : (groups.map (·.1)).Nodup
  inOrder : InFirstSeenOrder (items.map key) (groups.map (·.1))
  mem_iff : ∀ k group, (k, group) ∈ groups ↔ group = items.filter (key · = k) ∧ group ≠ []
  perm : (groups.flatMap (·.2)).Perm items

theorem mem_keys_groupByFirstSeen_iff {key : α → κ} {items : List α} {k : κ} :
    k ∈ (groupByFirstSeen key items).map (·.1) ↔ k ∈ items.map key := by
  constructor
  · intro h
    obtain ⟨⟨j, group⟩, hmem, rfl⟩ := List.mem_map.1 h
    obtain ⟨⟨a, ha, hk⟩, -⟩ := mem_groupByFirstSeen_iff.1 hmem
    exact List.mem_map.2 ⟨a, ha, hk⟩
  · intro h
    obtain ⟨a, ha, hk⟩ := List.mem_map.1 h
    exact List.mem_map.2 ⟨(k, _), mem_groupByFirstSeen_iff.2 ⟨⟨a, ha, hk⟩, rfl⟩, rfl⟩

theorem inOrder_groupByFirstSeen (key : α → κ) (items : List α) :
    InFirstSeenOrder (items.map key) ((groupByFirstSeen key items).map (·.1)) := by
  induction items using List.reverseRecOn with
  | nil => exact List.Pairwise.nil
  | append_singleton items item ih =>
    have hs : (groupByFirstSeen key items).map (·.1) ⊆ items.map key :=
      fun k hk => mem_keys_groupByFirstSeen_iff.1 hk
    rw [groupByFirstSeen_append, keys_addToGroup, List.map_append, List.map_singleton]
    split
    · exact ih.append hs _
    · rename_i hnew
      rw [mem_keys_groupByFirstSeen_iff] at hnew
      exact ih.snoc hs hnew

/-- An item that is added to its group is one more. -/
theorem perm_addToGroup (key : κ) (item : α) (groups : List (κ × List α)) :
    ((addToGroup key item groups).flatMap (·.2)).Perm (groups.flatMap (·.2) ++ [item]) := by
  induction groups with
  | nil => simp [addToGroup]
  | cons g rest ih =>
    obtain ⟨k, items⟩ := g
    by_cases h : k = key
    · simp only [addToGroup, if_pos h, List.flatMap_cons, List.append_assoc]
      exact List.perm_append_comm.append_left items
    · simp only [addToGroup, if_neg h, List.flatMap_cons, List.append_assoc]
      exact ih.append_left items

theorem perm_groupByFirstSeen (key : α → κ) (items : List α) :
    ((groupByFirstSeen key items).flatMap (·.2)).Perm items := by
  induction items using List.reverseRecOn with
  | nil => exact List.Perm.refl _
  | append_singleton items item ih =>
    rw [groupByFirstSeen_append]
    exact (perm_addToGroup _ _ _).trans (ih.append_right _)

theorem isGroupedBy_groupByFirstSeen (key : α → κ) (items : List α) :
    IsGroupedBy key items (groupByFirstSeen key items) where
  nodup := nodup_keys_groupByFirstSeen key items
  inOrder := inOrder_groupByFirstSeen key items
  mem_iff k group := by
    rw [mem_groupByFirstSeen_iff]
    constructor
    · rintro ⟨⟨a, ha, hk⟩, rfl⟩
      refine ⟨rfl, List.ne_nil_of_mem (a := a) ?_⟩
      simp [ha, hk]
    · rintro ⟨rfl, hne⟩
      obtain ⟨a, ha⟩ := List.exists_mem_of_ne_nil _ hne
      rw [List.mem_filter, decide_eq_true_eq] at ha
      exact ⟨⟨a, ha⟩, rfl⟩
  perm := perm_groupByFirstSeen key items

/-! ### Some of the keys -/

theorem filter_addToGroup (p : κ → Bool) (key : κ) (item : α) (groups : List (κ × List α)) :
    (addToGroup key item groups).filter (fun g => p g.1) =
      if p key then addToGroup key item (groups.filter fun g => p g.1)
      else groups.filter fun g => p g.1 := by
  induction groups with
  | nil => cases hp : p key <;> simp [addToGroup, hp]
  | cons g rest ih =>
    obtain ⟨k, items⟩ := g
    by_cases h : k = key
    · subst h
      cases hp : p k <;> simp [addToGroup, hp]
    · cases hp : p key <;> cases hk : p k <;> simp [addToGroup, h, hp, hk, ih]

/-- The groups of some of the keys are the groups of the items with these keys. -/
theorem filter_groupByFirstSeen (p : κ → Bool) (key : α → κ) (items : List α) :
    (groupByFirstSeen key items).filter (fun g => p g.1) =
      groupByFirstSeen key (items.filter fun a => p (key a)) := by
  induction items using List.reverseRecOn with
  | nil => rfl
  | append_singleton items item ih =>
    rw [groupByFirstSeen_append, filter_addToGroup, ih, List.filter_append]
    cases hp : p (key item) with
    | true => simp [hp, groupByFirstSeen_append]
    | false => simp [hp]

end

end AbiBindings
