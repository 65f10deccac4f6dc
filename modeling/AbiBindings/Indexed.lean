/-!
# Lists with an index

Items stand in the order in which they were added, and beside them a table says at which position
the item of each key stands.  An item is found by its position.  It can be changed there as long as
its key stays, and a new item is added only if its key has no position yet.  So the table always
tells the positions of the items, and no two items have one key.

    c.slot? k = none ↔ no item has the key k               (slot?_eq_none_iff)
    c.slot? k = some i ↔ the item at i has the key k       (slot?_eq_some_iff)
    the item at the position of a key is the one that a search for the key finds
                                                           (find?_eq)
-/

namespace AbiBindings

/-! ## Positions in a list -/

theorem getElem?_snoc_eq_some_iff {κ : Type} {l : List κ} {j k : κ} {i : Nat} :
    (l ++ [j])[i]? = some k ↔ l[i]? = some k ∨ i = l.length ∧ j = k := by
  rcases Nat.lt_trichotomy i l.length with h | rfl | h
  · rw [List.getElem?_append_left h]
    simp [Nat.ne_of_lt h]
  · simp
  · have hall : (l ++ [j]).length ≤ i := by
      rw [List.length_append, List.length_singleton]
      exact h
    rw [List.getElem?_eq_none hall, List.getElem?_eq_none (Nat.le_of_lt h)]
    simp [Nat.ne_of_gt h]

theorem map_modify {α κ : Type} {key : α → κ} {f : α → α} (h : ∀ a, key (f a) = key a)
    (l : List α) (i : Nat) : (l.modify i f).map key = l.map key := by
  induction l generalizing i with
  | nil => simp
  | cons a r ih =>
    cases i with
    | zero => simp [h]
    | succ i => simp [ih]

/-! ## Algorithm -/

/-- Items with different keys, and the position of each key. -/
structure Indexed {α κ : Type} [DecidableEq κ] (key : α → κ) where
  items : List α
  slots : List (κ × Nat)
  aligned : ∀ k i, slots.lookup k = some i ↔ (items.map key)[i]? = some k

namespace Indexed

variable {α κ : Type} [DecidableEq κ] {key : α → κ}

theorem lt_of_lookup (c : Indexed key) {k : κ} {i : Nat} (h : c.slots.lookup k = some i) :
    i < c.items.length := by
  have hi := (List.getElem?_eq_some_iff.1 ((c.aligned k i).1 h)).1
  rwa [List.length_map] at hi

def empty : Indexed key := ⟨[], [], fun k i => by simp⟩

/-- The position of the item with a key. -/
def slot? (c : Indexed key) (k : κ) : Option (Fin c.items.length) :=
  match h : c.slots.lookup k with
  | none => none
  | some i => some ⟨i, c.lt_of_lookup h⟩

theorem slot?_map_val (c : Indexed key) (k : κ) : (c.slot? k).map Fin.val = c.slots.lookup k := by
  unfold slot?
  split
  · rename_i h
    exact h.symm
  · rename_i h
    exact h.symm

theorem slot?_eq_none_iff (c : Indexed key) (k : κ) :
    c.slot? k = none ↔ k ∉ c.items.map key := by
  rw [← Option.map_eq_none_iff (f := Fin.val), slot?_map_val, List.mem_iff_getElem?, not_exists,
    Option.eq_none_iff_forall_ne_some]
  exact forall_congr' fun i => not_congr (c.aligned k i)

/-- Adds an item whose key is new. -/
def push (c : Indexed key) (a : α) (h : c.slot? (key a) = none) : Indexed key where
  items := c.items ++ [a]
  slots := (key a, c.items.length) :: c.slots
  aligned k i := by
    rw [List.lookup_cons, List.map_append, List.map_singleton, getElem?_snoc_eq_some_iff,
      List.length_map, ← c.aligned]
    by_cases hk : k = key a
    · -- The key of the new item has no position but the last one.
      have hnone : c.slots.lookup (key a) = none := by rw [← slot?_map_val, h, Option.map_none]
      rw [hk, beq_self_eq_true, hnone]
      simp [eq_comm]
    · rw [beq_eq_false_iff_ne.2 hk]
      simp [Ne.symm hk]

/-- Changes the item at a position, but not its key. -/
def modify (c : Indexed key) (slot : Fin c.items.length) (f : α → α) (h : ∀ a, key (f a) = key a) :
    Indexed key where
  items := c.items.modify slot f
  slots := c.slots
  aligned k i := by
    rw [map_modify h]
    exact c.aligned k i

/-! ## Lemmas -/

/-- A key has the positions of the items with it. -/
theorem slot?_eq_some_iff (c : Indexed key) (k : κ) (i : Fin c.items.length) :
    c.slot? k = some i ↔ key c.items[i] = k := by
  have hi : (c.slot? k).map Fin.val = some i.val ↔ c.slot? k = some i := by
    rw [Option.map_eq_some_iff]
    simp [Fin.val_inj]
  rw [← hi, slot?_map_val, c.aligned, List.getElem?_map, List.getElem?_eq_getElem i.isLt]
  simp

/-- No two items have one key. -/
theorem nodup_keys (c : Indexed key) : (c.items.map key).Nodup := by
  rw [List.nodup_iff_pairwise_ne, List.pairwise_iff_getElem]
  intro i j hi hj hlt he
  have hslot (n : Nat) (hn : n < (c.items.map key).length) :
      c.slots.lookup (c.items.map key)[n] = some n :=
    (c.aligned _ _).2 (List.getElem?_eq_getElem hn)
  have hsame := hslot j hj
  rw [← he, hslot i hi] at hsame
  exact absurd (Option.some.inj hsame) (Nat.ne_of_lt hlt)

/-- A search for a key stops at its position. -/
theorem find?_eq (c : Indexed key) (k : κ) :
    c.items.find? (fun a => key a == k) = (c.slot? k).map (c.items[·]) := by
  cases h : c.slot? k with
  | none =>
    have hnew := (c.slot?_eq_none_iff k).1 h
    rw [Option.map_none, List.find?_eq_none]
    intro a ha he
    exact hnew (eq_of_beq he ▸ List.mem_map_of_mem ha)
  | some i =>
    rw [Option.map_some, List.find?_eq_some_iff_getElem]
    refine ⟨beq_iff_eq.2 ((c.slot?_eq_some_iff k i).1 h), i, i.isLt, rfl, fun j hj => ?_⟩
    rw [Bool.not_eq_true', beq_eq_false_iff_ne]
    intro hk
    have hsame := (c.slot?_eq_some_iff k ⟨j, Nat.lt_trans hj i.isLt⟩).2 hk
    rw [h] at hsame
    exact absurd (congrArg Fin.val (Option.some.inj hsame)) (Nat.ne_of_gt hj)

end Indexed

end AbiBindings
