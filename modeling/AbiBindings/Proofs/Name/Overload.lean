import AbiBindings.Name.Overload
import AbiBindings.Proofs.Checked
import AbiBindings.Text.Decimal
import AbiBindings.Text.Split
import Mathlib.Data.List.Perm.Subperm

/-!
# When overloads can be numbered

The entry that `k` entries of the same name precede is called `name_k`.  A name and its number can
be read back from that, so two entries can only get one identifier if one of them has it as its
name.  This makes the answer independent of the order of the entries.

    numberedName n j = numberedName m k → n = m ∧ j = k, with j, k ≠ 0
                                                              (numberedName_injective)
    resolveNames succeeds ↔ no entry has the numbered name
      of an overload                                          (exists_resolveNames_iff)
    resolveNames kind names = .ok ids → ids.Nodup             (nodup_of_resolveNames)
-/

namespace AbiBindings

/-! ## Numbered names -/

theorem numberedName_zero (n : String) : numberedName n 0 = n := if_pos rfl

theorem toList_numberedName {n : String} {k : Nat} (hk : k ≠ 0) :
    (numberedName n k).toList = n.toList ++ '_' :: Nat.toDigits 10 k := by
  rw [numberedName, if_neg hk, String.toList_append, String.toList_append, Nat.toString_eq_repr,
    Nat.toList_repr, List.append_assoc]
  rfl

/-- The number is what follows the last underscore. -/
theorem splitLast_numberedName {n : String} {k : Nat} (hk : k ≠ 0) :
    Text.splitLast '_' (numberedName n k).toList = (some n.toList, Nat.toDigits 10 k) := by
  rw [toList_numberedName hk]
  refine Text.splitLast_append fun h => ?_
  have hd := (Text.isNumeral_toDigits k).digits '_' h
  revert hd
  decide

theorem numberedName_injective {n m : String} {j k : Nat} (hj : j ≠ 0) (hk : k ≠ 0)
    (h : numberedName n j = numberedName m k) : n = m ∧ j = k := by
  have hs := splitLast_numberedName (n := n) hj
  rw [h, splitLast_numberedName hk] at hs
  obtain ⟨hname, hnumber⟩ := Prod.mk.inj hs
  exact ⟨String.toList_inj.1 (Option.some.inj hname).symm, (Text.toDigits_injective hnumber).symm⟩

/-! ## Names that can be numbered -/

/-- No entry has the numbered name of an overload. -/
def NumberedApart (names : List String) : Prop :=
  ∀ n k, k ≠ 0 → k < names.count n → numberedName n k ∉ names

theorem NumberedApart.of_subperm {α : Type} {name : α → String} {items items' : List α}
    (h : NumberedApart (items.map name)) (hs : items'.Subperm items) :
    NumberedApart (items'.map name) := by
  obtain ⟨l, hp, hl⟩ := hs
  have hnames : (items'.map name).Subperm (items.map name) :=
    ⟨l.map name, hp.map name, hl.map name⟩
  intro n k hk hc hmem
  exact h n k hk (Nat.lt_of_lt_of_le hc (hnames.count_le n)) (hnames.subset hmem)

/-- An entry that gets an identifier after `seen` others: the first of its name, or an overload
whose numbered name is not declared. -/
def HasIdentifierAfter (declared seen : List String) (name : String) : Prop :=
  seen.count name ≠ 0 → numberedName name (seen.count name) ∉ declared

theorem exists_append_of_lt_count {names : List String} {n : String} {k : Nat}
    (h : k < names.count n) :
    ∃ before after, names = before ++ n :: after ∧ before.count n = k := by
  induction names generalizing k with
  | nil => cases h
  | cons m rest ih =>
    by_cases hm : m = n
    · subst hm
      cases k with
      | zero => exact ⟨[], rest, rfl, rfl⟩
      | succ k =>
        rw [List.count_cons_self] at h
        obtain ⟨before, after, rfl, hc⟩ := ih (Nat.lt_of_succ_lt_succ h)
        exact ⟨m :: before, after, rfl, by rw [List.count_cons_self, hc]⟩
    · rw [List.count_cons_of_ne hm] at h
      obtain ⟨before, after, rfl, hc⟩ := ih h
      exact ⟨m :: before, after, rfl, by rw [List.count_cons_of_ne hm, hc]⟩

theorem numberedApart_iff {names : List String} :
    NumberedApart names ↔
      ∀ before name after, names = before ++ name :: after →
        HasIdentifierAfter names before name := by
  constructor
  · intro h before name after hn hc
    refine h name _ hc ?_
    rw [hn, List.count_append, List.count_cons_self]
    omega
  · intro h n k hk hc
    obtain ⟨before, after, hn, rfl⟩ := exists_append_of_lt_count hc
    exact h before n after hn hk

/-! ## Resolution -/

/-- Identifiers that were assigned to the entries seen so far: each is a name with a number that
was counted, and a numbered one is not declared. -/
def AssignedTo (declared seen assigned : List String) : Prop :=
  ∀ id ∈ assigned, ∃ n j, j < seen.count n ∧ id = numberedName n j ∧ (j ≠ 0 → id ∉ declared)

section
variable {kind : EntryKind} {declared seen assigned names ids : List String} {name : String}

/-- An identifier is not assigned twice. -/
theorem AssignedTo.fresh (h : AssignedTo declared seen assigned) (hd : seen ⊆ declared)
    (hname : name ∈ declared) (hid : HasIdentifierAfter declared seen name) :
    numberedName name (seen.count name) ∉ assigned := by
  intro hmem
  obtain ⟨n, j, hj, he, hnot⟩ := h _ hmem
  -- Two plain names or two numbered ones are told apart by what was counted, a plain and a numbered
  -- one by what is declared.
  by_cases hc : seen.count name = 0
  · rw [hc, numberedName_zero] at he hnot
    by_cases hj0 : j = 0
    · rw [hj0, numberedName_zero] at he
      subst he
      omega
    · exact hnot hj0 hname
  · by_cases hj0 : j = 0
    · subst hj0
      rw [numberedName_zero] at he
      exact hid hc (he ▸ hd (List.count_pos_iff.1 hj))
    · obtain ⟨rfl, rfl⟩ := numberedName_injective hc hj0 he
      exact Nat.lt_irrefl _ hj

theorem AssignedTo.cons (h : AssignedTo declared seen assigned)
    (hid : HasIdentifierAfter declared seen name) :
    AssignedTo declared (name :: seen) (numberedName name (seen.count name) :: assigned) := by
  intro id hmem
  rcases List.mem_cons.1 hmem with rfl | hmem
  · exact ⟨name, seen.count name, by rw [List.count_cons_self]; omega, rfl, hid⟩
  · obtain ⟨n, j, hj, hrest⟩ := h id hmem
    exact ⟨n, j, Nat.lt_of_lt_of_le hj List.count_le_count_cons, hrest⟩

theorem resolveAfter_cons_of_clash (h : ¬HasIdentifierAfter declared seen name) :
    resolveAfter kind declared seen assigned (name :: names) =
      .error (.alreadyDeclared kind name (numberedName name (seen.count name))) := by
  rw [HasIdentifierAfter, Classical.not_imp, not_not] at h
  rw [resolveAfter, if_pos h]

theorem resolveAfter_cons (ha : AssignedTo declared seen assigned) (hd : seen ⊆ declared)
    (hname : name ∈ declared) (h : HasIdentifierAfter declared seen name) :
    resolveAfter kind declared seen assigned (name :: names) =
      (resolveAfter kind declared (name :: seen) (numberedName name (seen.count name) :: assigned)
        names).map (numberedName name (seen.count name) :: ·) := by
  have hc : ¬(seen.count name ≠ 0 ∧ numberedName name (seen.count name) ∈ declared) :=
    fun ⟨hc, hmem⟩ => h hc hmem
  rw [resolveAfter, if_neg hc, if_neg (ha.fresh hd hname h)]

/-- Names after `seen` others, last one first, are resolved exactly if each of them gets an
identifier where it stands. -/
theorem exists_resolveAfter_iff (ha : AssignedTo declared seen assigned) (hd : seen ⊆ declared)
    (hn : names ⊆ declared) :
    (∃ ids, resolveAfter kind declared seen assigned names = .ok ids) ↔
      ∀ before name after, names = before ++ name :: after →
        HasIdentifierAfter declared (before.reverse ++ seen) name := by
  induction names generalizing seen assigned with
  | nil =>
    constructor
    · rintro - before name after h
      exact absurd h.symm (List.append_ne_nil_of_right_ne_nil _ (List.cons_ne_nil _ _))
    · intro _
      exact ⟨[], rfl⟩
  | cons m rest ih =>
    have hm : m ∈ declared := hn List.mem_cons_self
    by_cases h : HasIdentifierAfter declared seen m
    · have hseen : m :: seen ⊆ declared := List.cons_subset.2 ⟨hm, hd⟩
      rw [resolveAfter_cons ha hd hm h, exists_map_eq_ok_iff,
        ih (ha.cons h) hseen (List.subset_of_cons_subset hn)]
      constructor
      · rintro hrest before name after hb
        cases before with
        | nil =>
          cases hb
          exact h
        | cons b before =>
          cases hb
          rw [List.reverse_cons, List.append_assoc]
          exact hrest before name after rfl
      · intro hall before name after hb
        have := hall (m :: before) name after (congrArg (m :: ·) hb)
        rwa [List.reverse_cons, List.append_assoc] at this
    · rw [resolveAfter_cons_of_clash h]
      constructor
      · rintro ⟨ids, hids⟩
        cases hids
      · intro hall
        exact absurd (hall [] m rest rfl) h

/-- Entries of one kind get identifiers exactly if no entry has the numbered name of an
overload. -/
theorem exists_resolveNames_iff (kind : EntryKind) :
    (∃ ids, resolveNames kind names = .ok ids) ↔ NumberedApart names := by
  rw [resolveNames, numberedApart_iff,
    exists_resolveAfter_iff (fun _ h => by cases h) (List.nil_subset _) (List.Subset.refl _)]
  refine forall₄_congr fun before name after _ => ?_
  rw [HasIdentifierAfter, HasIdentifierAfter, List.append_nil, List.count_reverse]

/-- The second `f` would be called like the third entry. -/
example : resolveNames .function ["f", "f", "f_1"] =
    .error (.alreadyDeclared .function "f" "f_1") := by
  decide +kernel

theorem nodup_of_resolveAfter (h : resolveAfter kind declared seen assigned names = .ok ids) :
    ids.Nodup ∧ ∀ id ∈ ids, id ∉ assigned := by
  induction names generalizing seen assigned ids with
  | nil =>
    cases h
    exact ⟨List.nodup_nil, fun _ hid => by cases hid⟩
  | cons name rest ih =>
    unfold resolveAfter at h
    simp only at h
    split at h
    · cases h
    split at h
    · cases h
    · rename_i hnot
      obtain ⟨ids, hids, rfl⟩ := map_eq_ok_iff.1 h
      obtain ⟨hnodup, hfresh⟩ := ih hids
      refine ⟨List.nodup_cons.2 ⟨fun hmem => hfresh _ hmem List.mem_cons_self, hnodup⟩, ?_⟩
      intro id hmem
      rcases List.mem_cons.1 hmem with rfl | hmem
      · exact hnot
      · exact fun ha => hfresh id hmem (List.mem_cons_of_mem _ ha)

theorem nodup_of_resolveNames (h : resolveNames kind names = .ok ids) : ids.Nodup :=
  (nodup_of_resolveAfter h).1

end

end AbiBindings
