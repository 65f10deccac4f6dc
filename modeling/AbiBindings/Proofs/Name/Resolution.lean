import AbiBindings.Proofs.Name.Overload

/-!
# What overloads are called

Entries are gone through in order.  The first one of a name is called by the name, a later one by
the name and the number of those before it, up to the first one whose numbered name an entry has.
Nothing else can go wrong, since identifiers never repeat.

    resolveNames kind names = .ok ids → ids = identifiersAfter [] names
                                                              (eq_identifiersAfter_of_resolveAfter)
    ids[i]? = names[i] with the number of equal names before it        (getElem?_identifiersAfter)
    a failure is the first overload whose numbered name is declared   (clash_of_resolveAfter)
-/

namespace AbiBindings

/-! ## Identifiers -/

/-- The identifiers of names behind `seen` others: each one has the number of times that it was
seen. -/
def identifiersAfter (seen : List String) : List String → List String
  | [] => []
  | name :: rest => numberedName name (seen.count name) :: identifiersAfter (name :: seen) rest

theorem getElem?_identifiersAfter (seen names : List String) (i : Nat) :
    (identifiersAfter seen names)[i]? =
      names[i]?.map fun n => numberedName n ((names.take i).count n + seen.count n) := by
  induction names generalizing seen i with
  | nil => rfl
  | cons name rest ih =>
    rw [identifiersAfter]
    cases i with
    | zero => simp
    | succ i =>
      rw [List.getElem?_cons_succ, List.getElem?_cons_succ, List.take_succ_cons, ih]
      refine congrArg (fun f => rest[i]?.map f) (funext fun n => ?_)
      rw [List.count_cons, List.count_cons, Nat.add_assoc, Nat.add_comm (seen.count n)]

section
variable {kind : EntryKind} {declared seen assigned names ids : List String}

theorem eq_identifiersAfter_of_resolveAfter
    (h : resolveAfter kind declared seen assigned names = .ok ids) :
    ids = identifiersAfter seen names := by
  induction names generalizing seen assigned ids with
  | nil =>
    cases h
    rfl
  | cons name rest ih =>
    unfold resolveAfter at h
    simp only at h
    split at h
    · cases h
    split at h
    · cases h
    obtain ⟨ids, hids, rfl⟩ := map_eq_ok_iff.1 h
    rw [identifiersAfter, ih hids]

/-- An entry is called by its name, numbered or not; its name is that of the item it comes from. -/
theorem exists_numberedName_of_resolveNames {α β : Type} {name : α → String}
    {name' identifier : β → String} {items : List α} {entries : List β}
    (hnames : List.Forall₂ (fun a b => name' b = name a) items entries)
    (h : resolveNames kind (items.map name) = .ok (entries.map identifier)) {b : β}
    (hb : b ∈ entries) : ∃ k, identifier b = numberedName (name' b) k := by
  have hsame : items.map name = entries.map name' := by
    rw [← List.forall₂_eq_eq_eq, List.forall₂_map_left_iff, List.forall₂_map_right_iff]
    exact hnames.imp fun _ _ hn => hn.symm
  rw [hsame] at h
  obtain ⟨i, hi⟩ := List.mem_iff_getElem?.1 hb
  have hids := congrArg (·[i]?) (eq_identifiersAfter_of_resolveAfter h)
  simp only [getElem?_identifiersAfter, List.getElem?_map, hi, Option.map_some] at hids
  exact ⟨_, Option.some.inj hids⟩

/-! ## Clashes -/

/-- A failure is that of the first name that gets no identifier where it stands. -/
theorem clash_of_resolveAfter {e : NameClash} (ha : AssignedTo declared seen assigned)
    (hd : seen ⊆ declared) (hn : names ⊆ declared)
    (h : resolveAfter kind declared seen assigned names = .error e) :
    ∃ before name after, names = before ++ name :: after ∧
      (∀ b m a, before = b ++ m :: a → HasIdentifierAfter declared (b.reverse ++ seen) m) ∧
      ¬HasIdentifierAfter declared (before.reverse ++ seen) name ∧
      e = .alreadyDeclared kind name
        (numberedName name ((before.reverse ++ seen).count name)) := by
  induction names generalizing seen assigned with
  | nil => cases h
  | cons m rest ih =>
    have hm : m ∈ declared := hn List.mem_cons_self
    by_cases hid : HasIdentifierAfter declared seen m
    · rw [resolveAfter_cons ha hd hm hid, map_eq_error_iff] at h
      obtain ⟨before, name, after, rfl, hearlier, hclash, rfl⟩ := ih (ha.cons hid)
        (List.cons_subset.2 ⟨hm, hd⟩) (List.subset_of_cons_subset hn) h
      have hsplit (l : List String) : (m :: l).reverse ++ seen = l.reverse ++ m :: seen := by
        rw [List.reverse_cons, List.append_assoc, List.singleton_append]
      refine ⟨m :: before, name, after, rfl, fun b n a hb => ?_, ?_, ?_⟩
      · cases b with
        | nil =>
          cases hb
          exact hid
        | cons _ b =>
          cases hb
          rw [hsplit]
          exact hearlier b n a rfl
      · rwa [hsplit]
      · rw [hsplit]
    · rw [resolveAfter_cons_of_clash hid] at h
      cases h
      exact ⟨[], m, rest, rfl, fun b n a hb => by simp at hb, hid, rfl⟩

end

/-- Entries of one kind get no identifiers exactly if some name occurs often enough for a numbered
name that is itself declared.  The failure is the name collision of the first overload, in order,
whose numbered name is declared.  Otherwise each entry is called by its name with the number of
equal names before it, the first one by the name alone, and no two are called alike. -/
theorem resolveNames_numbers_overloads (kind : EntryKind) (names : List String) :
    ((∃ e, resolveNames kind names = .error e) ↔
      ∃ n k, 1 ≤ k ∧ k < names.count n ∧ n ++ "_" ++ toString k ∈ names) ∧
    (∀ e, resolveNames kind names = .error e →
      ∃ before name after id, names = before ++ name :: after ∧
        (∀ b m a, before = b ++ m :: a →
          b.count m ≠ 0 → m ++ "_" ++ toString (b.count m) ∉ names) ∧
        before.count name ≠ 0 ∧ id = name ++ "_" ++ toString (before.count name) ∧
        id ∈ names ∧ e = .alreadyDeclared kind name id ∧
        e.diagnostic = .nameCollision
          s!"overload of {kind.title} '{name}' would be named '{id}', which is already declared") ∧
    ∀ ids, resolveNames kind names = .ok ids →
      ids.length = names.length ∧
      (∀ i, ids[i]? = names[i]?.map fun n =>
        if (names.take i).count n = 0 then n
        else n ++ "_" ++ toString ((names.take i).count n)) ∧
      ids.Nodup := by
  have hnumbered {n : String} {k : Nat} (hk : k ≠ 0) :
      numberedName n k = n ++ "_" ++ toString k := if_neg hk
  refine ⟨?_, fun e he => ?_, fun ids hids => ⟨length_of_resolveNames hids, fun i => ?_,
    nodup_of_resolveNames hids⟩⟩
  · have hfails : (∃ e, resolveNames kind names = .error e) ↔ ¬NumberedApart names := by
      rw [← exists_resolveNames_iff kind]
      cases resolveNames kind names <;> simp
    rw [hfails, NumberedApart]
    simp only [not_forall, not_not, exists_prop]
    refine exists₂_congr fun n k => ?_
    rw [Nat.one_le_iff_ne_zero]
    refine and_congr_right fun hk => ?_
    rw [hnumbered hk]
  · obtain ⟨before, name, after, hsplit, hearlier, hclash, rfl⟩ := clash_of_resolveAfter
      (fun _ h => by cases h) (List.nil_subset _) (List.Subset.refl _) he
    simp only [HasIdentifierAfter, List.append_nil, List.count_reverse, Classical.not_imp,
      not_not] at hearlier hclash ⊢
    obtain ⟨hc, hmem⟩ := hclash
    refine ⟨before, name, after, _, hsplit, fun b m a hb hm => ?_, hc, hnumbered hc, hmem, rfl, rfl⟩
    rw [← hnumbered hm]
    exact hearlier b m a hb hm
  · rw [eq_identifiersAfter_of_resolveAfter hids, getElem?_identifiersAfter]
    rfl

end AbiBindings
