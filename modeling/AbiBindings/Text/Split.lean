/-!
# Splitting texts

`List.splitOn` cuts at every separator, `splitLast` at the last one.

    l ∈ s.splitOn sep → sep ∉ l                            (sep_not_mem_of_mem_splitOn)
    c ∈ s → c = sep or c ∈ l for some l ∈ s.splitOn sep    (mem_splitOn_of_mem)
    sep ∉ t → splitLast sep (s ++ sep :: t) = (some s, t)  (splitLast_append)
-/

namespace AbiBindings.Text

/-! ## Algorithm -/

/-- The text before the last separator, if there is one, and the text after it. -/
def splitLast (sep : Char) (s : List Char) : Option (List Char) × List Char :=
  match s.reverse.dropWhile (· != sep) with
  | [] => (none, s)
  | _ :: before => (some before.reverse, (s.reverse.takeWhile (· != sep)).reverse)

/-! ## Lemmas -/

/-- A character in front begins a part of its own, or goes to the first part. -/
theorem splitOn_cons (sep c : Char) (s : List Char) :
    ∃ l ls, s.splitOn sep = l :: ls ∧
      (c :: s).splitOn sep = if c = sep then [] :: l :: ls else (c :: l) :: ls := by
  obtain ⟨l, ls, hs⟩ := List.exists_cons_of_ne_nil (List.splitOn_ne_nil sep s)
  refine ⟨l, ls, hs, ?_⟩
  rw [List.splitOn_cons_eq_if_modifyHead, hs]
  simp only [beq_iff_eq, List.modifyHead_cons]

theorem sep_not_mem_of_mem_splitOn {sep : Char} {s l : List Char} (h : l ∈ s.splitOn sep) :
    sep ∉ l := by
  induction s generalizing l with
  | nil =>
    rw [List.splitOn_nil, List.mem_singleton] at h
    simp [h]
  | cons c r ih =>
    obtain ⟨first, rest, hr, hcons⟩ := splitOn_cons sep c r
    rw [hcons] at h
    rw [hr] at ih
    split at h
    · rcases List.mem_cons.1 h with rfl | h
      · exact List.not_mem_nil
      · exact ih h
    · rename_i hc
      rcases List.mem_cons.1 h with rfl | h
      · rw [List.mem_cons, not_or]
        exact ⟨Ne.symm hc, ih List.mem_cons_self⟩
      · exact ih (List.mem_cons_of_mem _ h)

/-- What is appended to a text without separators belongs to its last part. -/
theorem exists_splitOn_append {sep : Char} {t : List Char} (h : sep ∉ t) (s : List Char) :
    ∃ before last, s.splitOn sep = before ++ [last] ∧
      (s ++ t).splitOn sep = before ++ [last ++ t] := by
  induction s with
  | nil => exact ⟨[], [], rfl, List.splitOn_eq_singleton h⟩
  | cons c s ih =>
    obtain ⟨before, last, hs, ht⟩ := ih
    rw [List.cons_append, List.splitOn_cons_eq_if_modifyHead, List.splitOn_cons_eq_if_modifyHead,
      hs, ht]
    split
    · exact ⟨[] :: before, last, rfl, rfl⟩
    · cases before with
      | nil => exact ⟨[], c :: last, rfl, rfl⟩
      | cons first before => exact ⟨(c :: first) :: before, last, rfl, rfl⟩

theorem mem_splitOn_of_mem (sep : Char) {c : Char} {s : List Char} (h : c ∈ s) :
    c = sep ∨ ∃ l ∈ s.splitOn sep, c ∈ l := by
  induction s with
  | nil => cases h
  | cons d r ih =>
    obtain ⟨first, rest, hr, hcons⟩ := splitOn_cons sep d r
    rw [hr] at ih
    rw [hcons]
    by_cases hd : d = sep
    · rw [if_pos hd]
      rcases List.mem_cons.1 h with rfl | h
      · exact Or.inl hd
      · rcases ih h with hs | ⟨l, hl, hc⟩
        · exact Or.inl hs
        · exact Or.inr ⟨l, List.mem_cons_of_mem _ hl, hc⟩
    · rw [if_neg hd]
      rcases List.mem_cons.1 h with rfl | h
      · exact Or.inr ⟨_, List.mem_cons_self, List.mem_cons_self⟩
      · rcases ih h with hs | ⟨l, hl, hc⟩
        · exact Or.inl hs
        · rcases List.mem_cons.1 hl with rfl | hl
          · exact Or.inr ⟨_, List.mem_cons_self, List.mem_cons_of_mem _ hc⟩
          · exact Or.inr ⟨l, List.mem_cons_of_mem _ hl, hc⟩

theorem forall_mem_reverse_ne {sep : Char} {s : List Char} (h : sep ∉ s) :
    ∀ c ∈ s.reverse, (c != sep) = true := by
  intro c hc
  exact bne_iff_ne.2 fun e => h (e ▸ List.mem_reverse.1 hc)

theorem splitLast_of_not_mem {sep : Char} {s : List Char} (h : sep ∉ s) :
    splitLast sep s = (none, s) := by
  unfold splitLast
  rw [← List.append_nil s.reverse, List.dropWhile_append_of_pos (forall_mem_reverse_ne h)]
  rfl

theorem splitLast_append {sep : Char} {s t : List Char} (h : sep ∉ t) :
    splitLast sep (s ++ sep :: t) = (some s, t) := by
  have hall := forall_mem_reverse_ne h
  have e : (s ++ sep :: t).reverse = t.reverse ++ sep :: s.reverse := by simp
  unfold splitLast
  rw [e, List.dropWhile_append_of_pos hall, List.takeWhile_append_of_pos hall]
  simp

end AbiBindings.Text
