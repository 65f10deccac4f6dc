import AbiBindings.Ordered

/-!
# Lists in order

`insertDistinct` keeps a list in order, so `sortDistinct` makes one, and lists in order with the
same members are the same.  Texts have an order, and so have sequences of texts, the empty one
first.

    InOrder lt l → InOrder lt (insertDistinct lt a l)                   (inOrder_insertDistinct)
    InOrder lt (sortDistinct lt items)                                  (inOrder_sortDistinct)
    InOrder lt l → InOrder lt m → (∀ a, a ∈ l ↔ a ∈ m) → l = m          (eq_of_mem_iff)
-/

namespace AbiBindings

variable {α : Type} {lt : α → α → Bool}

/-! ## Orders -/

/-- Of two different elements one comes first. -/
structure IsOrder (lt : α → α → Bool) : Prop where
  irrefl : ∀ a, lt a a = false
  trans : ∀ a b c, lt a b = true → lt b c = true → lt a c = true
  total : ∀ a b, a ≠ b → lt a b = false → lt b a = true

/-- Every element comes before those after it. -/
def InOrder (lt : α → α → Bool) (l : List α) : Prop := l.Pairwise fun a b => lt a b = true

section
variable {β : Type} [LT β] [LE β] [DecidableLT β] [Std.IsLinearOrder β] [Std.LawfulOrderLT β]

/-- The test for a linear order. -/
theorem isOrder_decide_lt : IsOrder fun a b : β => decide (a < b) where
  irrefl a := decide_eq_false Std.lt_irrefl
  trans a b c hab hbc :=
    decide_eq_true (Std.lt_trans (of_decide_eq_true hab) (of_decide_eq_true hbc))
  total a b hne hab := by
    have hba : b ≤ a := Std.not_lt.1 (of_decide_eq_false hab)
    exact decide_eq_true (Std.lt_of_le_of_ne hba hne.symm)

end

theorem isOrder_textLt : IsOrder textLt := isOrder_decide_lt

theorem isOrder_textsLt : IsOrder textsLt := isOrder_decide_lt

/-! ## Lists -/

/-- Lists in order with the same members are the same, also where some elements have no order. -/
theorem InOrder.eq_of_mem_iff_of_irrefl (hirrefl : ∀ a, lt a a = false)
    (htrans : ∀ a b c, lt a b = true → lt b c = true → lt a c = true) {l m : List α}
    (hl : InOrder lt l) (hm : InOrder lt m) (h : ∀ a, a ∈ l ↔ a ∈ m) : l = m := by
  have hne : ∀ {a b}, lt a b = true → a ≠ b := by
    rintro a _ hab rfl
    rw [hirrefl] at hab
    cases hab
  refine List.Perm.eq_of_pairwise ?_ hl hm ((List.perm_ext_iff_of_nodup (hl.imp hne)
    (hm.imp hne)).2 h)
  intro a b _ _ hab hba
  exact absurd rfl (hne (htrans a b a hab hba))

theorem InOrder.nodup (ho : IsOrder lt) {l : List α} (h : InOrder lt l) : l.Nodup := by
  refine h.imp ?_
  rintro a _ hab rfl
  rw [ho.irrefl] at hab
  cases hab

theorem InOrder.eq_of_mem_iff (ho : IsOrder lt) {l m : List α} (hl : InOrder lt l)
    (hm : InOrder lt m) (h : ∀ a, a ∈ l ↔ a ∈ m) : l = m :=
  hl.eq_of_mem_iff_of_irrefl ho.irrefl ho.trans hm h

section
variable [DecidableEq α]

theorem inOrder_insertDistinct_of_total
    (htrans : ∀ a b c, lt a b = true → lt b c = true → lt a c = true) {a : α} {l : List α}
    (htotal : ∀ b ∈ l, a ≠ b → lt a b = false → lt b a = true) (h : InOrder lt l) :
    InOrder lt (insertDistinct lt a l) := by
  induction l with
  | nil => exact List.pairwise_singleton _ _
  | cons b rest ih =>
    obtain ⟨hb, hrest⟩ := List.pairwise_cons.1 h
    unfold insertDistinct
    split
    · exact h
    · rename_i hne
      split
      · rename_i hab
        refine List.pairwise_cons.2 ⟨fun c hc => ?_, h⟩
        rcases List.mem_cons.1 hc with rfl | hc
        · exact hab
        · exact htrans a b c hab (hb c hc)
      · rename_i hab
        have hrec := ih (fun c hc => htotal c (List.mem_cons_of_mem _ hc)) hrest
        refine List.pairwise_cons.2 ⟨fun c hc => ?_, hrec⟩
        rcases (mem_insertDistinct lt a c rest).1 hc with rfl | hc
        · exact htotal b List.mem_cons_self hne (Bool.not_eq_true _ ▸ hab)
        · exact hb c hc

theorem inOrder_insertDistinct (ho : IsOrder lt) (a : α) {l : List α} (h : InOrder lt l) :
    InOrder lt (insertDistinct lt a l) :=
  inOrder_insertDistinct_of_total ho.trans (fun b _ => ho.total a b) h

theorem inOrder_sortDistinct (ho : IsOrder lt) (items : List α) :
    InOrder lt (sortDistinct lt items) := by
  induction items with
  | nil => exact List.Pairwise.nil
  | cons a rest ih => exact inOrder_insertDistinct ho a ih

end

end AbiBindings
