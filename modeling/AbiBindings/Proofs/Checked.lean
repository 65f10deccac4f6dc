import AbiBindings.Diagnostic
import Mathlib.Data.List.Forall2

/-!
# Results of lists

What a computation that may fail does on every item of a list: it succeeds if it succeeds on each,
and its results are those of the items, in order.

    l.mapM f = .ok bs ↔ List.Forall₂ (fun a b => f a = .ok b) l bs      (mapM_eq_ok_iff)
    l.mapM f succeeds ↔ f succeeds on every item                        (exists_mapM_eq_ok_iff)
    l.mapM f = .error e ↔ e is the failure of the first item that fails (mapM_eq_error_iff)
-/

namespace AbiBindings

variable {α β γ ε : Type}

/-! ## Results of a sequence -/

theorem bind_eq_ok_iff {x : Except ε α} {f : α → Except ε β} {b : β} :
    (x >>= f) = .ok b ↔ ∃ a, x = .ok a ∧ f a = .ok b := by
  constructor
  · intro h
    cases x with
    | error e => cases h
    | ok a => exact ⟨a, rfl, h⟩
  · rintro ⟨a, rfl, h⟩
    exact h

theorem pure_eq_ok_iff {a b : α} : (pure a : Except ε α) = .ok b ↔ a = b :=
  Except.ok.injEq a b ▸ Iff.rfl

theorem bind_eq_error_iff {x : Except ε α} {f : α → Except ε β} {e : ε} :
    (x >>= f) = .error e ↔ x = .error e ∨ ∃ a, x = .ok a ∧ f a = .error e := by
  cases x <;> simp [bind, Except.bind]

theorem bind_pure_eq_error_iff {x : Except ε α} {f : α → β} {e : ε} :
    (x >>= fun a => pure (f a)) = .error e ↔ x = .error e := by
  cases x <;> simp [bind, Except.bind, pure, Except.pure]

theorem map_eq_ok_iff {x : Except ε α} {f : α → β} {b : β} :
    x.map f = .ok b ↔ ∃ a, x = .ok a ∧ f a = b := by
  cases x <;> simp [Except.map]

theorem exists_map_eq_ok_iff {x : Except ε α} {f : α → β} :
    (∃ b, x.map f = .ok b) ↔ ∃ a, x = .ok a := by
  cases x <;> simp [Except.map]

theorem map_eq_error_iff {x : Except ε α} {f : α → β} {e : ε} :
    x.map f = .error e ↔ x = .error e := by
  cases x <;> simp [Except.map]

theorem mapError_eq_ok_iff {ε' : Type} {x : Except ε α} {f : ε → ε'} {a : α} :
    x.mapError f = .ok a ↔ x = .ok a := by
  constructor
  · intro h
    cases x with
    | error e => cases h
    | ok b =>
      cases h
      rfl
  · rintro rfl
    rfl

theorem mapError_eq_error_iff {ε' : Type} {x : Except ε α} {f : ε → ε'} {e : ε'} :
    x.mapError f = .error e ↔ ∃ d, x = .error d ∧ f d = e := by
  cases x <;> simp [Except.mapError]

theorem within_eq_ok_iff {segment : String} {x : Checked α} {a : α} :
    Checked.within segment x = .ok a ↔ x = .ok a :=
  mapError_eq_ok_iff

theorem within_eq_error_iff {segment : String} {x : Checked α} {e : Diagnostic} :
    Checked.within segment x = .error e ↔ ∃ d, x = .error d ∧ e = d.within segment := by
  simp only [Checked.within, mapError_eq_error_iff, @eq_comm _ e]

theorem withinNamed_eq_ok_iff {name : String} {x : Checked α} {a : α} :
    Checked.withinNamed name x = .ok a ↔ x = .ok a := by
  unfold Checked.withinNamed
  split
  · rfl
  · exact within_eq_ok_iff

theorem optionMapM_eq_ok_iff {f : α → Except ε β} {x : Option α} {y : Option β} :
    x.mapM f = .ok y ↔ Option.Rel (fun a b => f a = .ok b) x y := by
  cases x with
  | none =>
    constructor
    · intro h
      cases h
      exact .none
    · rintro ⟨⟩
      rfl
  | some a =>
    rw [Option.mapM_some]
    constructor
    · intro h
      obtain ⟨b, hb, rfl⟩ := map_eq_ok_iff.1 h
      exact .some hb
    · rintro (h | _)
      exact map_eq_ok_iff.2 ⟨_, h, rfl⟩

theorem optionMapM_eq_error_iff {f : α → Except ε β} {x : Option α} {e : ε} :
    x.mapM f = .error e ↔ ∃ a ∈ x, f a = .error e := by
  cases x with
  | none =>
    constructor
    · intro h
      cases h
    · rintro ⟨a, ⟨⟩, -⟩
  | some a =>
    rw [Option.mapM_some]
    constructor
    · intro h
      exact ⟨a, rfl, map_eq_error_iff.1 h⟩
    · rintro ⟨_, ⟨⟩, h⟩
      exact map_eq_error_iff.2 h

theorem exists_optionMapM_eq_ok_iff {f : α → Except ε β} {x : Option α} :
    (∃ y, x.mapM f = .ok y) ↔ ∀ a ∈ x, ∃ b, f a = .ok b := by
  simp only [optionMapM_eq_ok_iff]
  cases x with
  | none =>
    constructor
    · rintro - a ⟨⟩
    · intro _
      exact ⟨none, .none⟩
  | some a =>
    constructor
    · rintro ⟨_, hb | _⟩ _ ⟨⟩
      exact ⟨_, hb⟩
    · intro h
      obtain ⟨b, hb⟩ := h a rfl
      exact ⟨some b, .some hb⟩

theorem exists_bind_eq_ok_iff {x : Except ε α} {f : α → Except ε β} :
    (∃ b, (x >>= f) = .ok b) ↔ ∃ a, x = .ok a ∧ ∃ b, f a = .ok b := by
  simp only [bind_eq_ok_iff]
  constructor
  · rintro ⟨b, a, ha, hb⟩
    exact ⟨a, ha, b, hb⟩
  · rintro ⟨a, ha, b, hb⟩
    exact ⟨b, a, ha, hb⟩

theorem exists_of_isOk {x : Except ε α} (h : x.isOk = true) : ∃ a, x = .ok a := by
  cases x with
  | error e => cases h
  | ok a => exact ⟨a, rfl⟩

/-! ## Related lists -/

section
variable {R : α → β → Prop} {l : List α} {bs : List β}

theorem exists_forall₂_iff : (∃ bs, List.Forall₂ R l bs) ↔ ∀ a ∈ l, ∃ b, R a b := by
  induction l with
  | nil =>
    constructor
    · intro _ a ha
      cases ha
    · intro _
      exact ⟨[], .nil⟩
  | cons a r ih =>
    rw [List.forall_mem_cons, ← ih]
    constructor
    · rintro ⟨_, _ | ⟨hb, hr⟩⟩
      exact ⟨⟨_, hb⟩, _, hr⟩
    · rintro ⟨⟨b, hb⟩, rest, hr⟩
      exact ⟨b :: rest, .cons hb hr⟩

theorem forall₂_iff_of_iff {S : α → β → Prop} (h : ∀ a b, R a b ↔ S a b) :
    List.Forall₂ R l bs ↔ List.Forall₂ S l bs :=
  ⟨.imp fun a b => (h a b).1, .imp fun a b => (h a b).2⟩

theorem forall₂_and_right_iff {p : β → Prop} :
    List.Forall₂ (fun a b => R a b ∧ p b) l bs ↔ List.Forall₂ R l bs ∧ ∀ b ∈ bs, p b := by
  constructor
  · intro h
    induction h with
    | nil => exact ⟨.nil, fun _ hb => by cases hb⟩
    | cons hb _ ih => exact ⟨.cons hb.1 ih.1, List.forall_mem_cons.2 ⟨hb.2, ih.2⟩⟩
  · rintro ⟨h, hp⟩
    induction h with
    | nil => exact .nil
    | cons hb _ ih =>
      rw [List.forall_mem_cons] at hp
      exact .cons ⟨hb, hp.1⟩ (ih hp.2)

theorem exists_left_of_forall₂ (h : List.Forall₂ R l bs) {b : β} (hb : b ∈ bs) :
    ∃ a ∈ l, R a b := by
  induction h with
  | nil => cases hb
  | cons ha _ ih =>
    rcases List.mem_cons.1 hb with rfl | hb
    · exact ⟨_, List.mem_cons_self, ha⟩
    · obtain ⟨a, hmem, hr⟩ := ih hb
      exact ⟨a, List.mem_cons_of_mem _ hmem, hr⟩

theorem exists_right_of_forall₂ (h : List.Forall₂ R l bs) {a : α} (ha : a ∈ l) :
    ∃ b ∈ bs, R a b :=
  exists_left_of_forall₂ h.flip ha

end

/-! ## Results of a list -/

theorem mapM_eq_ok_map {f : α → Except ε β} {g : α → β} {l : List α}
    (h : ∀ a ∈ l, f a = .ok (g a)) : l.mapM f = .ok (l.map g) := by
  induction l with
  | nil => rfl
  | cons a r ih =>
    rw [List.mapM_cons, h a List.mem_cons_self, ih fun b hb => h b (List.mem_cons_of_mem _ hb)]
    rfl

theorem mapM_eq_ok_iff {f : α → Except ε β} {l : List α} {bs : List β} :
    l.mapM f = .ok bs ↔ List.Forall₂ (fun a b => f a = .ok b) l bs := by
  induction l generalizing bs with
  | nil =>
    rw [List.forall₂_nil_left_iff]
    constructor
    · intro h
      cases h
      rfl
    · rintro rfl
      rfl
  | cons a r ih =>
    rw [List.mapM_cons, bind_eq_ok_iff, List.forall₂_cons_left_iff]
    simp only [bind_eq_ok_iff, ih]
    constructor
    · rintro ⟨b, hb, rest, hr, h⟩
      exact ⟨b, rest, hb, hr, (Except.ok.inj h).symm⟩
    · rintro ⟨b, rest, hb, hr, rfl⟩
      exact ⟨b, hb, rest, hr, rfl⟩

theorem exists_mapM_eq_ok_iff {f : α → Except ε β} {l : List α} :
    (∃ bs, l.mapM f = .ok bs) ↔ ∀ a ∈ l, ∃ b, f a = .ok b := by
  simp only [mapM_eq_ok_iff, exists_forall₂_iff]

/-- The results are what the items give. -/
theorem mem_iff_of_mapM_eq_ok {f : α → Except ε β} {l : List α} {bs : List β}
    (h : l.mapM f = .ok bs) {b : β} : b ∈ bs ↔ ∃ a ∈ l, f a = .ok b := by
  rw [mapM_eq_ok_iff] at h
  induction h with
  | nil => simp
  | @cons a c l bs ha _ ih =>
    rw [List.mem_cons, ih, List.exists_mem_cons_iff, ha, Except.ok.injEq]
    exact or_congr_left eq_comm

theorem mem_of_mapM_eq_ok {f : α → Except ε β} {l : List α} {bs : List β}
    (h : l.mapM f = .ok bs) {a : α} (ha : a ∈ l) : ∃ b ∈ bs, f a = .ok b := by
  obtain ⟨b, hb⟩ := exists_mapM_eq_ok_iff.1 ⟨bs, h⟩ a ha
  exact ⟨b, (mem_iff_of_mapM_eq_ok h).2 ⟨a, ha, hb⟩, hb⟩

theorem map_of_mapM_eq_ok {f : α → Except ε β} {g : β → γ} {g' : α → γ}
    (hg : ∀ a b, f a = .ok b → g b = g' a) {l : List α} {bs : List β} (h : l.mapM f = .ok bs) :
    bs.map g = l.map g' := by
  rw [mapM_eq_ok_iff] at h
  induction h with
  | nil => rfl
  | cons ha _ ih => rw [List.map_cons, List.map_cons, hg _ _ ha, ih]

/-- A list fails at the first item that does. -/
theorem mapM_eq_error_iff {f : α → Except ε β} {l : List α} {e : ε} :
    l.mapM f = .error e ↔ ∃ before a after, l = before ++ a :: after ∧
      (∀ b ∈ before, ∃ c, f b = .ok c) ∧ f a = .error e := by
  induction l with
  | nil =>
    constructor
    · intro h
      cases h
    · rintro ⟨before, a, after, h, -, -⟩
      exact absurd h.symm (List.append_ne_nil_of_right_ne_nil _ (List.cons_ne_nil _ _))
  | cons a r ih =>
    rw [List.mapM_cons]
    cases hf : f a with
    | error e' =>
      constructor
      · intro h
        cases h
        exact ⟨[], a, r, rfl, fun b hb => absurd hb List.not_mem_nil, hf⟩
      · rintro ⟨before, b, after, h, hok, he⟩
        cases before with
        | nil =>
          rw [← (List.cons.inj h).1, hf] at he
          cases he
          rfl
        | cons c before =>
          obtain ⟨d, hd⟩ := hok c List.mem_cons_self
          rw [← (List.cons.inj h).1, hf] at hd
          cases hd
    | ok c =>
      have hr : (Except.ok c >>= fun b => r.mapM f >>= fun bs => pure (b :: bs)) =
          (.error e : Except ε (List β)) ↔ r.mapM f = .error e := by
        cases r.mapM f <;> simp [bind, Except.bind, pure, Except.pure]
      rw [hr, ih]
      constructor
      · rintro ⟨before, b, after, rfl, hok, he⟩
        refine ⟨a :: before, b, after, rfl, fun x hx => ?_, he⟩
        rcases List.mem_cons.1 hx with rfl | hx
        · exact ⟨c, hf⟩
        · exact hok x hx
      · rintro ⟨before, b, after, h, hok, he⟩
        cases before with
        | nil =>
          rw [← (List.cons.inj h).1, hf] at he
          cases he
        | cons x before =>
          exact ⟨before, b, after, (List.cons.inj h).2,
            fun y hy => hok y (List.mem_cons_of_mem _ hy), he⟩

theorem toOption_eq_some_iff {x : Except ε α} {a : α} : x.toOption = some a ↔ x = .ok a := by
  cases x <;> simp [Except.toOption]

end AbiBindings
