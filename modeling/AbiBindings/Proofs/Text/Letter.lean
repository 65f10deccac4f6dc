import AbiBindings.Text.Blank
import AbiBindings.Text.Case

/-!
# Small letters and capitals

The letters of ASCII come in pairs, a capital and a small letter.  Case mappings lead from one to
the other and leave every other character as it is.  All of this is read off one table of the
letters: the library's own lemmas on ASCII casing come with no part of Mathlib, only with the whole.

    a letter has two forms and is one of them              (hasForms_of_isAlpha)
    c.toUpper.toLower = c.toLower, for every c             (toLower_toUpper)
    c.toLower.toUpper = c.toUpper, for every c             (toUpper_toLower)
    c.toLower.isLower = c.isAlpha, for every c             (isLower_toLower)
-/

namespace AbiBindings.Text

variable {c : Char}

/-! ## Letters -/

theorem isAlpha_of_isUpper (h : c.isUpper = true) : c.isAlpha = true :=
  Bool.or_eq_true_iff.2 (Or.inl h)

theorem isAlpha_of_isLower (h : c.isLower = true) : c.isAlpha = true :=
  Bool.or_eq_true_iff.2 (Or.inr h)

theorem toNat_lt_of_isAlpha (h : c.isAlpha = true) : c.toNat < 0x80 := by
  have := toNat_of_isAlpha h
  omega

theorem not_isDigit_of_isAlpha (h : c.isAlpha = true) : c.isDigit = false := by
  rw [← Bool.not_eq_true, Char.isDigit_iff_toNat]
  have := toNat_of_isAlpha h
  show ¬ (0x30 ≤ c.toNat ∧ c.toNat ≤ 0x39)
  omega

/-! ## Forms -/

/-- A character with a capital form and a small one, which lead to each other. -/
structure HasForms (c : Char) : Prop where
  capital : c.toUpper.isUpper = true ∧ c.toUpper.isLower = false
  small : c.toLower.isLower = true ∧ c.toLower.isUpper = false
  toLower_toUpper : c.toUpper.toLower = c.toLower
  toUpper_toLower : c.toLower.toUpper = c.toUpper
  isForm : c = c.toUpper ∨ c = c.toLower

theorem hasForms_of_isAlpha (h : c.isAlpha = true) : HasForms c := by
  have htable : c.isAlpha = true → (c.toUpper.isUpper = true ∧ c.toUpper.isLower = false) ∧
      (c.toLower.isLower = true ∧ c.toLower.isUpper = false) ∧ c.toUpper.toLower = c.toLower ∧
      c.toLower.toUpper = c.toUpper ∧ (c = c.toUpper ∨ c = c.toLower) :=
    ascii_forall (P := fun c => c.isAlpha = true →
      (c.toUpper.isUpper = true ∧ c.toUpper.isLower = false) ∧
      (c.toLower.isLower = true ∧ c.toLower.isUpper = false) ∧ c.toUpper.toLower = c.toLower ∧
      c.toLower.toUpper = c.toUpper ∧ (c = c.toUpper ∨ c = c.toLower))
      (by decide +kernel) (toNat_lt_of_isAlpha h)
  obtain ⟨hcapital, hsmall, hlower, hupper, hform⟩ := htable h
  exact ⟨hcapital, hsmall, hlower, hupper, hform⟩

theorem toLower_of_not_isUpper (h : c.isUpper = false) : c.toLower = c :=
  dif_neg (of_decide_eq_false h)

theorem toUpper_of_not_isLower (h : c.isLower = false) : c.toUpper = c := by
  refine dif_neg fun hc => ?_
  have hlower : c.isLower = true :=
    Bool.and_eq_true_iff.2 ⟨decide_eq_true hc.1, decide_eq_true hc.2⟩
  rw [h] at hlower
  cases hlower

/-- What is no letter has no case. -/
theorem case_of_not_isAlpha (h : c.isAlpha = false) : c.toLower = c ∧ c.toUpper = c := by
  obtain ⟨hupper, hlower⟩ := Bool.or_eq_false_iff.1 (show (c.isUpper || c.isLower) = false from h)
  exact ⟨toLower_of_not_isUpper hupper, toUpper_of_not_isLower hlower⟩

/-- A letter is small or a capital. -/
theorem isUpper_eq_not_isLower (h : c.isAlpha = true) : c.isUpper = !c.isLower := by
  obtain ⟨hcapital, hsmall, -, -, hform⟩ := hasForms_of_isAlpha h
  rcases hform with hform | hform
  · rw [hform, hcapital.1, hcapital.2, Bool.not_false]
  · rw [hform, hsmall.1, hsmall.2, Bool.not_true]

@[simp] theorem toLower_toUpper (c : Char) : c.toUpper.toLower = c.toLower := by
  cases h : c.isAlpha with
  | true => exact (hasForms_of_isAlpha h).toLower_toUpper
  | false => rw [(case_of_not_isAlpha h).2]

@[simp] theorem toUpper_toLower (c : Char) : c.toLower.toUpper = c.toUpper := by
  cases h : c.isAlpha with
  | true => exact (hasForms_of_isAlpha h).toUpper_toLower
  | false => rw [(case_of_not_isAlpha h).1]

@[simp] theorem toLower_toLower (c : Char) : c.toLower.toLower = c.toLower := by
  cases h : c.isAlpha with
  | true => exact toLower_of_not_isUpper (hasForms_of_isAlpha h).small.2
  | false => rw [(case_of_not_isAlpha h).1, (case_of_not_isAlpha h).1]

@[simp] theorem isLower_toUpper (c : Char) : c.toUpper.isLower = false := by
  cases h : c.isAlpha with
  | true => exact (hasForms_of_isAlpha h).capital.2
  | false =>
    rw [(case_of_not_isAlpha h).2]
    exact (Bool.or_eq_false_iff.1 (show (c.isUpper || c.isLower) = false from h)).2

@[simp] theorem isAlpha_toUpper (c : Char) : c.toUpper.isAlpha = c.isAlpha := by
  cases h : c.isAlpha with
  | true => exact isAlpha_of_isUpper (hasForms_of_isAlpha h).capital.1
  | false => rw [(case_of_not_isAlpha h).2, h]

@[simp] theorem isLower_toLower (c : Char) : c.toLower.isLower = c.isAlpha := by
  cases h : c.isAlpha with
  | true => exact (hasForms_of_isAlpha h).small.1
  | false =>
    rw [(case_of_not_isAlpha h).1]
    exact (Bool.or_eq_false_iff.1 (show (c.isUpper || c.isLower) = false from h)).2

@[simp] theorem isAlpha_toLower (c : Char) : c.toLower.isAlpha = c.isAlpha := by
  cases h : c.isAlpha with
  | true => exact isAlpha_of_isLower (hasForms_of_isAlpha h).small.1
  | false => rw [(case_of_not_isAlpha h).1, h]

/-- A small letter is its own lower case. -/
theorem toLower_of_isLower (h : c.isLower = true) : c.toLower = c := by
  refine toLower_of_not_isUpper ?_
  rw [isUpper_eq_not_isLower (isAlpha_of_isLower h), h, Bool.not_true]

/-- A capital is the upper case of its small letter. -/
theorem toUpper_toLower_of_not_isLower (h : c.isLower = false) : c.toLower.toUpper = c := by
  rw [toUpper_toLower, toUpper_of_not_isLower h]

end AbiBindings.Text
