import AbiBindings.Text.Ranges

/-!
# White space

`isBlank` is the White_Space property, and `trim` drops blanks at both ends:

    trim s = [] ↔ every character of s is blank  (trim_eq_nil_iff)
    trim s has no blanks at its ends             (isTrimmed_trim)
-/

namespace AbiBindings.Text

/-! ## Algorithm -/

/-- All characters with the White_Space property. -/
def blanks : Ranges := [
  (0x9, 0xd), (0x20, 0x20), (0x85, 0x85), (0xa0, 0xa0), (0x1680, 0x1680), (0x2000, 0x200a),
  (0x2028, 0x2029), (0x202f, 0x202f), (0x205f, 0x205f), (0x3000, 0x3000)]

/-- A white-space character. -/
def isBlank (c : Char) : Bool := blanks.contains c

/-- Drops blanks at the front. -/
def trimStart (s : List Char) : List Char := s.dropWhile isBlank

/-- Drops blanks at the end. -/
def trimEnd (s : List Char) : List Char := (s.reverse.dropWhile isBlank).reverse

/-- Drops blanks at both ends. -/
def trim (s : List Char) : List Char := trimEnd (trimStart s)

/-- A text of blanks only, the empty one included. -/
def isBlankText (s : String) : Bool := s.toList.all isBlank

/-! ## Lemmas -/

theorem isBlank_of_isWhitespace (c : Char) (h : c.isWhitespace = true) : isBlank c = true := by
  simp only [Char.isWhitespace, Bool.or_eq_true, decide_eq_true_eq] at h
  rcases h with ((h | h) | h) | h <;> subst h <;> decide

theorem toNat_of_isAlpha {c : Char} (h : c.isAlpha = true) : 0x41 ≤ c.toNat ∧ c.toNat ≤ 0x7a := by
  rcases Bool.or_eq_true_iff.1 (show (c.isUpper || c.isLower) = true from h) with h | h
  · have hu : 0x41 ≤ c.toNat ∧ c.toNat ≤ 0x5a := of_decide_eq_true h
    omega
  · obtain ⟨h₁, h₂⟩ := Bool.and_eq_true_iff.1 h
    have ha : 0x61 ≤ c.toNat := of_decide_eq_true h₁
    have hz : c.toNat ≤ 0x7a := of_decide_eq_true h₂
    omega

theorem toNat_of_isAlphanum {c : Char} (h : c.isAlphanum = true) :
    0x30 ≤ c.toNat ∧ c.toNat ≤ 0x7a := by
  rcases Bool.or_eq_true_iff.1 (show (c.isAlpha || c.isDigit) = true from h) with h | h
  · have ha := toNat_of_isAlpha h
    omega
  · rw [Char.isDigit_iff_toNat] at h
    have hd : 0x30 ≤ c.toNat ∧ c.toNat ≤ 0x39 := h
    omega

theorem isBlank_of_isAlphanum {c : Char} (h : c.isAlphanum = true) : isBlank c = false := by
  have hc := toNat_of_isAlphanum h
  simp [isBlank, blanks, Ranges.contains]
  omega

theorem trimStart_eq_nil_iff (s : List Char) : trimStart s = [] ↔ ∀ c ∈ s, isBlank c = true := by
  induction s with
  | nil => simp [trimStart]
  | cons c r ih =>
    cases h : isBlank c <;> simp_all [trimStart]

theorem trimEnd_eq_nil_iff (s : List Char) : trimEnd s = [] ↔ ∀ c ∈ s, isBlank c = true := by
  rw [trimEnd, List.reverse_eq_nil_iff]
  exact (trimStart_eq_nil_iff s.reverse).trans (by simp)

theorem trim_eq_nil_iff (s : List Char) : trim s = [] ↔ ∀ c ∈ s, isBlank c = true := by
  rw [trim, trimEnd_eq_nil_iff, ← trimStart_eq_nil_iff s]
  constructor
  · intro h
    cases hs : trimStart s with
    | nil => rfl
    | cons c r =>
      have hc : isBlank c = true := h c (by simp [hs])
      have : (trimStart s).head? = some c := by simp [hs]
      have := List.head?_dropWhile_not isBlank s
      simp_all [trimStart]
  · intro h; simp [h]

/-! ### Trimmed texts -/

/-- A text without blanks at its ends. -/
structure IsTrimmed (s : List Char) : Prop where
  start : trimStart s = s
  finish : trimEnd s = s

theorem IsTrimmed.trim_eq {s : List Char} (h : IsTrimmed s) : trim s = s := by
  rw [trim, h.start, h.finish]

theorem trimStart_eq_self_iff {s : List Char} :
    trimStart s = s ↔ ∀ c ∈ s.head?, isBlank c = false := by
  cases s with
  | nil => simp [trimStart]
  | cons c r =>
    cases h : isBlank c with
    | false => simp [trimStart, h]
    | true =>
      have hlt : (trimStart (c :: r)).length < (c :: r).length := by
        have := (List.dropWhile_suffix isBlank (l := r)).length_le
        simp only [trimStart, List.dropWhile_cons, h, if_true, List.length_cons]
        omega
      constructor
      · intro he
        rw [he] at hlt
        exact absurd hlt (Nat.lt_irrefl _)
      · intro hc
        have := hc c rfl
        rw [h] at this
        cases this

theorem trimEnd_eq_self_iff {s : List Char} :
    trimEnd s = s ↔ ∀ c ∈ s.getLast?, isBlank c = false := by
  rw [trimEnd, List.reverse_eq_iff, ← List.head?_reverse]
  exact trimStart_eq_self_iff

/-- What is dropped at the end is blank. -/
theorem exists_trimEnd_append (s : List Char) :
    ∃ b, s = trimEnd s ++ b ∧ ∀ c ∈ b, isBlank c = true := by
  refine ⟨(s.reverse.takeWhile isBlank).reverse, ?_, fun c hc => ?_⟩
  · rw [trimEnd, ← List.reverse_append, List.takeWhile_append_dropWhile, List.reverse_reverse]
  · exact List.all_eq_true.1 (List.all_takeWhile (l := s.reverse)) c (List.mem_reverse.1 hc)

theorem trimEnd_append_of_blank {s b : List Char} (h : ∀ c ∈ b, isBlank c = true) :
    trimEnd (s ++ b) = trimEnd s := by
  rw [trimEnd, List.reverse_append,
    List.dropWhile_append_of_pos fun c hc => h c (List.mem_reverse.1 hc), trimEnd]

/-- Trimming takes blanks away at both ends. -/
theorem exists_trim_append (s : List Char) :
    ∃ before after, s = before ++ trim s ++ after ∧ (∀ c ∈ before, isBlank c = true) ∧
      ∀ c ∈ after, isBlank c = true := by
  obtain ⟨after, hend, hblank⟩ := exists_trimEnd_append (trimStart s)
  refine ⟨s.takeWhile isBlank, after, ?_, fun c hc => ?_, hblank⟩
  · rw [List.append_assoc, trim, ← hend]
    exact List.takeWhile_append_dropWhile.symm
  · exact List.all_eq_true.1 List.all_takeWhile c hc

/-- Blanks around a text do not matter. -/
theorem trim_append_blanks {before after : List Char} (hb : ∀ c ∈ before, isBlank c = true)
    (ha : ∀ c ∈ after, isBlank c = true) (s : List Char) :
    trim (before ++ s ++ after) = trim s := by
  have hstart : trimStart (before ++ s ++ after) = trimStart (s ++ after) := by
    rw [List.append_assoc]
    exact List.dropWhile_append_of_pos hb
  rw [trim, trim, hstart, trimStart, List.dropWhile_append]
  split
  · rename_i hnil
    rw [List.isEmpty_iff] at hnil
    have hafter : after.dropWhile isBlank = [] := (trimStart_eq_nil_iff after).2 ha
    rw [hafter, trimStart, hnil]
  · exact trimEnd_append_of_blank ha

theorem trim_subset (s : List Char) : trim s ⊆ s := by
  obtain ⟨before, after, hs, -, -⟩ := exists_trim_append s
  intro c hc
  rw [hs]
  exact List.mem_append_left _ (List.mem_append_right _ hc)

/-- Trimming does not matter to what leaves out blanks anyway. -/
theorem filter_trim {p : Char → Bool} {s : List Char}
    (h : ∀ c ∈ s, isBlank c = true → p c = false) : (trim s).filter p = s.filter p := by
  obtain ⟨before, after, hs, hb, ha⟩ := exists_trim_append s
  have hnone {b : List Char} (hsub : b ⊆ s) (hblank : ∀ c ∈ b, isBlank c = true) :
      b.filter p = [] :=
    List.filter_eq_nil_iff.2 fun c hc => by simp [h c (hsub hc) (hblank c hc)]
  have hbefore : before.filter p = [] :=
    hnone (fun c hc => hs ▸ List.mem_append_left _ (List.mem_append_left _ hc)) hb
  have hafter : after.filter p = [] := hnone (fun c hc => hs ▸ List.mem_append_right _ hc) ha
  conv => rhs; rw [hs, List.filter_append, List.filter_append, hbefore, hafter]
  rw [List.nil_append, List.append_nil]

theorem isTrimmed_of_noBlank {s : List Char} (h : ∀ c ∈ s, isBlank c = false) : IsTrimmed s where
  start := trimStart_eq_self_iff.2 fun c hc => h c (List.mem_of_mem_head? hc)
  finish := trimEnd_eq_self_iff.2 fun c hc => h c (List.mem_of_getLast? hc)

theorem isTrimmed_trim (s : List Char) : IsTrimmed (trim s) := by
  have hstart : ∀ c ∈ (trimStart s).head?, isBlank c = false := by
    intro c hc
    have hnot := List.head?_dropWhile_not isBlank s
    have he : (s.dropWhile isBlank).head? = some c := hc
    rw [he] at hnot
    simpa using hnot
  constructor
  · rw [trimStart_eq_self_iff]
    intro c hc
    obtain ⟨b, hb, -⟩ := exists_trimEnd_append (trimStart s)
    refine hstart c ?_
    rw [hb, List.head?_append, show (trimEnd (trimStart s)).head? = some c from hc]
    rfl
  · obtain ⟨b, hb, hblank⟩ := exists_trimEnd_append (trimStart s)
    have h : trimEnd (trimEnd (trimStart s) ++ b) = trimEnd (trimEnd (trimStart s)) :=
      trimEnd_append_of_blank hblank
    rw [← hb] at h
    exact h.symm

end AbiBindings.Text
