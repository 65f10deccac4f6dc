import AbiBindings.Text.Blank
import AbiBindings.Text.Case

/-!
# Upper case, once and twice

The upper case of a character begins with a character that is its own upper case, and whatever is
new in it is a plain character: no blank, digit, dot, dash or slash.  Both are read off the tables,
interval by interval: nothing that a run or an expansion leads to is what one starts from.

    upperChar c = d :: r → upperChar d = [d]               (upperChar_head)
    d ∈ upperChar c → d = c ∨ IsPlain d                    (mem_upperChar)
-/

namespace AbiBindings.Text

/-! ## Images -/

/-- The run that maps one code point to itself. -/
def CaseRun.point (n : Nat) : CaseRun := ⟨n, n, 1, n⟩

/-- Last code point that a run leads to. -/
def CaseRun.targetLast (s : CaseRun) : Nat := s.target + (s.last - s.first)

/-- All that upper case is looked up by. -/
def upperSources : List CaseRun := upperRuns ++ upperExpansions.map fun e => .point e.1

/-- What upper cases begin with. -/
def upperHeads : List CaseRun :=
  upperRuns ++ upperExpansions.flatMap fun e => e.2.head?.toList.map .point

/-- What upper cases consist of. -/
def upperImages : List CaseRun := upperRuns ++ upperExpansions.flatMap fun e => e.2.map .point

/-- Nothing that `s` leads to is what `r` starts from: the intervals are apart, or they overlap in
code points of different parity. -/
def CaseRun.isApart (s r : CaseRun) : Bool :=
  Nat.blt s.targetLast r.first || Nat.blt r.last s.target ||
    (Nat.beq r.step 2 && (Nat.beq s.step 2 || Nat.beq s.first s.last) &&
      Nat.beq ((s.target + r.first) % 2) 1)

/-- All that `s` leads to are characters from `A` on, none of them blank. -/
def CaseRun.isPlain (s : CaseRun) : Bool :=
  Nat.ble 0x41 s.target &&
    (Nat.blt s.targetLast 0xd800 || (Nat.blt 0xdfff s.target && Nat.blt s.targetLast 0x110000)) &&
    blanks.all fun b => Nat.blt s.targetLast b.1 || Nat.blt b.2 s.target

/-- A character that neither breaks nor opens a name: no blank, and from `A` on. -/
def IsPlain (c : Char) : Prop := isBlank c = false ∧ 0x41 ≤ c.toNat

/-! ## Tables -/

theorem upperHeads_apart :
    (upperHeads.all fun s => upperSources.all fun r => s.isApart r) = true := by
  decide +kernel

theorem upperImages_plain : upperImages.all CaseRun.isPlain = true := by
  decide +kernel

theorem upperExpansions_ne_nil : ∀ e ∈ upperExpansions, e.2 ≠ [] := by
  decide +kernel

/-! ## Runs -/

theorem CaseRun.image?_eq_some_iff {r : CaseRun} {n m : Nat} :
    r.image? n = some m ↔
      (r.first ≤ n ∧ n ≤ r.last ∧ (n - r.first) % r.step = 0) ∧ r.target + (n - r.first) = m := by
  unfold CaseRun.image?
  split
  · rename_i h
    simp only [Bool.and_eq_true, decide_eq_true_eq, beq_iff_eq] at h
    simp [h]
  · rename_i h
    simp only [Bool.and_eq_true, decide_eq_true_eq, beq_iff_eq] at h
    constructor
    · intro e; cases e
    · rintro ⟨⟨h₁, h₂, h₃⟩, -⟩; exact absurd ⟨⟨h₁, h₂⟩, h₃⟩ h

theorem CaseRun.image?_point {n m : Nat} : (point n).image? m = some n ↔ m = n := by
  rw [image?_eq_some_iff]
  show (n ≤ m ∧ m ≤ n ∧ (m - n) % 1 = 0) ∧ n + (m - n) = n ↔ m = n
  omega

theorem CaseRun.image?_of_isApart {s r : CaseRun} {n m : Nat} (h : s.isApart r = true)
    (hm : s.image? n = some m) : r.image? m = none := by
  obtain ⟨⟨h₁, h₂, h₃⟩, h₄⟩ := image?_eq_some_iff.1 hm
  rw [Option.eq_none_iff_forall_not_mem]
  intro k hk
  obtain ⟨⟨h₅, h₆, h₇⟩, -⟩ := image?_eq_some_iff.1 hk
  simp only [isApart, targetLast, Bool.or_eq_true, Bool.and_eq_true, Nat.blt_eq, Nat.beq_eq]
    at h
  rcases h with (h | h) | ⟨⟨h₈, h | h⟩, h₉⟩
  · omega
  · omega
  · rw [h] at h₃; rw [h₈] at h₇; omega
  · rw [h₈] at h₇; omega

theorem CaseRun.isPlain_image {s : CaseRun} (h : s.isPlain = true) {n m : Nat}
    (hm : s.image? n = some m) : (Char.ofNat m).toNat = m ∧ IsPlain (Char.ofNat m) := by
  obtain ⟨⟨h₁, h₂, -⟩, h₄⟩ := image?_eq_some_iff.1 hm
  simp only [isPlain, targetLast, Bool.and_eq_true, Bool.or_eq_true, Nat.blt_eq, Nat.ble_eq,
    List.all_eq_true] at h
  obtain ⟨⟨h₅, h₆⟩, h₇⟩ := h
  have hv : m.isValidChar := by
    rcases h₆ with h₆ | h₆
    · left; omega
    · right; omega
  have hc : (Char.ofNat m).toNat = m := by
    unfold Char.ofNat
    rw [dif_pos hv]
    rfl
  refine ⟨hc, ?_, by omega⟩
  rw [← Bool.not_eq_true, isBlank, Ranges.contains_iff]
  rintro ⟨b, hb, h₈, h₉⟩
  have := h₇ b hb
  omega

/-! ## Characters -/

/-- The run of the ASCII letters. -/
def asciiRun : CaseRun := ⟨0x61, 0x7a, 1, 0x41⟩

theorem asciiRun_mem : asciiRun ∈ upperRuns := by
  unfold upperRuns
  exact List.mem_cons_self

theorem toUpper_ascii {c : Char} (h : c.toNat < 0x80) :
    c.toUpper = Char.ofNat ((asciiRun.image? c.toNat).getD c.toNat) :=
  ascii_forall (P := fun c => c.toUpper = Char.ofNat ((asciiRun.image? c.toNat).getD c.toNat))
    (by decide +kernel) h

theorem runImage?_eq_none_iff {runs : List CaseRun} {n : Nat} :
    runImage? runs n = none ↔ ∀ r ∈ runs, r.image? n = none := by
  unfold runImage?
  exact List.findSome?_eq_none_iff

theorem lookup_eq_none_of_point {es : List (Nat × List Nat)} {n : Nat}
    (h : ∀ e ∈ es, (CaseRun.point e.1).image? n = none) : es.lookup n = none := by
  rw [List.lookup_eq_none_iff]
  intro e he
  rw [bne_iff_ne]
  intro hn
  have := CaseRun.image?_point.2 hn
  rw [h e he] at this
  cases this

/-- A character that no table starts from is its own upper case. -/
theorem upperChar_of_no_image {c : Char} (h : ∀ r ∈ upperSources, r.image? c.toNat = none) :
    upperChar c = [c] := by
  have hr : ∀ r ∈ upperRuns, r.image? c.toNat = none := fun r hr =>
    h r (List.mem_append_left _ hr)
  unfold upperChar
  split
  · rename_i ha
    rw [toUpper_ascii ha, hr _ asciiRun_mem, Option.getD_none, Char.ofNat_toNat]
  · have he : upperExpansions.lookup c.toNat = none := lookup_eq_none_of_point fun e he =>
      h _ (List.mem_append_right _ (List.mem_map_of_mem he))
    rw [mapCase, he, runImage?_eq_none_iff.2 hr]

/-- A character that some run of a list leads to. -/
def IsImage (runs : List CaseRun) (c : Char) : Prop :=
  ∃ s ∈ runs, ∃ n m, s.image? n = some m ∧ c = Char.ofNat m

theorem isImage_of_run {more : List CaseRun} {s : CaseRun} {n m : Nat} (hs : s ∈ upperRuns)
    (hm : s.image? n = some m) : IsImage (upperRuns ++ more) (Char.ofNat m) :=
  ⟨s, List.mem_append_left _ hs, n, m, hm, rfl⟩

theorem isImage_of_expansion {more : List CaseRun} {m : Nat} (h : CaseRun.point m ∈ more) :
    IsImage (upperRuns ++ more) (Char.ofNat m) :=
  ⟨_, List.mem_append_right _ h, m, m, CaseRun.image?_point.2 rfl, rfl⟩

/-- An upper case is the character itself, or consists of images, a head first. -/
theorem upperChar_cases (c : Char) :
    upperChar c = [c] ∨
      (∃ d r, upperChar c = d :: r ∧ IsImage upperHeads d) ∧
        ∀ d ∈ upperChar c, IsImage upperImages d := by
  have single {s : CaseRun} {n m : Nat} (hs : s ∈ upperRuns) (hm : s.image? n = some m)
      (e : upperChar c = [Char.ofNat m]) :
      (∃ d r, upperChar c = d :: r ∧ IsImage upperHeads d) ∧
        ∀ d ∈ upperChar c, IsImage upperImages d := by
    refine ⟨⟨_, _, e, isImage_of_run hs hm⟩, fun d hd => ?_⟩
    rw [e, List.mem_singleton] at hd
    exact hd ▸ isImage_of_run hs hm
  by_cases ha : c.toNat < 0x80
  · have e : upperChar c = [c.toUpper] := by rw [upperChar, if_pos ha]
    rw [toUpper_ascii ha] at e
    cases hm : asciiRun.image? c.toNat with
    | none => left; rw [e, hm, Option.getD_none, Char.ofNat_toNat]
    | some m => right; rw [hm] at e; exact single asciiRun_mem hm e
  · have e : upperChar c = mapCase upperExpansions upperRuns c := by rw [upperChar, if_neg ha]
    unfold mapCase at e
    split at e
    · rename_i ns hl
      have he : (c.toNat, ns) ∈ upperExpansions := by
        obtain ⟨l₁, l₂, h, -⟩ := List.lookup_eq_some_iff.1 hl
        rw [h]
        exact List.mem_append_right _ List.mem_cons_self
      right
      obtain ⟨m, ms, rfl⟩ := List.exists_cons_of_ne_nil (upperExpansions_ne_nil _ he)
      refine ⟨⟨_, _, e, isImage_of_expansion ?_⟩, fun d hd => ?_⟩
      · exact List.mem_flatMap.2 ⟨_, he, List.mem_singleton.2 rfl⟩
      · rw [e, List.mem_map] at hd
        obtain ⟨k, hk, rfl⟩ := hd
        exact isImage_of_expansion (List.mem_flatMap.2 ⟨_, he, List.mem_map_of_mem hk⟩)
    · split at e
      · rename_i m hm
        right
        obtain ⟨s, hs, hm⟩ := List.exists_of_findSome?_eq_some hm
        exact single hs hm e
      · left; exact e

theorem upperChar_ne_nil (c : Char) : upperChar c ≠ [] := by
  rcases upperChar_cases c with h | ⟨⟨d, r, h, -⟩, -⟩ <;> rw [h] <;> exact List.cons_ne_nil _ _

theorem upperHeads_subset : upperHeads ⊆ upperImages := by
  intro s hs
  rcases List.mem_append.1 hs with hs | hs
  · exact List.mem_append_left _ hs
  · obtain ⟨e, he, hs⟩ := List.mem_flatMap.1 hs
    obtain ⟨n, hn, rfl⟩ := List.mem_map.1 hs
    have : n ∈ e.2 := List.mem_of_mem_head? (Option.mem_toList.1 hn)
    exact List.mem_append_right _ (List.mem_flatMap.2 ⟨e, he, List.mem_map_of_mem this⟩)

/-- What an upper case begins with is its own upper case. -/
theorem upperChar_head {c d : Char} {r : List Char} (h : upperChar c = d :: r) :
    upperChar d = [d] := by
  rcases upperChar_cases c with hc | ⟨⟨e, t, he, s, hs, n, m, hm, rfl⟩, -⟩
  · rw [hc] at h
    obtain ⟨rfl, -⟩ := List.cons.inj h
    exact hc
  · rw [he] at h
    obtain ⟨rfl, -⟩ := List.cons.inj h
    have hplain := List.all_eq_true.1 upperImages_plain s (upperHeads_subset hs)
    apply upperChar_of_no_image
    intro r hr
    have hapart := List.all_eq_true.1 (List.all_eq_true.1 upperHeads_apart s hs) r hr
    rw [(CaseRun.isPlain_image hplain hm).1]
    exact CaseRun.image?_of_isApart hapart hm

/-- An upper case consists of plain characters, unless it is the character itself. -/
theorem mem_upperChar {c d : Char} (h : d ∈ upperChar c) : d = c ∨ IsPlain d := by
  rcases upperChar_cases c with hc | ⟨-, hall⟩
  · rw [hc, List.mem_singleton] at h
    exact Or.inl h
  · obtain ⟨s, hs, n, m, hm, rfl⟩ := hall d h
    exact Or.inr (CaseRun.isPlain_image (List.all_eq_true.1 upperImages_plain s hs) hm).2

end AbiBindings.Text
