import AbiBindings.Name.TypeName
import AbiBindings.Proofs.Text.UpperCase

/-!
# What type names look like

`IsTypeName` says it without the algorithm: no blank, dot or dash anywhere, and in front a character
that is no digit and its own upper case.  Made names are of this form, and names of this form stay
as they are.  Only a text of blanks, dots, dashes and digits has no type name.

    typeNameChars? raw = some name → IsTypeName name       (isTypeName_of_typeNameChars?)
    IsTypeName name → typeNameChars? name = some name      (typeNameChars?_of_isTypeName)
    the same of typeName     (isTypeName_of_typeName, typeName_of_isTypeName)
    joinWords raw = [] ↔ IsNameless raw                    (joinWords_eq_nil_iff)
    the name of a name is the name itself                  (typeName_idempotent)
-/

namespace AbiBindings

open Text

/-- A blank, a dot or a dash. -/
def IsWordBreak (c : Char) : Prop := isBlank c = true ∨ c = '.' ∨ c = '-'

instance (c : Char) : Decidable (IsWordBreak c) :=
  inferInstanceAs (Decidable (isBlank c = true ∨ c = '.' ∨ c = '-'))

/-- Word breaks and digits only. -/
def IsNameless (raw : List Char) : Prop := ∀ c ∈ raw, IsWordBreak c ∨ c.isDigit = true

instance (raw : List Char) : Decidable (IsNameless raw) :=
  List.decidableBAll (fun c => IsWordBreak c ∨ c.isDigit = true) raw

/-- The form of type names. -/
structure IsTypeName (name : List Char) : Prop where
  head : ∃ c r, name = c :: r ∧ upperChar c = [c] ∧ c.isDigit = false
  noBreak : ∀ c ∈ name, isBlank c = false ∧ c ≠ '.' ∧ c ≠ '-'

/-! ## Plain characters -/

theorem Text.IsPlain.ne {c d : Char} (h : IsPlain c) (hd : d.toNat < 0x41) : c ≠ d := by
  rintro rfl
  have := h.2
  omega

theorem Text.IsPlain.isDigit_eq_false {c : Char} (h : IsPlain c) : c.isDigit = false := by
  rw [← Bool.not_eq_true, Char.isDigit_iff_toNat]
  have := h.2
  show ¬ (0x30 ≤ c.toNat ∧ c.toNat ≤ 0x39)
  omega

theorem toNat_of_isSmallAscii {c : Char} (h : isSmallAscii c = true) :
    0x61 ≤ c.toNat ∧ c.toNat ≤ 0x7a := by
  simp only [isSmallAscii, Bool.and_eq_true, decide_eq_true_eq, Char.le_def,
    UInt32.le_iff_toNat_le] at h
  exact h

theorem isPlain_toUpper_small {c : Char} (h : isSmallAscii c = true) : IsPlain c.toUpper := by
  have hc : c.toNat < 0x80 := by
    have := toNat_of_isSmallAscii h
    omega
  exact ascii_forall (P := fun c => isSmallAscii c = true →
    isBlank c.toUpper = false ∧ 0x41 ≤ c.toUpper.toNat) (by decide +kernel) hc h

/-! ## Words -/

theorem mem_capitaliseBreaks {s : List Char} {d : Char} (h : d ∈ capitaliseBreaks s) :
    d ∈ s ∨ IsPlain d := by
  induction s using capitaliseBreaks.induct with
  | case1 => simp [capitaliseBreaks] at h
  | case2 c => exact Or.inl h
  | case3 c e r hb ih =>
    simp only [Bool.and_eq_true] at hb
    rw [capitaliseBreaks, if_pos (by simp [hb]), List.mem_cons] at h
    rcases h with rfl | h
    · exact Or.inr (isPlain_toUpper_small hb.2)
    · rcases ih h with h | h
      · exact Or.inl (List.mem_cons_of_mem _ (List.mem_cons_of_mem _ h))
      · exact Or.inr h
  | case4 c e r hb ih =>
    rw [capitaliseBreaks, if_neg hb, List.mem_cons] at h
    rcases h with rfl | h
    · exact Or.inl List.mem_cons_self
    · rcases ih h with h | h
      · exact Or.inl (List.mem_cons_of_mem _ h)
      · exact Or.inr h

theorem capitaliseBreaks_of_not_mem {s : List Char} (h : '-' ∉ s) : capitaliseBreaks s = s := by
  induction s using capitaliseBreaks.induct with
  | case1 => rfl
  | case2 c => rfl
  | case3 c e r hb ih =>
    simp only [Bool.and_eq_true, beq_iff_eq] at hb
    exact absurd (hb.1 ▸ List.mem_cons_self) h
  | case4 c e r hb ih =>
    rw [capitaliseBreaks, if_neg hb, ih fun hm => h (List.mem_cons_of_mem _ hm)]

theorem breakAsDash_eq_self {c : Char} (hb : isBlank c = false) (hd : c ≠ '.') :
    breakAsDash c = c := by
  simp [breakAsDash, hb, hd]

theorem breakAsDash_eq_dash_iff (c : Char) : breakAsDash c = '-' ↔ IsWordBreak c := by
  unfold breakAsDash IsWordBreak
  by_cases hb : isBlank c = true
  · simp [hb]
  · by_cases hd : c = '.'
    · simp [hd]
    · simp [hb, hd]

theorem breakAsDash_of_not_isWordBreak {c : Char} (h : ¬ IsWordBreak c) : breakAsDash c = c := by
  simp only [IsWordBreak, not_or, Bool.not_eq_true] at h
  exact breakAsDash_eq_self h.1 h.2.1

/-- Capitals instead of small letters do not matter to a property that the dash has as well. -/
theorem forall_mem_capitaliseBreaks {P : Char → Prop} (hdash : P '-')
    (hsmall : ∀ c, isSmallAscii c = true → (P c.toUpper ↔ P c)) (s : List Char) :
    (∀ c ∈ capitaliseBreaks s, P c) ↔ ∀ c ∈ s, P c := by
  induction s using capitaliseBreaks.induct with
  | case1 => simp [capitaliseBreaks]
  | case2 c => simp [capitaliseBreaks]
  | case3 c d r hb ih =>
    simp only [Bool.and_eq_true, beq_iff_eq] at hb
    obtain ⟨rfl, hd⟩ := hb
    have hcapital : P d.toUpper ↔ P d := hsmall d hd
    simp only [capitaliseBreaks, hd, beq_self_eq_true, Bool.and_self, if_true, List.forall_mem_cons,
      ih, hcapital]
    exact (and_iff_right hdash).symm
  | case4 c d r hb ih =>
    rw [capitaliseBreaks, if_neg hb, List.forall_mem_cons, List.forall_mem_cons, ih]

/-- What holds of all characters of the joined words holds of all those of the raw name that break
no word, if it holds of digits and does not tell small letters from capitals. -/
theorem forall_mem_joinWords {P : Char → Prop} (hdigit : ∀ c, c.isDigit = true → P c)
    (hsmall : ∀ c, isSmallAscii c = true → (P c.toUpper ↔ P c)) (raw : List Char) :
    (∀ c ∈ joinWords raw, P c) ↔ ∀ c ∈ raw, IsWordBreak c ∨ P c := by
  have hdrop (s : List Char) : (∀ c ∈ s.dropWhile Char.isDigit, P c) ↔ ∀ c ∈ s, P c := by
    constructor
    · intro h c hc
      rw [← List.takeWhile_append_dropWhile (p := Char.isDigit) (l := s)] at hc
      rcases List.mem_append.1 hc with hc | hc
      · exact hdigit c (List.all_eq_true.1 List.all_takeWhile c hc)
      · exact h c hc
    · intro h c hc
      exact h c ((List.dropWhile_suffix _).mem hc)
  have hfilter (s : List Char) : (∀ c ∈ s.filter (· != '-'), P c) ↔ ∀ c ∈ s, c = '-' ∨ P c := by
    simp only [List.mem_filter, bne_iff_ne, and_imp]
    exact forall₂_congr fun c _ => Classical.or_iff_not_imp_left.symm
  have hcapital (c : Char) (hc : isSmallAscii c = true) :
      (c.toUpper = '-' ∨ P c.toUpper) ↔ (c = '-' ∨ P c) := by
    have hupper : c.toUpper ≠ '-' := (isPlain_toUpper_small hc).ne (by decide)
    have hlower : c ≠ '-' := by
      rintro rfl
      exact absurd hc (by decide)
    simp [hupper, hlower, hsmall c hc]
  have hbreak (c : Char) : (breakAsDash c = '-' ∨ P (breakAsDash c)) ↔ (IsWordBreak c ∨ P c) := by
    rw [breakAsDash_eq_dash_iff]
    by_cases hc : IsWordBreak c
    · simp [hc]
    · rw [breakAsDash_of_not_isWordBreak hc]
  unfold joinWords
  rw [hdrop, hfilter,
    forall_mem_capitaliseBreaks (P := fun c => c = '-' ∨ P c) (Or.inl rfl) hcapital,
    List.forall_mem_map]
  exact forall₂_congr fun c _ => hbreak c

/-- A character of the joined words is plain, or one of the raw name that breaks no word. -/
theorem mem_joinWords {raw : List Char} {d : Char} (h : d ∈ joinWords raw) :
    IsPlain d ∨ d ∈ raw ∧ isBlank d = false ∧ d ≠ '.' ∧ d ≠ '-' := by
  have h := (List.dropWhile_suffix _).mem h
  rw [List.mem_filter, bne_iff_ne] at h
  rcases mem_capitaliseBreaks h.1 with hm | hm
  · obtain ⟨c, hc, rfl⟩ := List.mem_map.1 hm
    unfold breakAsDash at h ⊢
    split at h
    · exact absurd rfl h.2
    · rename_i hbreak
      simp only [Bool.or_eq_true, beq_iff_eq, not_or, Bool.not_eq_true] at hbreak
      rw [if_neg (by simp [hbreak])]
      exact Or.inr ⟨hc, hbreak.1, hbreak.2, h.2⟩
  · exact Or.inl hm

theorem joinWords_head {raw r : List Char} {c : Char} (h : joinWords raw = c :: r) :
    c.isDigit = false := by
  have := List.head?_dropWhile_not Char.isDigit
    ((capitaliseBreaks (raw.map breakAsDash)).filter (· != '-'))
  rw [← joinWords, h] at this
  exact this

/-- Nothing is left of a name of word breaks and digits. -/
theorem joinWords_eq_nil_iff (raw : List Char) : joinWords raw = [] ↔ IsNameless raw := by
  have hsmall (c : Char) (hc : isSmallAscii c = true) :
      c.toUpper.isDigit = true ↔ c.isDigit = true := by
    have hupper : c.toUpper.isDigit = false := (isPlain_toUpper_small hc).isDigit_eq_false
    have hlower : c.isDigit = false := by
      rw [← Bool.not_eq_true, Char.isDigit_iff_toNat]
      have := toNat_of_isSmallAscii hc
      show ¬ (0x30 ≤ c.toNat ∧ c.toNat ≤ 0x39)
      omega
    simp [hupper, hlower]
  rw [IsNameless, ← forall_mem_joinWords (fun c hc => hc) hsmall]
  constructor
  · intro h
    simp [h]
  · intro h
    cases hj : joinWords raw with
    | nil => rfl
    | cons c r =>
      -- The leading digits are gone.
      have hdigit : c.isDigit = true := h c (hj ▸ List.mem_cons_self)
      rw [joinWords_head hj] at hdigit
      cases hdigit

/-! ## Names -/

theorem typeNameChars?_eq_some_iff {raw name : List Char} :
    typeNameChars? raw = some name ↔ ∃ c r, joinWords raw = c :: r ∧ upperChar c ++ r = name := by
  unfold typeNameChars?
  split
  · rename_i h; simp [h]
  · rename_i c r h
    rw [h, Option.some.injEq]
    constructor
    · rintro rfl; exact ⟨c, r, rfl, rfl⟩
    · rintro ⟨_, _, he, rfl⟩; obtain ⟨rfl, rfl⟩ := List.cons.inj he; rfl

/-- A character of a type name is plain, or one of the raw name that breaks no word. -/
theorem mem_typeNameChars? {raw name : List Char} (h : typeNameChars? raw = some name) {d : Char}
    (hd : d ∈ name) : IsPlain d ∨ d ∈ raw ∧ isBlank d = false ∧ d ≠ '.' ∧ d ≠ '-' := by
  obtain ⟨c, r, hj, rfl⟩ := typeNameChars?_eq_some_iff.1 h
  have hmem {x : Char} (hx : x ∈ c :: r) := mem_joinWords (hj ▸ hx : x ∈ joinWords raw)
  rcases List.mem_append.1 hd with hd | hd
  · rcases mem_upperChar hd with rfl | hd
    · exact hmem List.mem_cons_self
    · exact Or.inl hd
  · exact hmem (List.mem_cons_of_mem _ hd)

theorem isTypeName_of_typeNameChars? {raw name : List Char} (h : typeNameChars? raw = some name) :
    IsTypeName name := by
  constructor
  · obtain ⟨c, r, hj, rfl⟩ := typeNameChars?_eq_some_iff.1 h
    obtain ⟨d, t, hu⟩ := List.exists_cons_of_ne_nil (upperChar_ne_nil c)
    refine ⟨d, t ++ r, by rw [hu, List.cons_append], upperChar_head hu, ?_⟩
    rcases mem_upperChar (hu ▸ List.mem_cons_self : d ∈ upperChar c) with rfl | hd
    · exact joinWords_head hj
    · exact hd.isDigit_eq_false
  · intro c hc
    rcases mem_typeNameChars? h hc with hp | ⟨-, hb⟩
    · exact ⟨hp.1, hp.ne (by decide), hp.ne (by decide)⟩
    · exact hb

theorem typeNameChars?_of_isTypeName {name : List Char} (h : IsTypeName name) :
    typeNameChars? name = some name := by
  obtain ⟨c, r, rfl, hu, hd⟩ := h.head
  have hmap : (c :: r).map breakAsDash = c :: r := by
    conv => rhs; rw [← List.map_id (c :: r)]
    apply List.map_congr_left
    exact fun d hd => breakAsDash_eq_self (h.noBreak d hd).1 (h.noBreak d hd).2.1
  have hdash : '-' ∉ c :: r := fun hm => (h.noBreak _ hm).2.2 rfl
  have hfilter : (c :: r).filter (· != '-') = c :: r := by
    rw [List.filter_eq_self]
    exact fun d hd => bne_iff_ne.2 (h.noBreak d hd).2.2
  have hj : joinWords (c :: r) = c :: r := by
    rw [joinWords, hmap, capitaliseBreaks_of_not_mem hdash, hfilter,
      List.dropWhile_cons_of_neg (by simp [hd])]
  rw [typeNameChars?_eq_some_iff]
  exact ⟨c, r, hj, by rw [hu, List.singleton_append]⟩

theorem isTypeName_of_typeName {raw name : String} (h : typeName raw = .ok name) :
    IsTypeName name.toList := by
  obtain ⟨l, hl, rfl⟩ := Option.map_eq_some_iff.1 (typeName_eq_ok_iff.1 h)
  rw [String.toList_ofList]
  exact isTypeName_of_typeNameChars? hl

theorem typeName_of_isTypeName {name : String} (h : IsTypeName name.toList) :
    typeName name = .ok name := by
  rw [typeName_eq_ok_iff, typeName?, typeNameChars?_of_isTypeName h]
  simp

theorem typeName?_eq_none_iff (raw : String) : typeName? raw = none ↔ IsNameless raw.toList := by
  rw [← joinWords_eq_nil_iff]
  unfold typeName? typeNameChars?
  cases joinWords raw.toList <;> simp

/-- A text of word breaks and digits has no type name.  Any other text has one, which begins with no
digit, has no word break, and is its own type name. -/
theorem typeName_idempotent (raw : String) :
    if IsNameless raw.toList then
      typeName raw = .error (.malformedAbi
        s!"can't derive a type name from '{raw}', please rename it")
    else
      ∃ name, typeName raw = .ok name ∧ name ≠ "" ∧ (∀ c ∈ name.toList, ¬ IsWordBreak c) ∧
        (∀ c, name.toList.head? = some c → c.isDigit = false) ∧ typeName name = .ok name := by
  by_cases h : IsNameless raw.toList
  · have hnone : typeName? raw = none := (typeName?_eq_none_iff raw).2 h
    rw [if_pos h, typeName, hnone]
  · rw [if_neg h]
    obtain ⟨name, hname⟩ : ∃ name, typeName? raw = some name := by
      rw [← Option.isSome_iff_exists, Option.isSome_iff_ne_none]
      intro hnone
      exact h ((typeName?_eq_none_iff raw).1 hnone)
    have hok : typeName raw = .ok name := typeName_eq_ok_iff.2 hname
    have hform : IsTypeName name.toList := isTypeName_of_typeName hok
    obtain ⟨c, r, hcons, -, hdigit⟩ := hform.head
    refine ⟨name, hok, ?_, ?_, ?_, typeName_of_isTypeName hform⟩
    · rintro rfl
      simp at hcons
    · intro d hd hbreak
      have hfree := hform.noBreak d hd
      simp [IsWordBreak, hfree] at hbreak
    · intro d hd
      rw [hcons, List.head?_cons, Option.some.injEq] at hd
      rw [← hd]
      exact hdigit

/-- Breaks, a leading digit and a letter whose upper case is two letters. -/
example : typeName? "9 -ßx-y.Z" = some "SSxYZ" ∧ typeName? "2024.-1" = none := by
  decide

end AbiBindings
