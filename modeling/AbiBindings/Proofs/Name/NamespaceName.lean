import AbiBindings.Name.NamespaceName
import AbiBindings.Proofs.Name.TypeName
import AbiBindings.Proofs.Text.Camel

/-!
# Letters of namespace names

The namespace name of an ASCII directory name has the directory's letters and digits, whatever its
punctuation and case.  It begins with a small letter, so it is no type's name; but where the letters
and digits begin with a digit, or there are none, it begins with an underscore.

    lettersOf (namespaceName raw) = lettersOf raw                       (lettersOf_namespaceName)
    BeginsWithLetter raw → ¬ IsTypeName (namespaceName raw)       (BeginsWithLetter.not_isTypeName)
    ¬ BeginsWithLetter raw → namespaceName raw begins with '_'          (head?_namespaceName)
-/

namespace AbiBindings

open Text

/-- The letters and digits of a name, letters small. -/
def lettersOf (raw : String) : List Char := (raw.toList.filter isAlphanumeric).map Char.toLower

/-- A name whose letters and digits begin with a letter. -/
def BeginsWithLetter (raw : String) : Prop := ∃ c r, lettersOf raw = c :: r ∧ c.isDigit = false

/-! ## Characters -/

theorem alphanumerics_eq : ∃ rest, alphanumerics =
    (0x30, 0x39) :: (0x41, 0x5a) :: (0x61, 0x7a) :: rest ∧
      (rest.all fun r => Nat.ble 0x80 r.1) = true :=
  ⟨_, rfl, by decide +kernel⟩

/-- The letters and digits of ASCII. -/
theorem isAlphanumeric_ascii {c : Char} (h : c.toNat < 0x80) :
    isAlphanumeric c = c.isAlphanum := by
  obtain ⟨rest, heq, hrest⟩ := alphanumerics_eq
  have hnone : Ranges.contains rest c = false := Ranges.contains_ascii hrest h
  have hsplit : isAlphanumeric c =
      Ranges.contains [(0x30, 0x39), (0x41, 0x5a), (0x61, 0x7a)] c := by
    rw [isAlphanumeric, heq]
    unfold Ranges.contains at hnone ⊢
    simp only [List.any_cons, hnone, List.any_nil]
  rw [hsplit]
  exact ascii_forall (P := fun c =>
    Ranges.contains [(0x30, 0x39), (0x41, 0x5a), (0x61, 0x7a)] c = c.isAlphanum)
    (by decide +kernel) h

theorem toNat_lt_of_isAlphanum {c : Char} (h : c.isAlphanum = true) : c.toNat < 0x80 := by
  have := toNat_of_isAlphanum h
  omega

theorem isAlphanumeric_of_isAlphanum {c : Char} (h : c.isAlphanum = true) :
    isAlphanumeric c = true := by
  rw [isAlphanumeric_ascii (toNat_lt_of_isAlphanum h), h]

theorem isAlphanum_toLower_toUpper {c : Char} (h : c.isAlphanum = true) :
    c.toLower.isAlphanum = true ∧ c.toUpper.isAlphanum = true := by
  cases ha : c.isAlpha with
  | true => simp [Char.isAlphanum, ha]
  | false =>
    rw [(case_of_not_isAlpha ha).1, (case_of_not_isAlpha ha).2]
    exact ⟨h, h⟩

/-- A small letter is not its own upper case. -/
theorem upperChar_toLower_ne {c : Char} (h : c.isAlphanum = true)
    (hd : c.toLower.isDigit = false) : upperChar c.toLower ≠ [c.toLower] := by
  have hlower : c.toLower.isAlphanum = true := (isAlphanum_toLower_toUpper h).1
  have hsmall : c.toLower.isLower = true := by
    simpa [Char.isAlphanum, hd] using hlower
  rw [upperChar_ascii (toNat_lt_of_isAlphanum hlower)]
  intro heq
  rw [← (List.cons.inj heq).1, isLower_toUpper] at hsmall
  cases hsmall

/-! ## Words -/

variable {raw : List Char}

/-- A letter or digit, or a space for anything else. -/
def spaced (c : Char) : Char := if isAlphanumeric c then c else ' '

theorem separateWords_eq (raw : List Char) : separateWords raw = trim (raw.map spaced) := rfl

theorem spaced_eq_self {c : Char} (h : isAlphanumeric c = true) : spaced c = c := if_pos h

theorem spaced_eq_space {c : Char} (h : isAlphanumeric c = false) : spaced c = ' ' := by
  simp [spaced, h]

/-- Neither a blank nor a separator is a letter or digit. -/
theorem isAlphanumeric_of_spaced {c : Char} (h : c.toNat < 0x80)
    (hs : isBlank (spaced c) = true ∨ isSeparatorChar (spaced c) = true) :
    isAlphanumeric c = false := by
  cases ha : isAlphanumeric c with
  | false => rfl
  | true =>
    have halnum : c.isAlphanum = true := by rw [← isAlphanumeric_ascii h, ha]
    rw [spaced_eq_self ha, isBlank_of_isAlphanum halnum, isSeparatorChar_of_isAlphanum halnum] at hs
    simp at hs

theorem mem_separateWords {d : Char} (h : d ∈ separateWords raw) :
    d = ' ' ∨ d ∈ raw ∧ isAlphanumeric d = true := by
  obtain ⟨c, hc, rfl⟩ := List.mem_map.1 (trim_subset _ h)
  cases ha : isAlphanumeric c with
  | false => exact Or.inl rfl
  | true => exact Or.inr ⟨hc, ha⟩

theorem isAscii_separateWords (h : IsAscii raw) : IsAscii (separateWords raw) := by
  intro d hd
  rcases mem_separateWords hd with rfl | ⟨hd, -⟩
  · decide
  · exact h d hd

/-- The words have the letters and digits of the name. -/
theorem filter_separateWords (h : IsAscii raw) :
    (separateWords raw).filter (!isSeparatorChar ·) = raw.filter isAlphanumeric := by
  have hkept : ∀ c ∈ raw, (!isSeparatorChar (spaced c)) = isAlphanumeric c := by
    intro c hc
    cases ha : isAlphanumeric c with
    | false => rw [spaced_eq_space ha]; rfl
    | true =>
      have hsep : isSeparatorChar (spaced c) = false := by
        refine eq_false_of_ne_true fun hsep => ?_
        rw [isAlphanumeric_of_spaced (h c hc) (Or.inr hsep)] at ha
        cases ha
      rw [hsep, Bool.not_false]
  have htrim : ∀ d ∈ raw.map spaced, isBlank d = true → (!isSeparatorChar d) = false := by
    intro d hd hblank
    obtain ⟨c, hc, rfl⟩ := List.mem_map.1 hd
    rw [hkept c hc]
    exact isAlphanumeric_of_spaced (h c hc) (Or.inl hblank)
  calc (trim (raw.map spaced)).filter (!isSeparatorChar ·)
      = (raw.map spaced).filter (!isSeparatorChar ·) := filter_trim htrim
    _ = (raw.filter isAlphanumeric).map spaced := by
        rw [List.filter_map]
        exact congrArg (List.map spaced) (List.filter_congr hkept)
    _ = raw.filter isAlphanumeric :=
        map_eq_self fun c hc => spaced_eq_self (List.mem_filter.1 hc).2

/-! ## Names -/

theorem isAlphanum_of_mem_camel (h : IsAscii raw) {d : Char}
    (hd : d ∈ camel (separateWords raw)) : d.isAlphanum = true := by
  obtain ⟨c, hc, hcase⟩ := mem_camel (isAscii_separateWords h) hd
  rw [filter_separateWords h, List.mem_filter] at hc
  have ha : c.isAlphanum = true := by rw [← isAlphanumeric_ascii (h c hc.1), hc.2]
  obtain ⟨hlower, hupper⟩ := isAlphanum_toLower_toUpper ha
  rcases hcase with rfl | rfl
  · exact hlower
  · exact hupper

theorem namespaceName_eq {raw : String} (h : IsAscii raw.toList) :
    namespaceName raw = String.ofList (guardStart (camel (separateWords raw.toList))) := by
  have hsame : (camel (separateWords raw.toList)).map namespaceChar =
      camel (separateWords raw.toList) := by
    refine map_eq_self fun d hd => ?_
    rw [namespaceChar, isAlphanumeric_of_isAlphanum (isAlphanum_of_mem_camel h hd)]
    rfl
  rw [namespaceName, hsame]

theorem filter_guardStart (s : List Char) :
    (guardStart s).filter isAlphanumeric = s.filter isAlphanumeric := by
  have hmark : isAlphanumeric '_' = false := by
    rw [isAlphanumeric_ascii (by decide)]
    rfl
  unfold guardStart
  split
  · simp [hmark]
  · split
    · simp [List.filter_cons, hmark]
    · rfl

/-- A namespace name has the letters and digits of the directory name. -/
theorem lettersOf_namespaceName {raw : String} (h : IsAscii raw.toList) :
    lettersOf (namespaceName raw) = lettersOf raw := by
  have hall : ∀ d ∈ camel (separateWords raw.toList), isAlphanumeric d = true :=
    fun d hd => isAlphanumeric_of_isAlphanum (isAlphanum_of_mem_camel h hd)
  rw [lettersOf, namespaceName_eq h, String.toList_ofList, filter_guardStart,
    List.filter_eq_self.2 hall,
    map_toLower_camel (isAscii_separateWords h), filter_separateWords h, lettersOf]

/-! ### First characters -/

theorem head?_camel_separateWords {raw : String} (h : IsAscii raw.toList) :
    (camel (separateWords raw.toList)).head? = (lettersOf raw).head? := by
  rw [head?_camel (isAscii_separateWords h), filter_separateWords h, ← List.head?_map, lettersOf]

theorem exists_namespaceName_eq_cons {raw : String} (h : IsAscii raw.toList) {c : Char}
    {r : List Char} (hl : lettersOf raw = c :: r) (hd : c.isDigit = false) :
    ∃ s, (namespaceName raw).toList = c :: s := by
  have hhead := head?_camel_separateWords h
  rw [hl] at hhead
  obtain ⟨s, hs⟩ := List.head?_eq_some_iff.1 hhead
  refine ⟨s, ?_⟩
  rw [namespaceName_eq h, String.toList_ofList, hs, guardStart, hd]
  rfl

theorem head?_namespaceName {raw : String} (h : IsAscii raw.toList) (hl : ¬ BeginsWithLetter raw) :
    (namespaceName raw).toList.head? = some '_' := by
  have hhead := head?_camel_separateWords h
  rw [namespaceName_eq h, String.toList_ofList]
  cases hs : camel (separateWords raw.toList) with
  | nil => rfl
  | cons c s =>
    rw [hs] at hhead
    obtain ⟨r, hr⟩ := List.head?_eq_some_iff.1 hhead.symm
    have hd : c.isDigit = true :=
      eq_true_of_ne_false fun hd => hl ⟨c, r, hr, hd⟩
    rw [guardStart, if_pos hd]
    rfl

/-- A type may have the name of a namespace only if the directory begins with no letter. -/
theorem BeginsWithLetter.not_isTypeName {raw : String} (h : BeginsWithLetter raw)
    (ha : IsAscii raw.toList) : ¬ IsTypeName (namespaceName raw).toList := by
  obtain ⟨c, r, hl, hd⟩ := h
  obtain ⟨s, hs⟩ := exists_namespaceName_eq_cons ha hl hd
  obtain ⟨b, hb, rfl⟩ : ∃ b ∈ raw.toList.filter isAlphanumeric, b.toLower = c :=
    List.mem_map.1 (hl ▸ List.mem_cons_self : c ∈ lettersOf raw)
  obtain ⟨hb, halnum⟩ := List.mem_filter.1 hb
  rw [isAlphanumeric_ascii (ha b hb)] at halnum
  intro htype
  obtain ⟨e, t, he, hu, -⟩ := htype.head
  rw [hs] at he
  obtain ⟨rfl, -⟩ := List.cons.inj he
  exact upperChar_toLower_ne halnum hd hu

end AbiBindings
