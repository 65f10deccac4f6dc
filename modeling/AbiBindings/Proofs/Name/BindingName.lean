import AbiBindings.Proofs.EvmType.SourceName
import AbiBindings.Proofs.Name.NamespaceName
import AbiBindings.Proofs.Text.OneWord

/-!
# Names that a file may bind

A name that a file binds is an identifier and none of the words that the language reserves.  The
namespace name of an ASCII directory is an identifier always, and a reserved word if the directory
reads as this word: in one piece, apart from punctuation around it.  A type name is never a reserved
word, since those begin with a small letter; but it keeps all punctuation that breaks no word.

    namespaceName raw is an identifier                             (isIdentifier_namespaceName)
    camel case gives a word ↔ raw reads as it        (readsAs_of_camel, ReadsAs.camel_eq)
    namespaceName raw may be bound ↔ raw reads as no reserved word (isBindingName_namespaceName_iff)
    a type name may be bound ↔ raw has word characters and breaks  (isBindingName_typeName_iff)
-/

namespace AbiBindings

open Text

/-! ## Binding names -/

/-- The words that no file may bind: keywords, literals, and the words reserved in strict code. -/
def reservedWords : List String :=
  ["await", "break", "case", "catch", "class", "const", "continue", "debugger", "default",
    "delete", "do", "else", "enum", "export", "extends", "false", "finally", "for", "function",
    "if", "import", "in", "instanceof", "new", "null", "return", "super", "switch", "this",
    "throw", "true", "try", "typeof", "var", "void", "while", "with", "yield", "let", "static",
    "implements", "interface", "package", "private", "protected", "public"]

/-- An identifier that is not reserved. -/
def IsBindingName (name : String) : Prop :=
  isIdentifier name.toList = true ∧ name ∉ reservedWords

instance (name : String) : Decidable (IsBindingName name) :=
  inferInstanceAs (Decidable (isIdentifier name.toList = true ∧ name ∉ reservedWords))

/-- A text reads as a word of small letters: the word is there in one spelling, with nothing around
it that is a letter or a digit. -/
def ReadsAs (word raw : List Char) : Prop :=
  ∃ before core after, raw = before ++ core ++ after ∧
    (∀ c ∈ before ++ after, isAlphanumeric c = false) ∧ SpellsWord word core

/-- A directory that reads as a reserved word. -/
def ReadsReserved (raw : String) : Prop := ∃ word ∈ reservedWords, ReadsAs word.toList raw.toList

theorem reservedWords_small : ∀ word ∈ reservedWords,
    word.toList ≠ [] ∧ ∀ c ∈ word.toList, c.isLower = true := by
  have hall : (reservedWords.all fun word =>
      !word.toList.isEmpty && word.toList.all Char.isLower) = true := by decide +kernel
  simpa using hall

/-! ## Characters -/

theorem isWordChar_of_isAlphanum {c : Char} (h : c.isAlphanum = true) : isWordChar c = true := by
  simp [isWordChar, h]

theorem isWordChar_toUpper (c : Char) : isWordChar c.toUpper = isWordChar c := by
  cases h : c.isLower with
  | false => rw [toUpper_of_not_isLower h]
  | true =>
    have ha : c.isAlphanum = true := by simp [Char.isAlphanum, isAlpha_of_isLower h]
    rw [isWordChar_of_isAlphanum ha, isWordChar_of_isAlphanum (isAlphanum_toLower_toUpper ha).2]

theorem isIdentifier_cons_iff {c : Char} {r : List Char} :
    isIdentifier (c :: r) = true ↔ (∀ d ∈ c :: r, isWordChar d = true) ∧ c.isDigit = false := by
  simp only [isIdentifier, Bool.and_eq_true, List.all_eq_true, Bool.not_eq_true']

/-! ## Namespace names -/

theorem mem_guardStart {s : List Char} {d : Char} (h : d ∈ guardStart s) : d = '_' ∨ d ∈ s := by
  unfold guardStart at h
  split at h
  · exact Or.inl (List.mem_singleton.1 h)
  · split at h
    · exact List.mem_cons.1 h
    · exact Or.inr h

theorem isIdentifier_namespaceName {raw : String} (h : IsAscii raw.toList) :
    isIdentifier (namespaceName raw).toList = true := by
  rw [namespaceName_eq h, String.toList_ofList]
  have hword : ∀ d ∈ guardStart (camel (separateWords raw.toList)), isWordChar d = true := by
    intro d hd
    rcases mem_guardStart hd with rfl | hd
    · rfl
    · exact isWordChar_of_isAlphanum (isAlphanum_of_mem_camel h hd)
  cases hs : guardStart (camel (separateWords raw.toList)) with
  | nil => exact absurd hs (guardStart_ne_nil _)
  | cons c r =>
    rw [hs] at hword
    exact isIdentifier_cons_iff.2 ⟨hword, guardStart_head_not_digit _ c r hs⟩

/-- No underscore is put in front of a small letter. -/
theorem guardStart_eq_iff {s word : List Char} (hne : word ≠ [])
    (hw : ∀ c ∈ word, c.isLower = true) : guardStart s = word ↔ s = word := by
  obtain ⟨c, r, rfl⟩ := List.exists_cons_of_ne_nil hne
  have hc : c.isLower = true := hw c List.mem_cons_self
  have hmark : c ≠ '_' := by
    rintro rfl
    exact absurd hc (by decide)
  constructor
  · intro h
    unfold guardStart at h
    split at h
    · exact absurd (List.cons.inj h).1.symm hmark
    · split at h
      · exact absurd (List.cons.inj h).1.symm hmark
      · exact h
  · rintro rfl
    rw [guardStart, not_isDigit_of_isAlpha (isAlpha_of_isLower hc)]
    rfl

section
variable {raw word : List Char}

/-- Where camel case gives a word of small letters, the text reads as this word. -/
theorem readsAs_of_camel (h : IsAscii raw) (hne : word ≠ []) (hw : ∀ c ∈ word, c.isLower = true)
    (hcamel : camel (separateWords raw) = word) : ReadsAs word raw := by
  obtain ⟨front, core, back, hwords, hf, hb, hspells⟩ :=
    exists_of_camel_eq_small (isAscii_separateWords h) hne hw hcamel
  obtain ⟨start, finish, htrim, hs, he⟩ := exists_trim_append (raw.map spaced)
  rw [← separateWords_eq, hwords] at htrim
  -- The spaces that trimming takes away stand around the separators.
  have hsplit : raw.map spaced = (start ++ front) ++ core ++ (back ++ finish) := by
    rw [htrim]
    simp only [List.append_assoc]
  obtain ⟨left, after, rfl, hleft, hafter⟩ := List.map_eq_append_iff.1 hsplit
  obtain ⟨before, mid, rfl, hbefore, hmid⟩ := List.map_eq_append_iff.1 hleft
  have hnone : ∀ c ∈ before ++ after, isAlphanumeric c = false := by
    intro c hc
    have hspaced : spaced c ∈ (start ++ front) ++ (back ++ finish) := by
      rw [← hbefore, ← hafter, ← List.map_append]
      exact List.mem_map_of_mem hc
    refine isAlphanumeric_of_spaced (h c ?_) ?_
    · rcases List.mem_append.1 hc with hc | hc <;> simp [hc]
    · simp only [List.mem_append] at hspaced
      rcases hspaced with (hc | hc) | (hc | hc)
      · exact Or.inl (hs _ hc)
      · exact Or.inr (hf _ hc)
      · exact Or.inr (hb _ hc)
      · exact Or.inl (he _ hc)
  -- The letters of the word are no spaces, so they stand there themselves.
  have hsame : mid.map spaced = mid := by
    refine map_eq_self fun c hc => ?_
    cases ha : isAlphanumeric c with
    | true => exact spaced_eq_self ha
    | false =>
      have hletter : (spaced c).isAlpha = true :=
        hspells.isAlpha hw _ (hmid ▸ List.mem_map_of_mem hc)
      rw [spaced_eq_space ha] at hletter
      cases hletter
  refine ⟨before, mid, after, rfl, hnone, ?_⟩
  rwa [← hsame, hmid]

theorem ReadsAs.camel_eq (h : ReadsAs word raw) (hne : word ≠ [])
    (hw : ∀ c ∈ word, c.isLower = true) : camel (separateWords raw) = word := by
  obtain ⟨before, core, after, rfl, hnone, hspells⟩ := h
  have halnum : ∀ c ∈ core, c.isAlphanum = true := by
    intro c hc
    simp [Char.isAlphanum, hspells.isAlpha hw c hc]
  have hsame : core.map spaced = core :=
    map_eq_self fun c hc => spaced_eq_self (isAlphanumeric_of_isAlphanum (halnum c hc))
  have hspaces {l : List Char} (hl : ∀ c ∈ l, isAlphanumeric c = false) :
      ∀ d ∈ l.map spaced, isBlank d = true := by
    intro d hd
    obtain ⟨c, hc, rfl⟩ := List.mem_map.1 hd
    rw [spaced_eq_space (hl c hc)]
    rfl
  obtain ⟨hbefore, hafter⟩ := List.forall_mem_append.1 hnone
  have hwords : separateWords (before ++ core ++ after) = core := by
    rw [separateWords_eq, List.map_append, List.map_append, hsame,
      trim_append_blanks (hspaces hbefore) (hspaces hafter)]
    exact (isTrimmed_of_noBlank fun c hc => isBlank_of_isAlphanum (halnum c hc)).trim_eq
  rw [hwords, camel_of_spellsWord hne hw hspells]

end

/-- A namespace name may be bound unless the directory reads as a reserved word. -/
theorem isBindingName_namespaceName_iff {raw : String} (h : IsAscii raw.toList) :
    IsBindingName (namespaceName raw) ↔ ¬ ReadsReserved raw := by
  have hword {word : String} (hmem : word ∈ reservedWords) :
      namespaceName raw = word ↔ ReadsAs word.toList raw.toList := by
    obtain ⟨hne, hsmall⟩ := reservedWords_small word hmem
    rw [namespaceName_eq h, ← String.toList_inj, String.toList_ofList,
      guardStart_eq_iff hne hsmall]
    exact ⟨readsAs_of_camel h hne hsmall, fun hreads => hreads.camel_eq hne hsmall⟩
  rw [IsBindingName, isIdentifier_namespaceName h, eq_self, true_and, not_iff_not]
  constructor
  · intro hmem
    exact ⟨_, hmem, (hword hmem).1 rfl⟩
  · rintro ⟨word, hmem, hreads⟩
    rwa [(hword hmem).2 hreads]
/-! ## Type names -/

theorem IsTypeName.not_mem_reservedWords {name : String} (h : IsTypeName name.toList) :
    name ∉ reservedWords := by
  intro hmem
  obtain ⟨c, r, hcons, hupper, -⟩ := h.head
  have hlower : c.isLower = true :=
    (reservedWords_small name hmem).2 c (hcons ▸ List.mem_cons_self)
  rw [upperChar_ascii (toNat_lt_of_isAlpha (isAlpha_of_isLower hlower)), List.cons.injEq] at hupper
  rw [← hupper.1, isLower_toUpper] at hlower
  cases hlower

theorem IsTypeName.isBindingName_iff {name : String} (h : IsTypeName name.toList) :
    IsBindingName name ↔ ∀ c ∈ name.toList, isWordChar c = true := by
  obtain ⟨c, r, hcons, -, hdigit⟩ := h.head
  rw [IsBindingName, and_iff_left h.not_mem_reservedWords, hcons, isIdentifier_cons_iff,
    and_iff_left hdigit]

/-- The type name of an ASCII text may be bound if the text has word characters and breaks only. -/
theorem isBindingName_typeName_iff {raw name : String} (ha : IsAscii raw.toList)
    (h : typeName raw = .ok name) :
    IsBindingName name ↔ ∀ c ∈ raw.toList, IsWordBreak c ∨ isWordChar c = true := by
  have hform : IsTypeName name.toList := isTypeName_of_typeName h
  obtain ⟨l, hl, rfl⟩ := Option.map_eq_some_iff.1 (typeName_eq_ok_iff.1 h)
  obtain ⟨c, r, hjoin, rfl⟩ := typeNameChars?_eq_some_iff.1 hl
  have hascii : ∀ d ∈ joinWords raw.toList, d.toNat < 0x80 := by
    refine (forall_mem_joinWords ?_ ?_ _).2 fun d hd => Or.inr (ha d hd)
    · intro d hd
      exact toNat_lt_of_isAlphanum (by simp [Char.isAlphanum, hd])
    · intro d hd
      have halnum : d.isAlphanum = true :=
        Bool.or_eq_true_iff.2 (Or.inl (isAlpha_of_isLower hd))
      simp only [toNat_lt_of_isAlphanum halnum,
        toNat_lt_of_isAlphanum (isAlphanum_toLower_toUpper halnum).2]
  have hhead : (∀ d ∈ c.toUpper :: r, isWordChar d = true) ↔
      ∀ d ∈ joinWords raw.toList, isWordChar d = true := by
    rw [hjoin, List.forall_mem_cons, List.forall_mem_cons, isWordChar_toUpper]
  rw [hform.isBindingName_iff, String.toList_ofList,
    upperChar_ascii (hascii c (hjoin ▸ List.mem_cons_self)), List.singleton_append, hhead]
  refine forall_mem_joinWords ?_ ?_ _
  · intro d hd
    exact isWordChar_of_isAlphanum (by simp [Char.isAlphanum, hd])
  · intro d hd
    rw [isWordChar_toUpper]

end AbiBindings
