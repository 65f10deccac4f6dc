import AbiBindings.EvmType.Parser
import AbiBindings.Proofs.Checked
import Mathlib.Data.List.Basic
import Mathlib.Data.List.TakeWhile

/-!
# What types are spelled

`Spells` is the grammar of type spellings, with the type that each of them stands for: a leaf, or
`tuple` beside the parameters that are its components, and then array suffixes, the last of which
is the outermost array.  The parser accepts these spellings, with blanks around them, and no others.

    parse raw components internalType = .ok t ↔ Spells (trim raw) … t      (parse_eq_ok_iff)
    components do not matter unless the base is `tuple`        (parse_eq_of_not_suffixed)
-/

namespace AbiBindings

open Text

/-! ## Grammar -/

/-- A number of bits that an integer type can have. -/
def IsIntegerWidth (n : Nat) : Prop := 8 ≤ n ∧ n ≤ 256 ∧ 8 ∣ n

/-- The spellings of leaves. -/
inductive SpellsLeaf : List Char → Leaf → Prop where
  | address : SpellsLeaf "address".toList .address
  | bool : SpellsLeaf "bool".toList .bool
  | string : SpellsLeaf "string".toList .string
  | bytes : SpellsLeaf "bytes".toList .bytes
  | byte : SpellsLeaf "byte".toList (.fixedBytes 1)
  | function : SpellsLeaf "function".toList (.fixedBytes 24)
  | uint : SpellsLeaf "uint".toList (.uint 256)
  | int : SpellsLeaf "int".toList (.int 256)
  | uintOf {digits : List Char} {n : Nat} (h : IsNumeral digits n) (hw : IsIntegerWidth n) :
    SpellsLeaf ("uint".toList ++ digits) (.uint n)
  | intOf {digits : List Char} {n : Nat} (h : IsNumeral digits n) (hw : IsIntegerWidth n) :
    SpellsLeaf ("int".toList ++ digits) (.int n)
  | bytesOf {digits : List Char} {n : Nat} (h : IsNumeral digits n) (h₁ : 1 ≤ n) (h₂ : n ≤ 32) :
    SpellsLeaf ("bytes".toList ++ digits) (.fixedBytes n)

/-- What stands between the brackets of an array suffix. -/
inductive SpellsSize : List Char → Option Nat → Prop where
  | none : SpellsSize [] none
  | some {digits : List Char} {n : Nat} (h : IsNumeral digits n) (h₁ : 1 ≤ n)
    (h₂ : n ≤ 4294967295) : SpellsSize digits (some n)

/-- The suffix of an array. -/
def sizeBrackets (digits : List Char) : List Char := '[' :: (digits ++ [']'])

/-- A base and any number of suffixes, with blanks but no line breaks in front of each. -/
inductive Suffixed (base : List Char) : List Char → Prop where
  | base : Suffixed base base
  | array {text blanks digits : List Char} (h : Suffixed base text)
    (hb : ∀ c ∈ blanks, isBlank c = true ∧ c ≠ '\n')
    (hd : ∀ c ∈ digits, isDecimalDigit c = true) :
    Suffixed base (text ++ blanks ++ sizeBrackets digits)

mutual

/-- The spellings of types, given the components and the source type that stand beside them.
Blanks, but no line breaks, may stand in front of an array suffix. -/
inductive Spells : List Char → Option (List AbiParameter) → Option String → EvmType → Prop where
  | leaf {text : List Char} {components : Option (List AbiParameter)}
    {internalType : Option String} {kind : Leaf} (h : SpellsLeaf text kind) :
    Spells text components internalType (.leaf kind (String.ofList text))
  | tuple {ps : List AbiParameter} {cs : List Component} {internalType : Option String}
    (h : SpellComponents ps cs) :
    Spells "tuple".toList (some ps) internalType
      (.tuple cs (internalType.bind StructName.ofInternalType?) "tuple")
  | array {text blanks digits : List Char} {components : Option (List AbiParameter)}
    {internalType : Option String} {t : EvmType} {size : Option Nat}
    (ht : Spells text components internalType t)
    (hb : ∀ c ∈ blanks, isBlank c = true ∧ c ≠ '\n') (hs : SpellsSize digits size) :
    Spells (text ++ blanks ++ sizeBrackets digits) components internalType
      (.array t size (String.ofList (text ++ blanks ++ sizeBrackets digits)))

/-- Parameters that spell the components of a tuple, one by one; blanks around their types do not
matter. -/
inductive SpellComponents : List AbiParameter → List Component → Prop where
  | nil : SpellComponents [] []
  | cons {p : AbiParameter} {ps : List AbiParameter} {t : EvmType} {cs : List Component}
    (h : Spells (trim p.type.toList) p.components p.internalType t)
    (hr : SpellComponents ps cs) : SpellComponents (p :: ps) (⟨p.name, t⟩ :: cs)

end

/-! ## Digits -/

theorem isDecimalDigit_of_isDigit {c : Char} (h : c.isDigit = true) : isDecimalDigit c = true := by
  rw [Char.isDigit_iff_toNat] at h
  exact (Ranges.contains_iff decimalDigits c).2 ⟨(0x30, 0x39), List.mem_cons_self, h.1, h.2⟩

theorem isDecimalDigit_of_isNumeral {digits : List Char} {n : Nat} (h : IsNumeral digits n) :
    ∀ c ∈ digits, isDecimalDigit c = true :=
  fun c hc => isDecimalDigit_of_isDigit (h.digits c hc)

theorem isDecimalDigit_of_spellsSize {digits : List Char} {size : Option Nat}
    (h : SpellsSize digits size) : ∀ c ∈ digits, isDecimalDigit c = true := by
  cases h with
  | none => exact fun c hc => absurd hc List.not_mem_nil
  | some h => exact isDecimalDigit_of_isNumeral h

theorem boundedDecimal?_eq_some_iff {limit n : Nat} {digits : List Char} :
    boundedDecimal? limit digits = some n ↔ IsNumeral digits n ∧ n ≤ limit := by
  rw [boundedDecimal?, Option.filter_eq_some_iff, decimal?_eq_some_iff, decide_eq_true_iff]

/-- A text read from its end is what is left of it before its last digits, and these digits. -/
theorem reverse_eq_dropDigits (r : List Char) :
    r.reverse = (r.dropWhile isDecimalDigit).reverse ++ (r.takeWhile isDecimalDigit).reverse := by
  rw [← List.reverse_append, List.takeWhile_append_dropWhile]

theorem isDecimalDigit_of_mem_takeDigits {r : List Char} :
    ∀ c ∈ (r.takeWhile isDecimalDigit).reverse, isDecimalDigit c = true :=
  fun _ hc => List.mem_takeWhile_imp (List.mem_reverse.1 hc)

/-- Digits at the end of a text, after a character that is none. -/
theorem dropDigits_append {s digits : List Char} (hd : ∀ c ∈ digits, isDecimalDigit c = true)
    (hs : ∀ c ∈ s.getLast?, isDecimalDigit c = false) :
    (s ++ digits).reverse.dropWhile isDecimalDigit = s.reverse ∧
      (s ++ digits).reverse.takeWhile isDecimalDigit = digits.reverse := by
  have hd' : ∀ c ∈ digits.reverse, isDecimalDigit c = true :=
    fun c hc => hd c (List.mem_reverse.1 hc)
  rw [List.reverse_append, List.dropWhile_append_of_pos hd', List.takeWhile_append_of_pos hd']
  rw [← List.head?_reverse] at hs
  cases hr : s.reverse with
  | nil => simp
  | cons c r =>
    have hc : isDecimalDigit c = false := hs c (by rw [hr]; rfl)
    simp [hc]

/-! ## Leaves -/

/-- The word in front of a width. -/
def SizedBase.word : SizedBase → List Char
  | .uint => "uint".toList
  | .int => "int".toList
  | .bytes => "bytes".toList

theorem SizedBase.getLast?_word (b : SizedBase) :
    ∀ c ∈ b.word.getLast?, isDecimalDigit c = false := by
  intro c hc
  cases b with
  | uint | int =>
    rw [← Option.some.inj (show some 't' = some c from hc)]
    decide +kernel
  | bytes =>
    rw [← Option.some.inj (show some 's' = some c from hc)]
    decide +kernel

theorem sizedBase?_eq_some_iff {s digits : List Char} {b : SizedBase} :
    sizedBase? s = some (b, digits) ↔
      s = b.word ++ digits ∧ digits ≠ [] ∧ ∀ c ∈ digits, isDecimalDigit c = true := by
  constructor
  · intro h
    have hs := reverse_eq_dropDigits s.reverse
    rw [List.reverse_reverse] at hs
    unfold sizedBase? at h
    dsimp only at h
    split at h
    · cases h
    · rename_i hne
      rw [List.isEmpty_iff] at hne
      split_ifs at h with hword hword hword
      all_goals
        cases h
        rw [hword] at hs
        exact ⟨hs, hne, isDecimalDigit_of_mem_takeDigits⟩
  · rintro ⟨rfl, hne, hd⟩
    obtain ⟨hdrop, htake⟩ := dropDigits_append hd b.getLast?_word
    unfold sizedBase?
    dsimp only
    rw [hdrop, htake, List.reverse_reverse, List.reverse_reverse]
    rw [if_neg (by rwa [List.isEmpty_iff])]
    cases b with
    | uint => rfl
    | int => rfl
    | bytes => rfl

/-- What a width gives. -/
theorem SizedBase.leaf_eq_ok_iff {spelling : String} {n : Nat} {b : SizedBase} {k : Leaf} :
    b.leaf spelling n = .ok k ↔
      (b = .uint ∧ IsIntegerWidth n ∧ k = .uint n) ∨ (b = .int ∧ IsIntegerWidth n ∧ k = .int n) ∨
        (b = .bytes ∧ (1 ≤ n ∧ n ≤ 32) ∧ k = .fixedBytes n) := by
  have hwidth : (n ≠ 0 ∧ n ≤ 256 ∧ n % 8 = 0) ↔ IsIntegerWidth n := by
    unfold IsIntegerWidth
    omega
  cases b with
  | uint | int =>
    rw [SizedBase.leaf, ← hwidth]
    by_cases h : n ≠ 0 ∧ n ≤ 256 ∧ n % 8 = 0
    · simp [h, eq_comm]
    · simp [h]
  | bytes =>
    rw [SizedBase.leaf]
    by_cases h : 1 ≤ n ∧ n ≤ 32
    · simp [h, eq_comm]
    · simp [h]

/-- A spelling with a width is none of the others. -/
theorem Leaf.ofSpelling_of_sizedBase {spelling : String} {b : SizedBase} {digits : List Char}
    {n : Nat} (h : sizedBase? spelling.toList = some (b, digits))
    (hn : boundedDecimal? maxWidth digits = some n) :
    ofSpelling spelling = b.leaf spelling n := by
  have hplain (word : String) (hw : (sizedBase? word.toList).isNone = true) : spelling ≠ word := by
    rintro rfl
    rw [h] at hw
    cases hw
  unfold ofSpelling
  split
  case h_9 => simp only [h, hn]
  all_goals exact absurd rfl (hplain _ (by decide +kernel))

/-- The leaf of a base, of digits and of the width that they spell. -/
theorem SizedBase.spellsLeaf {b : SizedBase} {digits : List Char} {n : Nat} {k : Leaf}
    {spelling : String} (hn : IsNumeral digits n) (h : b.leaf spelling n = .ok k) :
    SpellsLeaf (b.word ++ digits) k := by
  rcases SizedBase.leaf_eq_ok_iff.1 h with ⟨rfl, hw, rfl⟩ | ⟨rfl, hw, rfl⟩ | ⟨rfl, ⟨h₁, h₂⟩, rfl⟩
  · exact .uintOf hn hw
  · exact .intOf hn hw
  · exact .bytesOf hn h₁ h₂

theorem Leaf.ofSpelling_eq_ok_iff {text : List Char} {k : Leaf} :
    ofSpelling (String.ofList text) = .ok k ↔ SpellsLeaf text k := by
  have hsized {b : SizedBase} {digits : List Char} {n : Nat} {k : Leaf} (hn : IsNumeral digits n)
      (hmax : n ≤ 256) (hk : b.leaf (String.ofList (b.word ++ digits)) n = .ok k) :
      ofSpelling (String.ofList (b.word ++ digits)) = .ok k := by
    have hb : sizedBase? (String.ofList (b.word ++ digits)).toList = some (b, digits) := by
      rw [String.toList_ofList]
      exact sizedBase?_eq_some_iff.2 ⟨rfl, hn.notEmpty, isDecimalDigit_of_isNumeral hn⟩
    have hw : boundedDecimal? maxWidth digits = some n :=
      boundedDecimal?_eq_some_iff.2 ⟨hn, Nat.le_trans hmax (by decide)⟩
    rw [ofSpelling_of_sizedBase hb hw]
    exact hk
  constructor
  · intro h
    have htext : text = (String.ofList text).toList := String.toList_ofList.symm
    unfold ofSpelling at h
    split at h
    case h_9 =>
      split at h
      · cases h
      · rename_i b digits hb
        split at h
        · cases h
        · rename_i n hn
          rw [String.toList_ofList] at hb
          rw [(sizedBase?_eq_some_iff.1 hb).1]
          exact SizedBase.spellsLeaf (boundedDecimal?_eq_some_iff.1 hn).1 h
    all_goals
      rename_i hword
      cases h
      rw [htext, hword]
      constructor
  · intro h
    cases h with
    | address | bool | string | bytes | byte | function | uint | int => rfl
    | uintOf hn hw =>
      exact hsized (b := .uint) hn hw.2.1 (SizedBase.leaf_eq_ok_iff.2 (Or.inl ⟨rfl, hw, rfl⟩))
    | intOf hn hw =>
      exact hsized (b := .int) hn hw.2.1
        (SizedBase.leaf_eq_ok_iff.2 (Or.inr (Or.inl ⟨rfl, hw, rfl⟩)))
    | bytesOf hn h₁ h₂ =>
      exact hsized (b := .bytes) hn (Nat.le_trans h₂ (by decide))
        (SizedBase.leaf_eq_ok_iff.2 (Or.inr (Or.inr ⟨rfl, ⟨h₁, h₂⟩, rfl⟩)))

theorem SpellsLeaf.isAlphanum {text : List Char} {k : Leaf} (h : SpellsLeaf text k) :
    ∀ c ∈ text, c.isAlphanum = true := by
  have hsized {word : String} {digits : List Char} {n : Nat} (hn : IsNumeral digits n)
      (hw : word.toList.all Char.isAlphanum = true) :
      ∀ c ∈ word.toList ++ digits, c.isAlphanum = true := by
    intro c hc
    rcases List.mem_append.1 hc with hc | hc
    · exact List.all_eq_true.1 hw c hc
    · rw [Char.isAlphanum, hn.digits c hc, Bool.or_true]
  cases h with
  | address | bool | string | bytes | byte | function | uint | int =>
    exact List.all_eq_true.1 (by decide)
  | uintOf hn _ | intOf hn _ | bytesOf hn _ _ => exact hsized hn (by decide)

theorem SpellsLeaf.ne_nil {text : List Char} {k : Leaf} (h : SpellsLeaf text k) : text ≠ [] := by
  cases h with
  | address | bool | string | bytes | byte | function | uint | int => decide
  | uintOf hn _ | intOf hn _ | bytesOf hn _ _ =>
    exact List.append_ne_nil_of_right_ne_nil _ hn.notEmpty

/-! ## Arrays -/

theorem splitArray?_eq_some_iff {s element digits : List Char} :
    splitArray? s = some (element, digits) ↔
      s = element ++ sizeBrackets digits ∧ element ≠ [] ∧ '\n' ∉ element ∧
        ∀ c ∈ digits, isDecimalDigit c = true := by
  constructor
  · intro h
    unfold splitArray? at h
    split at h
    · rename_i r hr
      split at h
      · rename_i e he
        split at h
        · cases h
        · rename_i hne
          cases h
          have hs : s = r.reverse ++ [']'] := by
            rw [← List.reverse_reverse s, hr, List.reverse_cons]
          rw [reverse_eq_dropDigits, he] at hs
          simp only [Bool.or_eq_true, List.isEmpty_iff, List.contains_iff_mem, not_or] at hne
          refine ⟨by rw [hs]; simp [sizeBrackets], by simpa using hne.1, by simpa using hne.2,
            isDecimalDigit_of_mem_takeDigits⟩
      · cases h
    · cases h
  · rintro ⟨rfl, hne, hline, hd⟩
    have hr : (element ++ sizeBrackets digits).reverse =
        ']' :: ((element ++ ['[']) ++ digits).reverse := by
      simp [sizeBrackets]
    have hlast : ∀ c ∈ (element ++ ['[']).getLast?, isDecimalDigit c = false := by
      intro c hc
      rw [List.getLast?_concat] at hc
      cases hc
      decide +kernel
    obtain ⟨hdrop, htake⟩ := dropDigits_append hd hlast
    unfold splitArray?
    simp only [hr, hdrop, htake]
    simp [hne, hline]

theorem ArrayText.size_eq_ok_iff {a : ArrayText} {size : Option Nat} :
    a.size = .ok size ↔ SpellsSize a.digits size := by
  unfold ArrayText.size
  constructor
  · intro h
    split at h
    · rename_i he
      cases h
      rw [List.isEmpty_iff.1 he]
      exact .none
    · split at h
      · cases h
      · cases h
      · rename_i n hne hn
        cases h
        obtain ⟨hnum, hmax⟩ := boundedDecimal?_eq_some_iff.1 hn
        exact .some hnum (Nat.pos_of_ne_zero hne) hmax
  · intro h
    generalize a.digits = digits at h
    cases h with
    | none => rfl
    | some h h₁ h₂ =>
      rename_i n
      have hn : boundedDecimal? maxArraySize digits = some n :=
        boundedDecimal?_eq_some_iff.2 ⟨h, h₂⟩
      rw [if_neg (by simpa using h.notEmpty), hn]
      cases n with
      | zero => cases h₁
      | succ n => rfl

/-! ### One suffix at a time -/

theorem TypeText.read_of_array {s element digits : List Char}
    (h : splitArray? (trim s) = some (element, digits)) :
    TypeText.read s = ⟨⟨trim s, digits⟩ :: (TypeText.read element).arrays,
      (TypeText.read element).base⟩ := by
  rw [TypeText.read]
  split
  · rename_i hs
    cases h.symm.trans hs
    rfl
  · rename_i hs
    cases h.symm.trans hs

theorem TypeText.read_of_base {s : List Char} (h : splitArray? (trim s) = none) :
    TypeText.read s = ⟨[], trim s⟩ := by
  rw [TypeText.read]
  split
  · rename_i hs
    cases h.symm.trans hs
  · rfl

/-! ## Spellings as texts -/

/-- A text in one line, with something in it and without blanks at its ends. -/
structure IsWhole (text : List Char) : Prop where
  notEmpty : text ≠ []
  trimmed : IsTrimmed text
  noLine : '\n' ∉ text

theorem isWhole_of_noBlank {text : List Char} (hne : text ≠ [])
    (h : ∀ c ∈ text, isBlank c = false) : IsWhole text := by
  refine ⟨hne, isTrimmed_of_noBlank h, fun hmem => ?_⟩
  exact absurd (h _ hmem) (by decide)

theorem SpellsLeaf.isWhole {text : List Char} {k : Leaf} (h : SpellsLeaf text k) : IsWhole text :=
  isWhole_of_noBlank h.ne_nil fun c hc => isBlank_of_isAlphanum (h.isAlphanum c hc)

theorem isWhole_array {text blanks digits : List Char} (h : IsWhole text)
    (hb : ∀ c ∈ blanks, isBlank c = true ∧ c ≠ '\n')
    (hd : ∀ c ∈ digits, isDecimalDigit c = true) :
    IsWhole (text ++ blanks ++ sizeBrackets digits) := by
  have hne : text ++ blanks ≠ [] := List.append_ne_nil_of_left_ne_nil h.notEmpty _
  refine ⟨List.append_ne_nil_of_left_ne_nil hne _, ⟨?_, ?_⟩, ?_⟩
  · rw [trimStart_eq_self_iff, List.append_assoc, List.head?_append_of_ne_nil _ h.notEmpty]
    exact trimStart_eq_self_iff.1 h.trimmed.start
  · rw [trimEnd_eq_self_iff, sizeBrackets, ← List.cons_append, ← List.append_assoc,
      List.getLast?_concat]
    intro c hc
    cases hc
    decide
  · have hline : '\n' ∉ digits := fun hmem => absurd (hd _ hmem) (by decide +kernel)
    simp only [sizeBrackets, List.mem_append, List.mem_cons, List.not_mem_nil, not_or]
    exact ⟨⟨h.noLine, fun hmem => (hb _ hmem).2 rfl⟩, by decide, hline, by decide, not_false⟩

theorem Spells.isWhole {text : List Char} {components : Option (List AbiParameter)}
    {internalType : Option String} {t : EvmType} :
    Spells text components internalType t → IsWhole text
  | .leaf h => h.isWhole
  | .tuple _ => isWhole_of_noBlank (by decide) fun c hc =>
    isBlank_of_isAlphanum (List.all_eq_true.1 (by decide) c hc)
  | .array ht hb hs => isWhole_array ht.isWhole hb (isDecimalDigit_of_spellsSize hs)

/-- The element of an array's spelling, without the blanks behind it. -/
theorem trim_append_of_isWhole {text blanks : List Char} (h : IsWhole text)
    (hb : ∀ c ∈ blanks, isBlank c = true) : trim (text ++ blanks) = text := by
  have hnone : ∀ c ∈ ([] : List Char), isBlank c = true := fun c hc => absurd hc List.not_mem_nil
  have htrim : trim ([] ++ text ++ blanks) = trim text := trim_append_blanks hnone hb text
  rw [List.nil_append] at htrim
  rw [htrim, h.trimmed.trim_eq]

/-- A text that is split is an element, blanks and a suffix. -/
theorem exists_of_splitArray? {s element digits : List Char}
    (h : splitArray? (trim s) = some (element, digits)) :
    ∃ blanks, trim s = trim element ++ blanks ++ sizeBrackets digits ∧
      (∀ c ∈ blanks, isBlank c = true ∧ c ≠ '\n') ∧ ∀ c ∈ digits, isDecimalDigit c = true := by
  obtain ⟨htext, hne, hline, hd⟩ := splitArray?_eq_some_iff.1 h
  have hstart : trimStart element = element := by
    have hs := trimStart_eq_self_iff.1 (isTrimmed_trim s).start
    rw [htext, List.head?_append_of_ne_nil _ hne] at hs
    exact trimStart_eq_self_iff.2 hs
  obtain ⟨b, hb, hblank⟩ := exists_trimEnd_append element
  have htrim : trim element ++ b = element := by
    rw [trim, hstart]
    exact hb.symm
  refine ⟨b, by rw [htrim, htext], fun c hc => ⟨hblank c hc, ?_⟩, hd⟩
  rintro rfl
  exact hline (by rw [hb]; exact List.mem_append_right _ hc)

theorem suffixed_read (s : List Char) : Suffixed (TypeText.read s).base (trim s) := by
  induction s using TypeText.read.induct with
  | case1 s element digits hs ih =>
    obtain ⟨b, htext, hb, hd⟩ := exists_of_splitArray? hs
    rw [htext, TypeText.read_of_array hs]
    exact .array ih hb hd
  | case2 s hs =>
    rw [TypeText.read_of_base hs]
    exact .base

/-! ## Parsing -/

namespace EvmType

variable {raw : String} {internalType : Option String} {element digits : List Char}

theorem ofSpelling_of_array {cs : Option (Except TypeFault (List Component))}
    (h : splitArray? (trim raw.toList) = some (element, digits)) :
    ofSpelling raw internalType cs = do
      let size ← ArrayText.size ⟨trim raw.toList, digits⟩
      let t ← ofSpelling (String.ofList element) internalType cs
      return .array t size (String.ofList (trim raw.toList)) := by
  unfold ofSpelling
  simp only [TypeText.read_of_array h, String.toList_ofList]
  rfl

theorem ofSpelling_of_base {cs : Option (Except TypeFault (List Component))}
    (h : splitArray? (trim raw.toList) = none) :
    ofSpelling raw internalType cs = ofBase (String.ofList (trim raw.toList)) internalType cs := by
  unfold ofSpelling
  simp only [TypeText.read_of_base h]
  rfl

theorem ofBase_eq_ok {text : List Char} {components : Option (List AbiParameter)} {t : EvmType}
    (hcs : ∀ cs, componentsOf components = some (.ok cs) →
      ∃ ps, components = some ps ∧ SpellComponents ps cs)
    (h : ofBase (String.ofList text) internalType (componentsOf components) = .ok t) :
    Spells text components internalType t := by
  unfold ofBase at h
  split at h
  · rename_i htuple
    have htext : text = "tuple".toList := by
      rw [← htuple, String.toList_ofList]
    split at h
    · cases h
    · rename_i r hr
      obtain ⟨cs, rfl, rfl⟩ := map_eq_ok_iff.1 h
      obtain ⟨ps, rfl, hps⟩ := hcs cs hr
      rw [htuple, htext]
      exact .tuple hps
  · obtain ⟨k, hk, rfl⟩ := map_eq_ok_iff.1 h
    exact .leaf (Leaf.ofSpelling_eq_ok_iff.1 hk)

/-- What the parser accepts is a spelling, given that this is so of the components. -/
theorem spells_of_ofSpelling {s : List Char} {components : Option (List AbiParameter)} {t : EvmType}
    (hcs : ∀ cs, componentsOf components = some (.ok cs) →
      ∃ ps, components = some ps ∧ SpellComponents ps cs)
    (h : ofSpelling (String.ofList s) internalType (componentsOf components) = .ok t) :
    Spells (trim s) components internalType t := by
  -- The induction takes one array off the spelling at a time.
  induction s using TypeText.read.induct generalizing t with
  | case1 s element digits hs ih =>
    rw [ofSpelling_of_array (by rwa [String.toList_ofList]), String.toList_ofList] at h
    obtain ⟨size, hsize, h⟩ := bind_eq_ok_iff.1 h
    obtain ⟨u, hu, h⟩ := bind_eq_ok_iff.1 h
    cases h
    obtain ⟨b, htext, hb, -⟩ := exists_of_splitArray? hs
    rw [htext]
    exact .array (ih hu) hb (ArrayText.size_eq_ok_iff.1 hsize)
  | case2 s hs =>
    rw [ofSpelling_of_base (by rwa [String.toList_ofList]), String.toList_ofList] at h
    exact ofBase_eq_ok hcs h

mutual

theorem spells_of_ofParameter : (p : AbiParameter) → {t : EvmType} → ofParameter p = .ok t →
    Spells (trim p.type.toList) p.components p.internalType t
  | ⟨_, raw, internalType, components, _⟩, t, h => by
    have hraw : ofSpelling (String.ofList raw.toList) internalType (componentsOf components) =
        .ok t := by
      rwa [String.ofList_toList]
    exact spells_of_ofSpelling (fun cs => spellComponents_of_componentsOf components) hraw

theorem spellComponents_of_componentsOf : (components : Option (List AbiParameter)) →
    {cs : List Component} → componentsOf components = some (.ok cs) →
    ∃ ps, components = some ps ∧ SpellComponents ps cs
  | none, cs, h => by cases h
  | some ps, cs, h => ⟨ps, rfl, spellComponents_of_ofParameters ps (Option.some.inj h)⟩

theorem spellComponents_of_ofParameters : (ps : List AbiParameter) → {cs : List Component} →
    ofParameters ps = .ok cs → SpellComponents ps cs
  | [], cs, h => by
    cases h
    exact .nil
  | p :: r, cs, h => by
    obtain ⟨t, ht, h⟩ := bind_eq_ok_iff.1 h
    obtain ⟨ts, hts, h⟩ := bind_eq_ok_iff.1 h
    cases h
    exact .cons (spells_of_ofParameter p ht) (spellComponents_of_ofParameters r hts)

end

theorem splitArray?_of_spellsLeaf {text : List Char} {k : Leaf} (h : SpellsLeaf text k) :
    splitArray? text = none := by
  rw [Option.eq_none_iff_forall_not_mem]
  rintro ⟨element, digits⟩ hs
  obtain ⟨rfl, -⟩ := splitArray?_eq_some_iff.1 hs
  exact absurd (h.isAlphanum ']' (by simp [sizeBrackets])) (by decide)

/-- Components only matter beside a tuple. -/
theorem ofBase_of_ne {spelling : String} (h : spelling ≠ "tuple")
    (cs : Option (Except TypeFault (List Component))) :
    ofBase spelling internalType cs =
      (Leaf.ofSpelling spelling).map fun kind => .leaf kind spelling := if_neg h

theorem ofBase_of_spellsLeaf {text : List Char} {k : Leaf} (h : SpellsLeaf text k)
    (cs : Option (Except TypeFault (List Component))) :
    ofBase (String.ofList text) internalType cs = .ok (.leaf k (String.ofList text)) := by
  have hk : Leaf.ofSpelling (String.ofList text) = .ok k := Leaf.ofSpelling_eq_ok_iff.2 h
  have hne : String.ofList text ≠ "tuple" := by
    intro he
    have hfail : (Leaf.ofSpelling "tuple").isOk = false := by decide +kernel
    rw [← he, hk] at hfail
    cases hfail
  rw [ofBase_of_ne hne, hk]
  rfl

mutual

/-- The parser accepts what is a spelling. -/
theorem ofSpelling_of_spells {text : List Char} {components : Option (List AbiParameter)}
    {internalType : Option String} {t : EvmType} :
    Spells text components internalType t → (raw : String) → trim raw.toList = text →
    ofSpelling raw internalType (componentsOf components) = .ok t
  | .leaf h, raw, hraw => by
    rw [ofSpelling_of_base (by rw [hraw]; exact splitArray?_of_spellsLeaf h), hraw]
    exact ofBase_of_spellsLeaf h _
  | .tuple h, raw, hraw => by
    rw [ofSpelling_of_base (by rw [hraw]; decide +kernel), hraw, String.ofList_toList,
      componentsOf, ofParameters_of_spellComponents h]
    rfl
  | @Spells.array text blanks digits _ _ _ _ ht hb hs, raw, hraw => by
    have hwhole := ht.isWhole
    have hline : '\n' ∉ text ++ blanks := by
      rw [List.mem_append, not_or]
      exact ⟨hwhole.noLine, fun hmem => (hb _ hmem).2 rfl⟩
    have hsplit : splitArray? (trim raw.toList) = some (text ++ blanks, digits) := by
      rw [hraw]
      exact splitArray?_eq_some_iff.2 ⟨rfl,
        List.append_ne_nil_of_left_ne_nil hwhole.notEmpty _, hline,
        isDecimalDigit_of_spellsSize hs⟩
    have helement : trim (String.ofList (text ++ blanks)).toList = text := by
      rw [String.toList_ofList]
      exact trim_append_of_isWhole hwhole fun c hc => (hb c hc).1
    rw [ofSpelling_of_array hsplit, ArrayText.size_eq_ok_iff.2 hs,
      ofSpelling_of_spells ht _ helement, hraw]
    rfl

theorem ofParameters_of_spellComponents {ps : List AbiParameter} {cs : List Component} :
    SpellComponents ps cs → ofParameters ps = .ok cs
  | .nil => rfl
  | .cons h hr => by
    have hp := ofSpelling_of_spells h _ rfl
    rw [ofParameters, ofParameter_eq_parse, parse, hp, ofParameters_of_spellComponents hr]
    rfl

end

theorem parse_eq_ok_iff {components : Option (List AbiParameter)} {t : EvmType} :
    parse raw components internalType = .ok t ↔
      Spells (trim raw.toList) components internalType t := by
  constructor
  · intro h
    rw [parse, ← String.ofList_toList (s := raw)] at h
    exact spells_of_ofSpelling (fun cs => spellComponents_of_componentsOf components) h
  · intro h
    exact ofSpelling_of_spells h raw rfl

/-- A base that is no `tuple` is parsed whatever the components are. -/
theorem parse_eq_of_not_suffixed (h : ¬ Suffixed "tuple".toList (trim raw.toList))
    (components components' : Option (List AbiParameter)) :
    parse raw components internalType = parse raw components' internalType := by
  have hbase : String.ofList (TypeText.read raw.toList).base ≠ "tuple" := by
    intro he
    rw [← he, String.toList_ofList] at h
    exact h (suffixed_read raw.toList)
  unfold parse ofSpelling
  simp only [ofBase_of_ne hbase]

/-- The parser accepts exactly the spellings of types, and gives the type that is spelled; a base
that is no `tuple` is parsed whatever components stand beside it; and what is rejected is a
malformed ABI, without a scope. -/
theorem parse_accepts_spellings (raw : String) (components : Option (List AbiParameter))
    (internalType : Option String) :
    (∀ t, parse raw components internalType = .ok t ↔
      Spells (trim raw.toList) components internalType t) ∧
    (¬ Suffixed "tuple".toList (trim raw.toList) → ∀ components',
      parse raw components' internalType = parse raw components internalType) ∧
    ∀ e, (parse raw components internalType).mapError TypeFault.diagnostic = .error e →
      e.kind = .malformedAbi ∧ e.scope = [] := by
  refine ⟨fun t => parse_eq_ok_iff, fun h components' => ?_, fun e he => ?_⟩
  · exact parse_eq_of_not_suffixed h components' components
  · cases hp : parse raw components internalType with
    | ok t =>
      rw [hp] at he
      cases he
    | error f =>
      rw [hp] at he
      cases he
      exact ⟨rfl, rfl⟩

/-- Blanks in front of a suffix, zeros in front of a width, and the last suffix outermost. -/
example : parse " uint008 [2][] " none none =
    .ok (.array (.array (.leaf (.uint 8) "uint008") (some 2) "uint008 [2]") none
      "uint008 [2][]") := by
  decide +kernel

end EvmType

end AbiBindings
