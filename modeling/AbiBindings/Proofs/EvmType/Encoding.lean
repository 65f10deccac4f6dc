import AbiBindings.Proofs.EvmType.Node
import AbiBindings.Proofs.EvmType.Shape
import AbiBindings.Proofs.Name.TypeName

/-!
# Types as parameters

`t.toParameter name` is the parameter that a compiler writes for a type: the canonical spelling of a
leaf, a suffix for each array around it, and `tuple` beside the components of a tuple, with the name
of a struct in front of the same suffixes as its source type.  What the parser makes of such a
parameter is the type again, with other spellings at its nodes.

    ofInternalType? (s ++ arraySuffix size) = ofInternalType? s      (ofInternalType?_arraySuffix)
    ofInternalType? n.internalType = some n                          (ofInternalType?_internalType)
    t.IsSpellable → the parameter spells a type that is t but for spellings       (exists_spells)
    t.IsSpellable → parse … = .ok u with the shape and the canonical spelling of t
                                                                              (parse_toParameter)
-/

namespace AbiBindings

open Text

/-! ## Encoding -/

/-- How a contract's source spells a struct's name. -/
def StructName.internalType (n : StructName) : String := "struct " ++ n.text

/-- The parameter whose type is an array of the type of another one. -/
def AbiParameter.inArray (size : Option Nat) (p : AbiParameter) : AbiParameter :=
  { p with
    type := p.type ++ arraySuffix size
    internalType := p.internalType.map (· ++ arraySuffix size) }

namespace EvmType

mutual

/-- The parameter of a type. -/
def toParameter (name : String) : EvmType → AbiParameter
  | .leaf kind _ => ⟨name, kind.canonical, none, none, false⟩
  | .array element size _ => (toParameter name element).inArray size
  | .tuple components n _ =>
    ⟨name, "tuple", n.map StructName.internalType, some (toParameters components), false⟩

/-- The parameters of the components of a tuple. -/
def toParameters : List (Named EvmType) → List AbiParameter
  | [] => []
  | ⟨name, t⟩ :: r => toParameter name t :: toParameters r

end

@[simp] theorem toParameter_name (t : EvmType) (name : String) :
    (t.toParameter name).name = name := by
  match t with
  | .leaf _ _ | .tuple _ _ _ => rfl
  | .array element _ _ => exact toParameter_name element name

end EvmType

/-- A struct's name that comes out of its spelling as it is. -/
structure StructName.IsSpellable (n : StructName) : Prop where
  identifier : typeName n.identifier = .ok n.identifier
  noBracket : '[' ∉ n.identifier.toList
  owner : ∀ o, n.owner = some o → '[' ∉ o.toList

namespace EvmType

/-- A type of widths and sizes in their bounds, and of structs whose names can be spelled. -/
structure IsSpellable (t : EvmType) : Prop where
  sizes : ∀ u : EvmType, u.Occurs t → u.HasValidSize
  names : ∀ s ∈ t.structsIn, s.name.IsSpellable

variable {size : Option Nat} {element : EvmType} {cs : List Component} {n : Option StructName}
  {k : Leaf} {spelling : String}

theorem isSpellable_leaf_iff :
    (leaf k spelling).IsSpellable ↔ HasValidSize (.leaf k spelling) := by
  refine ⟨fun h => h.sizes _ (.here _), fun h => ⟨fun u hu => ?_, fun s hs => by cases hs⟩⟩
  cases hu with
  | here => exact h

theorem isSpellable_array_iff :
    (array element size spelling).IsSpellable ↔
      HasValidSize (.array element size spelling) ∧ element.IsSpellable := by
  refine ⟨fun h => ⟨h.sizes _ (.here _), fun u hu => h.sizes u (.element hu), h.names⟩, ?_⟩
  refine fun ⟨hsize, h⟩ => ⟨fun u hu => ?_, h.names⟩
  cases hu with
  | here => exact hsize
  | element hu => exact h.sizes u hu

theorem isSpellable_tuple_iff :
    (tuple cs n spelling).IsSpellable ↔
      (∀ m, n = some m → m.IsSpellable) ∧ ∀ c ∈ cs, c.type.IsSpellable := by
  constructor
  · intro h
    refine ⟨?_, fun c hc => ⟨fun u hu => h.sizes u (.component hc hu), fun s hs => ?_⟩⟩
    · rintro m rfl
      exact h.names _ List.mem_cons_self
    · exact h.names s (mem_structsIn_iff.2 (.component hc (mem_structsIn_iff.1 hs)))
  · rintro ⟨hname, h⟩
    constructor
    · intro u hu
      cases hu with
      | here => trivial
      | component hc hu => exact (h _ hc).sizes u hu
    · intro s hs
      cases mem_structsIn_iff.1 hs with
      | here => exact hname _ rfl
      | component hc hu => exact (h _ hc).names s (mem_structsIn_iff.2 hu)

end EvmType

/-! ## Source types -/

theorem isPrefixOf_append_cons {l s r : List Char} {c : Char} (h : c ∉ l) :
    l.isPrefixOf (s ++ c :: r) = l.isPrefixOf s := by
  rw [Bool.eq_iff_iff, List.isPrefixOf_iff_prefix, List.isPrefixOf_iff_prefix]
  refine ⟨fun hl => ?_, fun hl => hl.trans (List.prefix_append s _)⟩
  rcases List.prefix_or_prefix_of_prefix hl (List.prefix_append s (c :: r)) with hs | ⟨t, rfl⟩
  · exact hs
  · rw [List.prefix_append_right_inj] at hl
    cases t with
    | nil => exact ⟨[], by simp⟩
    | cons d t =>
      rw [List.cons_prefix_cons] at hl
      exact absurd (List.mem_append_right s (hl.1 ▸ List.mem_cons_self)) h

theorem takeWhile_append_cons {s r : List Char} {c : Char} :
    (s ++ c :: r).takeWhile (· != c) = s.takeWhile (· != c) := by
  induction s with
  | nil => simp
  | cons d s ih => rw [List.cons_append, List.takeWhile_cons, List.takeWhile_cons, ih]

/-- Array suffixes of a source type do not matter. -/
theorem StructName.ofInternalType?_arraySuffix (s : String) (size : Option Nat) :
    ofInternalType? (s ++ arraySuffix size) = ofInternalType? s := by
  have hkey : '[' ∉ structKeyword := by decide
  unfold ofInternalType?
  simp only [String.toList_append, arraySuffix_toList, isPrefixOf_append_cons hkey]
  split
  · rename_i hs
    have hlen := (List.isPrefixOf_iff_prefix.1 hs).length_le
    rw [List.drop_append_of_le_length hlen, takeWhile_append_cons]
  · rfl

theorem StructName.IsSpellable.bracket_not_mem_text {n : StructName} (h : n.IsSpellable) :
    '[' ∉ n.text.toList := by
  rw [text_toList]
  cases ho : n.owner with
  | none => exact h.noBracket
  | some o =>
    intro hm
    rcases List.mem_append.1 hm with hm | hm
    · exact h.owner o ho hm
    · rcases List.mem_cons.1 hm with hm | hm
      · exact absurd hm (by decide)
      · exact h.noBracket hm

/-- A struct's name is read back from its spelling. -/
theorem StructName.ofInternalType?_internalType {n : StructName} (h : n.IsSpellable) :
    ofInternalType? n.internalType = some n := by
  have hname : IsTypeName n.identifier.toList := isTypeName_of_typeName h.identifier
  have hdot : '.' ∉ n.identifier.toList := fun hm => (hname.noBreak _ hm).2.1 rfl
  have hbracket : n.text.toList.takeWhile (· != '[') = n.text.toList :=
    List.takeWhile_eq_self_iff.2 fun c hc =>
      bne_iff_ne.2 fun he => h.bracket_not_mem_text (he ▸ hc)
  have htext : n.internalType.toList = structKeyword ++ n.text.toList := by
    rw [internalType, String.toList_append]
    rfl
  have howner : (n.owner.map String.toList).map String.ofList = n.owner := by
    cases n.owner with
    | none => rfl
    | some o => rw [Option.map_some, Option.map_some, String.ofList_toList]
  unfold ofInternalType?
  rw [htext, if_pos (List.isPrefixOf_iff_prefix.2 (List.prefix_append _ _)), List.drop_left,
    hbracket]
  dsimp only
  rw [splitLast_text hdot]
  dsimp only
  rw [typeNameChars?_of_isTypeName hname, howner, Option.map_some, String.ofList_toList]

/-! ## Spellings -/

/-- The canonical spelling of a leaf spells it. -/
theorem spellsLeaf_canonical {k : Leaf} {spelling : String}
    (h : EvmType.HasValidSize (.leaf k spelling)) : SpellsLeaf k.canonical.toList k := by
  have hdigits (n : Nat) : (toString n).toList = Nat.toDigits 10 n := by
    rw [Nat.toString_eq_repr, Nat.toList_repr]
  cases k with
  | address => exact .address
  | bool => exact .bool
  | string => exact .string
  | bytes => exact .bytes
  | uint n =>
    rw [Leaf.canonical, String.toList_append, hdigits]
    exact .uintOf (isNumeral_toDigits n) h
  | int n =>
    rw [Leaf.canonical, String.toList_append, hdigits]
    exact .intOf (isNumeral_toDigits n) h
  | fixedBytes n =>
    rw [Leaf.canonical, String.toList_append, hdigits]
    exact .bytesOf (isNumeral_toDigits n) h.1 h.2

theorem spellsSize_sizeDigits {size : Option Nat} {element : EvmType} {spelling : String}
    (h : EvmType.HasValidSize (.array element size spelling)) :
    SpellsSize (sizeDigits size) size := by
  cases size with
  | none => exact .none
  | some n => exact .some (isNumeral_toDigits n) h.1 h.2

/-- All that counts of a source type is the name of the struct. -/
theorem Spells.congr_internalType {text : List Char} {components : Option (List AbiParameter)}
    {internalType internalType' : Option String} {t : EvmType}
    (he : internalType.bind StructName.ofInternalType? =
      internalType'.bind StructName.ofInternalType?) :
    Spells text components internalType t → Spells text components internalType' t
  | .leaf h => .leaf h
  | .tuple h => he ▸ .tuple h
  | .array ht hb hs => .array (ht.congr_internalType he) hb hs

namespace EvmType

/-- A spelling of an element, with a suffix behind it and behind its source type. -/
theorem spells_inArray {p : AbiParameter} {t : EvmType} {size : Option Nat}
    (h : Spells p.type.toList p.components p.internalType t) (hs : SpellsSize (sizeDigits size) size) :
    Spells (p.inArray size).type.toList (p.inArray size).components (p.inArray size).internalType
      (.array t size (p.inArray size).type) := by
  have htext : (p.inArray size).type.toList =
      p.type.toList ++ [] ++ sizeBrackets (sizeDigits size) := by
    rw [AbiParameter.inArray, String.toList_append, arraySuffix_toList, List.append_nil]
    rfl
  have hname : p.internalType.bind StructName.ofInternalType? =
      (p.inArray size).internalType.bind StructName.ofInternalType? := by
    rw [AbiParameter.inArray]
    cases p.internalType with
    | none => rfl
    | some s => exact (StructName.ofInternalType?_arraySuffix s size).symm
  have hblanks : ∀ c ∈ ([] : List Char), isBlank c = true ∧ c ≠ '\n' :=
    fun c hc => absurd hc List.not_mem_nil
  have ht := Spells.array (h.congr_internalType hname) hblanks hs
  rwa [← htext, String.ofList_toList] at ht

mutual

/-- The parameter of a type spells the type.  The induction is on the type; an array keeps the
components and the name of its element, and a component keeps its name. -/
theorem exists_spells : (t : EvmType) → t.IsSpellable → (name : String) →
    ∃ u, Spells (t.toParameter name).type.toList (t.toParameter name).components
      (t.toParameter name).internalType u ∧ u.erased = t.erased
  | .leaf k spelling, h, name =>
    ⟨_, .leaf (spellsLeaf_canonical (isSpellable_leaf_iff.1 h)), rfl⟩
  | .array element size spelling, h, name => by
    obtain ⟨hsize, helement⟩ := isSpellable_array_iff.1 h
    obtain ⟨u, hu, he⟩ := exists_spells element helement name
    refine ⟨_, spells_inArray hu (spellsSize_sizeDigits hsize), ?_⟩
    rw [erased, erased, he]
  | .tuple cs n spelling, h, name => by
    obtain ⟨hnames, hcs⟩ := isSpellable_tuple_iff.1 h
    obtain ⟨us, hus, he⟩ := exists_spellComponents cs hcs
    have hname : (n.map StructName.internalType).bind StructName.ofInternalType? = n := by
      cases n with
      | none => rfl
      | some n => exact StructName.ofInternalType?_internalType (hnames n rfl)
    rw [toParameter]
    refine ⟨_, .tuple hus, ?_⟩
    rw [erased, erased, he, hname]

theorem exists_spellComponents : (cs : List (Named EvmType)) →
    (∀ c ∈ cs, c.type.IsSpellable) →
    ∃ us, SpellComponents (toParameters cs) us ∧ erasedAll us = erasedAll cs
  | [], _ => ⟨[], .nil, rfl⟩
  | ⟨name, t⟩ :: cs, h => by
    obtain ⟨u, hu, he⟩ := exists_spells t (h _ List.mem_cons_self) name
    obtain ⟨us, hus, hes⟩ := exists_spellComponents cs fun c hc => h c (List.mem_cons_of_mem _ hc)
    rw [← hu.isWhole.trimmed.trim_eq] at hu
    refine ⟨⟨(t.toParameter name).name, u⟩ :: us, .cons hu hus, ?_⟩
    rw [erasedAll, erasedAll, he, hes, toParameter_name]

end

/-- The parser gives back a type from its parameter, up to the spellings at its nodes, with the
same canonical spelling and the same shape. -/
theorem parse_toParameter (t : EvmType) (h : t.IsSpellable) (name : String) :
    ∃ u, parse (t.toParameter name).type (t.toParameter name).components
        (t.toParameter name).internalType = .ok u ∧
      u.erased = t.erased ∧ u.canonical = t.canonical ∧ u.shape = t.shape := by
  obtain ⟨u, hu, he⟩ := exists_spells t h name
  refine ⟨u, parse_eq_ok_iff.2 (by rwa [hu.isWhole.trimmed.trim_eq]), he, ?_, ?_⟩
  · rw [← canonical_erased, he, canonical_erased]
  · rw [← shape_erased, he, shape_erased]

/-- Four lists of entries, each with an amount and a list of keepers. -/
theorem parse_toParameter_entries :
    let keepers := array (.leaf .address "") none ""
    let entry := tuple [⟨"amount", .leaf (.int 128) ""⟩, ⟨"keepers", keepers⟩]
      (some ⟨"Entry", some "Ledger.Book"⟩) ""
    let t := array (.array entry none "") (some 4) ""
    let p := t.toParameter "entries"
    t.IsSpellable ∧ p.type = "tuple[][4]" ∧ p.internalType = some "struct Ledger.Book.Entry[][4]" ∧
      ∃ u, parse p.type p.components p.internalType = .ok u ∧
        u.erased = t.erased ∧ u.canonical = t.canonical ∧ u.shape = t.shape := by
  intro keepers entry t p
  have hkeepers : keepers.IsSpellable :=
    isSpellable_array_iff.2 ⟨trivial, isSpellable_leaf_iff.2 trivial⟩
  have hamount : (leaf (.int 128) "").IsSpellable :=
    isSpellable_leaf_iff.2 ⟨by decide, by decide, by decide⟩
  have hname : (StructName.mk "Entry" (some "Ledger.Book")).IsSpellable := by
    refine ⟨by decide +kernel, by decide, ?_⟩
    rintro o ⟨⟩
    decide
  have hentry : entry.IsSpellable := by
    refine isSpellable_tuple_iff.2 ⟨?_, by simp [hamount, hkeepers]⟩
    rintro m ⟨⟩
    exact hname
  have h : t.IsSpellable :=
    isSpellable_array_iff.2 ⟨⟨by decide, by decide⟩, isSpellable_array_iff.2 ⟨trivial, hentry⟩⟩
  exact ⟨h, by decide +kernel, by decide +kernel, parse_toParameter t h "entries"⟩

end EvmType

end AbiBindings
