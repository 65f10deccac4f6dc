import AbiBindings.Abi.Reader
import AbiBindings.Proofs.EvmType.Spelling

/-!
# Types with blanks around them

Whether a parameter may have components is seen from its spelling as it was written, its type from
the trimmed spelling.  The two differ for a tuple behind blanks: it has lost its components, and
without them it has no type.

    p.Respells p' → (p' has type t ↔ p has type t and p' hides no tuple)
                                                                    (ofParameter_respelled_iff)
-/

namespace AbiBindings

open Text

/-! ## Spellings of tuples -/

theorem mayHaveComponents_iff {type : String} :
    mayHaveComponents type = true ↔ "tuple".toList <+: type.toList :=
  List.isPrefixOf_iff_prefix

/-- A spelling that is that of a tuple once the blanks in front of it are gone. -/
def hidesTuple (type : String) : Bool :=
  mayHaveComponents (String.ofList (trim type.toList)) && !mayHaveComponents type

/-- What comes behind a text cannot make it start like a tuple. -/
theorem tuple_prefix_of_append {a b : List Char} (h : "tuple".toList <+: a ++ b)
    (hb : ∀ c ∈ b.head?, c ∉ "tuple".toList) : "tuple".toList <+: a := by
  rcases List.prefix_or_prefix_of_prefix h (List.prefix_append a b) with ha | ⟨r, hr⟩
  · exact ha
  · cases r with
    | nil => exact ⟨[], by rw [← hr, List.append_nil, List.append_nil]⟩
    | cons c r =>
      rw [← hr, List.prefix_append_right_inj] at h
      obtain ⟨rest, rfl⟩ := h
      exact absurd (hr ▸ List.mem_append_right a List.mem_cons_self) (hb c rfl)

theorem not_mem_tuple_of_isBlank {c : Char} (h : isBlank c = true) : c ∉ "tuple".toList := by
  intro hc
  have hnot : "tuple".toList.any isBlank = false := by decide +kernel
  rw [List.any_eq_true.2 ⟨c, hc, h⟩] at hnot
  cases hnot

theorem not_mem_tuple_of_blank_head {b : List Char} (h : ∀ c ∈ b, isBlank c = true) :
    ∀ c ∈ b.head?, c ∉ "tuple".toList :=
  fun c hc => not_mem_tuple_of_isBlank (h c (List.mem_of_mem_head? hc))

/-- A spelling that starts like a tuple does so without the blanks around it, too. -/
theorem tuple_prefix_trim {s : List Char} (h : "tuple".toList <+: s) :
    "tuple".toList <+: trim s := by
  have hstart : trimStart s = s := by
    obtain ⟨r, rfl⟩ := h
    rw [trimStart_eq_self_iff]
    intro c hc
    cases hc
    decide +kernel
  obtain ⟨b, hb, hblank⟩ := exists_trimEnd_append s
  rw [trim, hstart]
  rw [hb] at h
  exact tuple_prefix_of_append h (not_mem_tuple_of_blank_head hblank)

theorem not_tuple_prefix_of_spellsLeaf {text : List Char} {k : Leaf} (h : SpellsLeaf text k) :
    ¬"tuple".toList <+: text := by
  rintro ⟨r, rfl⟩
  cases h

/-- The suffix of an array does not make a type start like a tuple. -/
theorem tuple_prefix_of_array {text blanks digits : List Char}
    (hb : ∀ c ∈ blanks, isBlank c = true ∧ c ≠ '\n')
    (h : "tuple".toList <+: text ++ blanks ++ sizeBrackets digits) :
    "tuple".toList <+: text := by
  have hbase : "tuple".toList <+: text ++ blanks :=
    tuple_prefix_of_append h fun c hc => by
      cases hc
      decide
  exact tuple_prefix_of_append hbase (not_mem_tuple_of_blank_head fun c hc => (hb c hc).1)

/-- Only a tuple with components has a type. -/
theorem exists_components_of_spells {text : List Char} {components : Option (List AbiParameter)}
    {internalType : Option String} {t : EvmType} :
    Spells text components internalType t → "tuple".toList <+: text →
    ∃ ps cs, components = some ps ∧ SpellComponents ps cs
  | .leaf h, hp => absurd hp (not_tuple_prefix_of_spellsLeaf h)
  | .tuple h, _ => ⟨_, _, rfl, h⟩
  | .array ht hb _, hp => exists_components_of_spells ht (tuple_prefix_of_array hb hp)

/-- Components may be replaced by others of the same types. -/
theorem spells_of_components {text : List Char}
    {components components' : Option (List AbiParameter)} {internalType : Option String}
    {t : EvmType} :
    Spells text components internalType t →
    (∀ ps cs, components = some ps → SpellComponents ps cs →
      ∃ ps', components' = some ps' ∧ SpellComponents ps' cs) →
    Spells text components' internalType t
  | .leaf hk, _ => .leaf hk
  | .tuple hcs, h => by
    obtain ⟨ps', rfl, hcs'⟩ := h _ _ rfl hcs
    exact .tuple hcs'
  | .array ht hb hs, h => .array (spells_of_components ht h) hb hs

/-! ## Respelt parameters -/

/-- A parameter is a tuple behind blanks, or one of its components is, at any depth. -/
inductive AbiParameter.HidesTuple : AbiParameter → Prop where
  | here {p : AbiParameter} (h : hidesTuple p.type = true) : p.HidesTuple
  | component {p q : AbiParameter} {ps : List AbiParameter} (hps : p.components = some ps)
    (hq : q ∈ ps) (h : q.HidesTuple) : p.HidesTuple

mutual

/-- A parameter with other blanks around its type and those of its components.  A tuple that is
hidden by them has lost its components. -/
inductive AbiParameter.Respells : AbiParameter → AbiParameter → Prop where
  | plain {name type type' : String} {internalType : Option String} {indexed : Bool}
    (ht : trim type'.toList = trim type.toList) :
    AbiParameter.Respells ⟨name, type, internalType, none, indexed⟩
      ⟨name, type', internalType, none, indexed⟩
  | tuple {name type type' : String} {internalType : Option String} {indexed : Bool}
    {ps ps' : List AbiParameter} (ht : trim type'.toList = trim type.toList)
    (hm : mayHaveComponents type' = true) (hps : RespellAll ps ps') :
    AbiParameter.Respells ⟨name, type, internalType, some ps, indexed⟩
      ⟨name, type', internalType, some ps', indexed⟩
  | hidden {name type type' : String} {internalType : Option String} {indexed : Bool}
    {ps : List AbiParameter} (h : hidesTuple type' = true) :
    AbiParameter.Respells ⟨name, type, internalType, some ps, indexed⟩
      ⟨name, type', internalType, none, indexed⟩

/-- Parameters respelt one by one. -/
inductive RespellAll : List AbiParameter → List AbiParameter → Prop where
  | nil : RespellAll [] []
  | cons {p p' : AbiParameter} {ps ps' : List AbiParameter} (h : p.Respells p')
    (hr : RespellAll ps ps') : RespellAll (p :: ps) (p' :: ps')

end

/-! ## Types of respelt parameters -/

theorem hidesTuple_eq_true_iff {type : String} :
    hidesTuple type = true ↔
      "tuple".toList <+: trim type.toList ∧ ¬"tuple".toList <+: type.toList := by
  rw [hidesTuple, Bool.and_eq_true, Bool.not_eq_true', ← Bool.not_eq_true, mayHaveComponents_iff,
    mayHaveComponents_iff, @String.toList_ofList (trim type.toList)]

theorem ofParameter_eq_ok_iff {p : AbiParameter} {t : EvmType} :
    EvmType.ofParameter p = .ok t ↔ Spells (trim p.type.toList) p.components p.internalType t := by
  rw [EvmType.ofParameter_eq_parse, EvmType.parse_eq_ok_iff]

theorem not_spells_of_hidesTuple {type : String} {internalType : Option String} {t : EvmType}
    (h : hidesTuple type = true) : ¬Spells (trim type.toList) none internalType t := by
  intro ht
  obtain ⟨ps, cs, hps, -⟩ := exists_components_of_spells ht (hidesTuple_eq_true_iff.1 h).1
  cases hps

theorem AbiParameter.Respells.name {p p' : AbiParameter} (h : p.Respells p') :
    p'.name = p.name := by
  cases h <;> rfl

theorem AbiParameter.Respells.indexed {p p' : AbiParameter} (h : p.Respells p') :
    p'.indexed = p.indexed := by
  cases h <;> rfl

mutual

/-- Blanks around the types of parameters matter only if they hide a tuple. -/
theorem ofParameter_respelled_iff {p p' : AbiParameter} {t : EvmType} : p.Respells p' →
    (EvmType.ofParameter p' = .ok t ↔ EvmType.ofParameter p = .ok t ∧ ¬p'.HidesTuple)
  | .plain ht => by
    rw [ofParameter_eq_ok_iff, ofParameter_eq_ok_iff, ht]
    refine ⟨fun h => ⟨h, ?_⟩, And.left⟩
    rintro (hhere | ⟨hps, -, -⟩)
    · exact not_spells_of_hidesTuple hhere (ht ▸ h)
    · cases hps
  | @AbiParameter.Respells.tuple _ _ _ _ _ ps ps' ht hm hps => by
    have hprefix := tuple_prefix_trim (mayHaveComponents_iff.1 hm)
    have hcs : ∀ cs, SpellComponents ps' cs ↔ _ := fun cs => spellComponents_respelled_iff hps
    rw [ofParameter_eq_ok_iff, ofParameter_eq_ok_iff, ← ht]
    constructor
    · intro h
      obtain ⟨_, cs, ⟨⟩, hcs'⟩ := exists_components_of_spells h hprefix
      refine ⟨spells_of_components h ?_, ?_⟩
      · rintro _ cs ⟨⟩ hcs'
        exact ⟨ps, rfl, ((hcs cs).1 hcs').1⟩
      · rintro (hhere | ⟨⟨⟩, hq, hhides⟩)
        · exact (hidesTuple_eq_true_iff.1 hhere).2 (mayHaveComponents_iff.1 hm)
        · exact ((hcs cs).1 hcs').2 _ hq hhides
    · rintro ⟨h, hhides⟩
      refine spells_of_components h ?_
      rintro _ cs ⟨⟩ hcs'
      exact ⟨ps', rfl, (hcs cs).2 ⟨hcs', fun q hq hq' => hhides (.component rfl hq hq')⟩⟩
  | .hidden h => by
    rw [ofParameter_eq_ok_iff]
    constructor
    · intro ht
      exact absurd ht (not_spells_of_hidesTuple h)
    · rintro ⟨-, hhides⟩
      exact absurd (.here h) hhides

theorem spellComponents_respelled_iff {ps ps' : List AbiParameter} {cs : List Component} :
    RespellAll ps ps' →
    (SpellComponents ps' cs ↔ SpellComponents ps cs ∧ ∀ q ∈ ps', ¬q.HidesTuple)
  | .nil => by simp
  | @RespellAll.cons p p' ps ps' h hr => by
    have hhead : ∀ t, EvmType.ofParameter p' = .ok t ↔ _ := fun t => ofParameter_respelled_iff h
    have hrest : ∀ cs, SpellComponents ps' cs ↔ _ := fun cs => spellComponents_respelled_iff hr
    simp only [ofParameter_eq_ok_iff] at hhead
    rw [List.forall_mem_cons]
    constructor
    · rintro (_ | ⟨ht, hts⟩)
      obtain ⟨ht, hp⟩ := (hhead _).1 ht
      obtain ⟨hts, hps⟩ := (hrest _).1 hts
      exact ⟨h.name ▸ .cons ht hts, hp, hps⟩
    · rintro ⟨_ | ⟨ht, hts⟩, hp, hps⟩
      exact h.name ▸ .cons ((hhead _).2 ⟨ht, hp⟩) ((hrest _).2 ⟨hts, hps⟩)

end

end AbiBindings
