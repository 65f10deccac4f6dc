import AbiBindings.Proofs.EvmType.Node
import AbiBindings.Proofs.TypeScript.Layout
import AbiBindings.Proofs.Typing.Translation

/-!
# Balanced types

The type of a value is written with names from three places: the table of names, the ABI type, and
the suffixes of structs.  If all of them are balanced, so is whatever is written.

    y.typeOf d useStructs t = .ok u → u.text is balanced                (isBalanced_typeOf)
    y.argumentsText inputs = .ok text → text is balanced                (isBalanced_argumentsText)
-/

namespace AbiBindings

/-! ## Names -/

/-- The texts that a struct's name consists of. -/
def StructName.parts (n : StructName) : List String := n.identifier :: n.owner.toList

namespace EvmType

/-- The names that a type has itself, without those of its parts. -/
def ownNames : EvmType → List String
  | .tuple components name _ => components.map (·.name) ++ name.toList.flatMap StructName.parts
  | _ => []

/-- All names in a type are balanced. -/
def HasBalancedNames (t : EvmType) : Prop :=
  ∀ u : EvmType, u.Occurs t → ∀ n ∈ u.ownNames, IsBalanced n

end EvmType

/-- A component with a balanced name and a type of balanced names. -/
structure IsBalancedComponent (c : Component) : Prop where
  name : IsBalanced c.name
  type : c.type.HasBalancedNames

namespace EvmType

variable {cs : List Component} {name : Option StructName} {spelling : String}

theorem HasBalancedNames.component (h : HasBalancedNames (.tuple cs name spelling))
    {c : Component} (hc : c ∈ cs) : IsBalancedComponent c :=
  ⟨h _ (.here _) _ (List.mem_append_left _ (List.mem_map_of_mem hc)),
    fun u hu => h u (.component hc hu)⟩

theorem HasBalancedNames.struct {n : StructName}
    (h : HasBalancedNames (.tuple cs (some n) spelling)) : ∀ p ∈ n.parts, IsBalanced p := by
  intro p hp
  refine h _ (.here _) p (List.mem_append_right _ ?_)
  rwa [Option.toList_some, List.flatMap_singleton]

end EvmType

/-- All names in a table, and the suffixes of structs, are balanced. -/
structure Typing.IsBalanced (y : Typing) : Prop where
  leaves : ∀ d, ∀ n ∈ (y.leafNames d).all, AbiBindings.IsBalanced n
  suffix : ∀ d, AbiBindings.IsBalanced (y.suffix d)

theorem isBalanced_qualified {n : StructName} (hn : ∀ p ∈ n.parts, IsBalanced p) {suffix : String}
    (hs : IsBalanced suffix) : IsBalanced (n.qualified suffix) := by
  have hid : IsBalanced n.identifier := hn _ List.mem_cons_self
  unfold StructName.qualified
  cases ho : n.owner with
  | none => exact hid.append hs
  | some owner =>
    have howner : IsBalanced owner :=
      hn _ (List.mem_cons_of_mem _ (Option.mem_toList.2 (Option.mem_def.2 ho)))
    exact ((howner.append (by decide)).append hid).append hs

/-! ## Type expressions -/

theorem isBalanced_arrayType {u : TsType} (h : IsBalanced u.text) (size : Option Nat) :
    IsBalanced (TsType.text (arrayType size u)) := by
  have harray : IsBalanced (TsType.text (.array u)) := isBalanced_arrayText h
  unfold arrayType
  split
  · split
    · rw [TsType.text, TsType.texts_eq_map, List.map_replicate]
      refine isBalanced_bracketed fun s hs => ?_
      rw [List.eq_of_mem_replicate hs]
      exact h
    · exact harray
  · exact harray

/-- Fields with balanced names and types. -/
def AreBalancedFields (us : List (Named TsType)) : Prop :=
  ∀ v ∈ us, IsBalanced v.name ∧ IsBalanced v.type.text

section
variable {us : List (Named TsType)}

theorem AreBalancedFields.positions (h : AreBalancedFields us) :
    IsBalanced (TsType.text (.tuple (us.map (·.type)))) := by
  rw [TsType.text, TsType.texts_eq_map, List.map_map]
  refine isBalanced_bracketed fun s hs => ?_
  obtain ⟨v, hv, rfl⟩ := List.mem_map.1 hs
  exact (h v hv).2

theorem AreBalancedFields.object (h : AreBalancedFields us) :
    IsBalanced (TsType.text (.object us)) := by
  rw [TsType.text, TsType.fieldTexts_eq_map]
  refine isBalanced_braced fun s hs => ?_
  obtain ⟨v, hv, rfl⟩ := List.mem_map.1 hs
  exact isBalanced_memberText (h v hv).1 (h v hv).2

theorem AreBalancedFields.tupleType (h : AreBalancedFields us) (d : Direction) :
    IsBalanced (TsType.text (tupleType d us)) := by
  cases d with
  | input =>
    show IsBalanced (TsType.text (inputTuple us))
    unfold inputTuple
    split
    · exact h.positions
    · exact h.object
  | output =>
    have hnamed : AreBalancedFields (us.filter fun c => !c.name.isEmpty) :=
      fun v hv => h v (List.mem_of_mem_filter hv)
    show IsBalanced (TsType.text (outputTuple us))
    unfold outputTuple
    dsimp only
    split
    · exact h.positions
    · exact (h.positions.append (by decide)).append hnamed.object

end

/-! ## Types -/

section
variable {y : Typing} {d : Direction} {useStructs : Bool}

mutual

theorem isBalanced_typeOf (hy : y.IsBalanced) : (t : EvmType) → t.HasBalancedNames → {u : TsType} →
    y.typeOf d useStructs t = .ok u → IsBalanced u.text
  | .leaf kind spelling, _, u, h => by
    obtain ⟨name, hname, rfl⟩ := map_eq_ok_iff.1 h
    exact hy.leaves d name (mem_all_of_isLeafName (isLeafName_of_nameOf hname))
  | .array element size _, ht, u, h => by
    obtain ⟨v, hv, rfl⟩ := map_eq_ok_iff.1 h
    have helement : element.HasBalancedNames := fun u hu => ht u (.element hu)
    exact isBalanced_arrayType (isBalanced_typeOf hy element helement hv) size
  | .tuple cs name spelling, ht, u, h => by
    have hcs : ∀ c ∈ cs, IsBalancedComponent c := fun c hc => ht.component hc
    unfold Typing.typeOf at h
    split at h
    · cases h
      exact isBalanced_qualified ht.struct (hy.suffix d)
    · obtain ⟨us, hus, rfl⟩ := map_eq_ok_iff.1 h
      exact (areBalanced_typesOf hy cs hcs hus).tupleType d

theorem areBalanced_typesOf (hy : y.IsBalanced) : (cs : List (Named EvmType)) →
    (∀ c ∈ cs, IsBalancedComponent c) → {us : List (Named TsType)} →
    y.typesOf d useStructs cs = .ok us → AreBalancedFields us
  | [], _, us, h => by
    cases h
    exact fun _ hv => by cases hv
  | ⟨name, t⟩ :: cs, hcs, us, h => by
    simp only [Typing.typesOf, bind_eq_ok_iff] at h
    obtain ⟨u, hu, us', hus, h⟩ := h
    cases h
    obtain ⟨hname, ht⟩ := hcs _ List.mem_cons_self
    intro v hv
    rcases List.mem_cons.1 hv with rfl | hv
    · exact ⟨hname, isBalanced_typeOf hy t ht hu⟩
    · exact areBalanced_typesOf hy cs (fun c hc => hcs c (List.mem_cons_of_mem _ hc)) hus v hv

end

variable {text : String}

theorem isBalanced_typeText (hy : y.IsBalanced) {t : EvmType} (ht : t.HasBalancedNames)
    (h : y.typeText d t = .ok text) : IsBalanced text := by
  rw [Typing.typeText, mapError_eq_ok_iff, map_eq_ok_iff] at h
  obtain ⟨u, hu, rfl⟩ := h
  exact isBalanced_typeOf hy t ht hu

theorem isBalanced_tupleText (hy : y.IsBalanced) {cs : List Component}
    (hcs : ∀ c ∈ cs, IsBalancedComponent c) (h : y.tupleText d cs = .ok text) :
    IsBalanced text := by
  rw [Typing.tupleText, mapError_eq_ok_iff, map_eq_ok_iff] at h
  obtain ⟨u, hu, rfl⟩ := h
  obtain ⟨us, hus, rfl⟩ := map_eq_ok_iff.1 hu
  exact (areBalanced_typesOf hy cs hcs hus).tupleType d

theorem isBalanced_memberType (hy : y.IsBalanced) {c : Component} (hc : IsBalancedComponent c)
    (h : y.memberType d c = .ok text) : IsBalanced text := by
  rw [Typing.memberType, withinNamed_eq_ok_iff] at h
  exact isBalanced_typeText hy hc.type h

/-! ## Calls -/

theorem isBalanced_argumentLabel {name : String} (h : IsBalanced name) (index : Nat) :
    IsBalanced (Typing.argumentLabel name index) := by
  unfold Typing.argumentLabel
  split
  · exact (by decide : IsBalanced "arg").append
      (isSafe_of_words (isWordChar_toString index)).balanced
  · exact h

theorem isBalanced_argumentsText (hy : y.IsBalanced) {inputs : List Component}
    (hin : ∀ i ∈ inputs, IsBalancedComponent i) (h : y.argumentsText inputs = .ok text) :
    IsBalanced text := by
  simp only [Typing.argumentsText, bind_eq_ok_iff] at h
  obtain ⟨items, hitems, h⟩ := h
  cases h
  refine isBalanced_bracketed fun s hs => ?_
  obtain ⟨⟨c, i⟩, hc, hs⟩ := (mem_iff_of_mapM_eq_ok hitems).1 hs
  obtain ⟨t, ht, hs⟩ := bind_eq_ok_iff.1 hs
  cases hs
  have hcomponent := hin c (List.fst_mem_of_mem_zipIdx hc)
  exact isBalanced_memberText (isBalanced_argumentLabel hcomponent.name i)
    (isBalanced_memberType hy hcomponent ht)

theorem isBalanced_resultText (hy : y.IsBalanced) {outputs : List Component}
    (hout : ∀ o ∈ outputs, IsBalancedComponent o) (h : y.resultText outputs = .ok text) :
    IsBalanced text := by
  unfold Typing.resultText at h
  split at h
  · cases h
    decide
  · exact isBalanced_memberType hy (hout _ List.mem_cons_self) h
  · exact isBalanced_tupleText hy hout h

end

end AbiBindings
