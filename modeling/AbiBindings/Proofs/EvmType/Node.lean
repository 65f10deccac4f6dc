import AbiBindings.EvmType.Check
import AbiBindings.Proofs.EvmType.Spelling
import AbiBindings.Proofs.Struct.Collection
import Mathlib.Data.List.Basic

/-!
# What types are made of

`u.Occurs t` says that `u` is the type `t` or stands in it at some depth.  Whatever is read from a
spelling has widths and sizes in their bounds, throughout.

    Spells text components internalType t → u.Occurs t → u.HasValidSize
                                                                    (Spells.hasValidSize)
    s ∈ t.structsIn ↔ s.toType.Occurs t                             (mem_structsIn_iff)
    t.firstUnnamed? = none ↔ every struct in t has named components (firstUnnamed?_eq_none_iff)
-/

namespace AbiBindings

namespace EvmType

/-! ## Parts -/

/-- A type is another one or stands in it: as the element of an array or a component of a tuple. -/
inductive Occurs : EvmType → EvmType → Prop where
  | here (t : EvmType) : Occurs t t
  | element {u element : EvmType} {size : Option Nat} {spelling : String}
    (h : Occurs u element) : Occurs u (.array element size spelling)
  | component {u : EvmType} {c : Component} {components : List Component}
    {name : Option StructName} {spelling : String} (hc : c ∈ components)
    (h : Occurs u c.type) : Occurs u (.tuple components name spelling)

theorem Occurs.trans {t u v : EvmType} (h : t.Occurs u) (h' : u.Occurs v) : t.Occurs v := by
  induction h' with
  | here => exact h
  | element _ ih => exact .element ih
  | component hc _ ih => exact .component hc ih

/-- What stands in a component of a struct stands wherever the struct does. -/
theorem Occurs.of_struct {s : StructType} {c : Component} {u t : EvmType} (hc : c ∈ s.components)
    (hu : u.Occurs c.type) (h : s.toType.Occurs t) : u.Occurs t :=
  Occurs.trans (.component hc hu) h

mutual

theorem occurs_of_mem_structsIn : (t : EvmType) → {s : StructType} → s ∈ t.structsIn →
    s.toType.Occurs t
  | .leaf _ _, _, h => by cases h
  | .array element _ _, _, h => .element (occurs_of_mem_structsIn element h)
  | .tuple cs none _, _, h => by
    obtain ⟨c, hc, h⟩ := occurs_of_mem_structsInAll cs h
    exact .component hc h
  | .tuple cs (some n) spelling, _, h => by
    rcases List.mem_cons.1 h with rfl | h
    · exact .here _
    · obtain ⟨c, hc, h⟩ := occurs_of_mem_structsInAll cs h
      exact .component hc h

theorem occurs_of_mem_structsInAll : (cs : List Component) → {s : StructType} →
    s ∈ structsInAll cs → ∃ c ∈ cs, s.toType.Occurs c.type
  | [], _, h => by cases h
  | ⟨name, t⟩ :: cs, _, h => by
    rcases List.mem_append.1 h with h | h
    · exact ⟨⟨name, t⟩, List.mem_cons_self, occurs_of_mem_structsIn t h⟩
    · obtain ⟨c, hc, h⟩ := occurs_of_mem_structsInAll cs h
      exact ⟨c, List.mem_cons_of_mem _ hc, h⟩

end

theorem mem_structsInAll_iff {s : StructType} {cs : List Component} :
    s ∈ structsInAll cs ↔ ∃ c ∈ cs, s ∈ c.type.structsIn := by
  rw [structsInAll_eq_flatMap, List.mem_flatMap]

/-- The structs in a type are the tuples with names that stand in it. -/
theorem mem_structsIn_iff {s : StructType} {t : EvmType} : s ∈ t.structsIn ↔ s.toType.Occurs t := by
  refine ⟨occurs_of_mem_structsIn t, fun h => ?_⟩
  induction h with
  | here => exact List.mem_cons_self
  | element _ ih => exact ih
  | @component c cs name spelling hc _ ih =>
    have hmem : s ∈ structsInAll cs := mem_structsInAll_iff.2 ⟨c, hc, ih⟩
    cases name with
    | none => exact hmem
    | some n => exact List.mem_cons_of_mem _ hmem

/-! ## Sizes -/

/-- The width of an integer, the number of bytes or the size of an array is one that can be
spelled.  This is about the type itself and not about its parts. -/
def HasValidSize : EvmType → Prop
  | .leaf (.uint n) _ | .leaf (.int n) _ => IsIntegerWidth n
  | .leaf (.fixedBytes n) _ => 1 ≤ n ∧ n ≤ 32
  | .array _ (some n) _ => 1 ≤ n ∧ n ≤ 4294967295
  | _ => True

theorem SpellsLeaf.hasValidSize {text : List Char} {k : Leaf} (h : SpellsLeaf text k)
    (spelling : String) : HasValidSize (.leaf k spelling) := by
  cases h with
  | address | bool | string | bytes => trivial
  | byte | function => exact ⟨by decide, by decide⟩
  | uint | int => exact ⟨by decide, by decide, by decide⟩
  | uintOf _ hw | intOf _ hw => exact hw
  | bytesOf _ h₁ h₂ => exact ⟨h₁, h₂⟩

theorem SpellsSize.hasValidSize {digits : List Char} {size : Option Nat}
    (h : SpellsSize digits size) (element : EvmType) (spelling : String) :
    HasValidSize (.array element size spelling) := by
  cases h with
  | none => trivial
  | some _ h₁ h₂ => exact ⟨h₁, h₂⟩

mutual

theorem Spells.hasValidSize {text : List Char} {components : Option (List AbiParameter)}
    {internalType : Option String} {t : EvmType} :
    Spells text components internalType t → {u : EvmType} → u.Occurs t → u.HasValidSize
  | .leaf h, _, .here _ => SpellsLeaf.hasValidSize h _
  | .tuple _, _, .here _ => trivial
  | .tuple h, _, .component hc hu => SpellComponents.hasValidSize h hc hu
  | .array _ _ hs, _, .here _ => SpellsSize.hasValidSize hs _ _
  | .array ht _ _, _, .element hu => Spells.hasValidSize ht hu

theorem SpellComponents.hasValidSize {ps : List AbiParameter} {cs : List Component} :
    SpellComponents ps cs → {c : Component} → c ∈ cs → {u : EvmType} → u.Occurs c.type →
    u.HasValidSize
  | .nil, _, hc, _, _ => by cases hc
  | .cons h hr, _, hc, _, hu => by
    rcases List.mem_cons.1 hc with rfl | hc
    · exact Spells.hasValidSize h hu
    · exact SpellComponents.hasValidSize hr hc hu

end

/-- A parameter's type has valid sizes throughout. -/
theorem hasValidSize_of_ofParameter {p : AbiParameter} {t : EvmType} (h : ofParameter p = .ok t)
    {u : EvmType} (hu : u.Occurs t) : u.HasValidSize :=
  Spells.hasValidSize (spells_of_ofParameter p h) hu

/-! ## Names of components -/

/-- Every struct in a type has a name for each of its components. -/
def NamesComponents (t : EvmType) : Prop :=
  ∀ s ∈ t.structsIn, ∀ c ∈ s.components, c.name ≠ ""

theorem unnamedPosition?_eq_none_iff {cs : List Component} :
    unnamedPosition? cs = none ↔ ∀ c ∈ cs, c.name ≠ "" := by
  simp [unnamedPosition?, List.findIdx?_eq_none_iff]

mutual

theorem firstUnnamed?_eq_none_iff : (t : EvmType) →
    (t.firstUnnamed? = none ↔ t.NamesComponents)
  | .leaf _ _ => by simp [firstUnnamed?, NamesComponents, structsIn]
  | .array element _ _ => firstUnnamed?_eq_none_iff element
  | .tuple cs none _ => by
    rw [firstUnnamed?, Option.bind_none, Option.none_or]
    exact firstUnnamedIn?_eq_none_iff cs
  | .tuple cs (some n) spelling => by
    rw [firstUnnamed?, Option.bind_some, Option.or_eq_none_iff, Option.map_eq_none_iff,
      unnamedPosition?_eq_none_iff, firstUnnamedIn?_eq_none_iff cs, NamesComponents, structsIn,
      List.forall_mem_cons]

theorem firstUnnamedIn?_eq_none_iff : (cs : List Component) →
    (firstUnnamedIn? cs = none ↔ ∀ s ∈ structsInAll cs, ∀ c ∈ s.components, c.name ≠ "")
  | [] => by simp [firstUnnamedIn?, structsInAll]
  | ⟨_, t⟩ :: cs => by
    rw [firstUnnamedIn?, Option.or_eq_none_iff, firstUnnamed?_eq_none_iff t,
      firstUnnamedIn?_eq_none_iff cs, structsInAll, List.forall_mem_append, NamesComponents]

end

end EvmType

theorem checkNamed_eq_ok_iff {cs : List Component} :
    checkNamed cs = .ok () ↔ ∀ c ∈ cs, c.type.NamesComponents := by
  have hall : (∀ s ∈ EvmType.structsInAll cs, ∀ c ∈ s.components, c.name ≠ "") ↔
      ∀ c ∈ cs, c.type.NamesComponents := by
    simp only [EvmType.mem_structsInAll_iff, EvmType.NamesComponents]
    exact ⟨fun h c hc s hs => h s ⟨c, hc, hs⟩, fun h s ⟨c, hc, hs⟩ => h c hc s hs⟩
  rw [← hall, ← EvmType.firstUnnamedIn?_eq_none_iff, checkNamed]
  cases EvmType.firstUnnamedIn? cs <;> simp

end AbiBindings
