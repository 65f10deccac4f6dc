import AbiBindings.Proofs.Checked
import AbiBindings.Proofs.EvmType.Shape
import AbiBindings.Proofs.Struct.Collection
import AbiBindings.Typing

/-!
# References to structs

In a type with references a struct is referred to by its name, before the name is written as text.
Written as text it is the type that refers to structs, and it refers to structs of the ABI type
only.  Spellings do not matter.

    (refTypeOf y d t).map (print (y.suffix d)) = typeOf y d true t      (print_refTypeOf)
    .struct n ∈ names of refTypeOf y d t → n names a struct in t        (exists_of_mem_names)
    refTypeOf y d t.erased = .ok u ↔ refTypeOf y d t = .ok u            (refTypeOf_erased)
-/

namespace AbiBindings

/-! ## Names in type expressions -/

variable {ν μ : Type}

namespace TsExpr

mutual

/-- Replaces the names in a type expression. -/
def map (f : ν → μ) : TsExpr ν → TsExpr μ
  | .named n => .named (f n)
  | .array e => .array (map f e)
  | .tuple es => .tuple (mapAll f es)
  | .object fs => .object (mapFields f fs)
  | .both l r => .both (map f l) (map f r)

def mapAll (f : ν → μ) : List (TsExpr ν) → List (TsExpr μ)
  | [] => []
  | e :: es => map f e :: mapAll f es

def mapFields (f : ν → μ) : List (Named (TsExpr ν)) → List (Named (TsExpr μ))
  | [] => []
  | ⟨name, e⟩ :: fs => ⟨name, map f e⟩ :: mapFields f fs

end

mutual

/-- The names in a type expression. -/
def names : TsExpr ν → List ν
  | .named n => [n]
  | .array e => names e
  | .tuple es => namesAll es
  | .object fs => namesFields fs
  | .both l r => names l ++ names r

def namesAll : List (TsExpr ν) → List ν
  | [] => []
  | e :: es => names e ++ namesAll es

def namesFields : List (Named (TsExpr ν)) → List ν
  | [] => []
  | ⟨_, e⟩ :: fs => names e ++ namesFields fs

end

theorem mapAll_eq_map (f : ν → μ) (es : List (TsExpr ν)) : mapAll f es = es.map (map f) := by
  induction es with
  | nil => rfl
  | cons e es ih => rw [mapAll, ih, List.map_cons]

theorem mapFields_eq_map (f : ν → μ) (fs : List (Named (TsExpr ν))) :
    mapFields f fs = fs.map fun c => ⟨c.name, map f c.type⟩ := by
  induction fs with
  | nil => rfl
  | cons c fs ih => rw [mapFields, ih, List.map_cons]

theorem mem_namesAll {n : ν} {es : List (TsExpr ν)} :
    n ∈ namesAll es ↔ ∃ e ∈ es, n ∈ names e := by
  induction es with
  | nil => simp [namesAll]
  | cons e es ih => simp [namesAll, ih]

theorem mem_namesFields {n : ν} {fs : List (Named (TsExpr ν))} :
    n ∈ namesFields fs ↔ ∃ c ∈ fs, n ∈ names c.type := by
  induction fs with
  | nil => simp [namesFields]
  | cons c fs ih => simp [namesFields, ih]

/-! ### Arrays and tuples -/

theorem map_arrayType (f : ν → μ) (size : Option Nat) (e : TsExpr ν) :
    map f (arrayType size e) = arrayType size (map f e) := by
  unfold arrayType
  split
  · split
    · rw [map, mapAll_eq_map, List.map_replicate]
    · rfl
  · rfl

theorem map_inputTuple (f : ν → μ) (fs : List (Named (TsExpr ν))) :
    map f (inputTuple fs) = inputTuple (mapFields f fs) := by
  have hany : (mapFields f fs).any (·.name.isEmpty) = fs.any (·.name.isEmpty) := by
    rw [mapFields_eq_map, List.any_map]
    rfl
  unfold inputTuple
  rw [hany]
  split
  · rw [map, mapAll_eq_map, mapFields_eq_map, List.map_map, List.map_map]
    rfl
  · rfl

theorem map_outputTuple (f : ν → μ) (fs : List (Named (TsExpr ν))) :
    map f (outputTuple fs) = outputTuple (mapFields f fs) := by
  have hfilter : (mapFields f fs).filter (!·.name.isEmpty) =
      mapFields f (fs.filter (!·.name.isEmpty)) := by
    rw [mapFields_eq_map, mapFields_eq_map, List.filter_map]
    rfl
  have hempty (gs : List (Named (TsExpr ν))) : (mapFields f gs).isEmpty = gs.isEmpty := by
    rw [mapFields_eq_map, List.isEmpty_map]
  have hpositions : mapAll f (fs.map (·.type)) = (mapFields f fs).map (·.type) := by
    rw [mapAll_eq_map, mapFields_eq_map, List.map_map, List.map_map]
    rfl
  unfold outputTuple
  dsimp only
  rw [hfilter, hempty]
  split
  · rw [map, hpositions]
  · rw [map, map, map, hpositions]

theorem map_tupleType (f : ν → μ) (d : Direction) (fs : List (Named (TsExpr ν))) :
    map f (tupleType d fs) = tupleType d (mapFields f fs) := by
  cases d with
  | input => exact map_inputTuple f fs
  | output => exact map_outputTuple f fs

theorem mem_names_arrayType {n : ν} {size : Option Nat} {e : TsExpr ν}
    (h : n ∈ names (arrayType size e)) : n ∈ names e := by
  unfold arrayType at h
  split at h
  · split at h
    · obtain ⟨u, hu, hn⟩ := mem_namesAll.1 h
      rwa [← List.eq_of_mem_replicate hu]
    · exact h
  · exact h

theorem mem_names_tupleType {n : ν} {d : Direction} {fs : List (Named (TsExpr ν))}
    (h : n ∈ names (tupleType d fs)) : ∃ c ∈ fs, n ∈ names c.type := by
  have htuple (h : n ∈ namesAll (fs.map (·.type))) : ∃ c ∈ fs, n ∈ names c.type := by
    obtain ⟨e, he, hn⟩ := mem_namesAll.1 h
    obtain ⟨c, hc, rfl⟩ := List.mem_map.1 he
    exact ⟨c, hc, hn⟩
  cases d with
  | input =>
    change n ∈ names (inputTuple fs) at h
    unfold inputTuple at h
    split at h
    · exact htuple h
    · exact mem_namesFields.1 h
  | output =>
    change n ∈ names (outputTuple fs) at h
    unfold outputTuple at h
    dsimp only at h
    split at h
    · exact htuple h
    · rcases List.mem_append.1 h with h | h
      · exact htuple h
      · obtain ⟨c, hc, hn⟩ := mem_namesFields.1 h
        exact ⟨c, (List.mem_filter.1 hc).1, hn⟩

end TsExpr

/-! ## References -/

/-- What a type expression may name: what a table has for a leaf, or a struct. -/
inductive Symbol where
  | text (s : String)
  | struct (n : StructName)

/-- The text of a name; struct names end in a suffix. -/
def Symbol.print (suffix : String) : Symbol → String
  | .text s => s
  | .struct n => n.qualified suffix

/-- A type that refers to structs. -/
abbrev RefType := TsExpr Symbol

namespace Typing

mutual

/-- The type of a value with references to structs. -/
def refTypeOf (y : Typing) (d : Direction) : EvmType → Except UncoveredInteger RefType
  | .leaf kind spelling =>
    ((y.leafNames d).nameOf spelling kind).map fun s => .named (.text s)
  | .array element size _ => (refTypeOf y d element).map (arrayType size)
  | .tuple _ (some n) _ => .ok (.named (.struct n))
  | .tuple components none _ => (refTypesOf y d components).map (tupleType d)

def refTypesOf (y : Typing) (d : Direction) :
    List (Named EvmType) → Except UncoveredInteger (List (Named RefType))
  | [] => .ok []
  | ⟨name, t⟩ :: rest => do
    let u ← refTypeOf y d t
    let us ← refTypesOf y d rest
    return ⟨name, u⟩ :: us

end

variable {y : Typing} {d : Direction}

/-! ### Text -/

mutual

/-- References written as text are what types with structs by name have. -/
theorem print_refTypeOf : (t : EvmType) →
    (y.refTypeOf d t).map (TsExpr.map (Symbol.print (y.suffix d))) = y.typeOf d true t
  | .leaf kind spelling => by
    rw [refTypeOf, typeOf]
    cases (y.leafNames d).nameOf spelling kind <;> rfl
  | .array element size _ => by
    rw [refTypeOf, typeOf, ← print_refTypeOf element]
    cases y.refTypeOf d element with
    | error e => rfl
    | ok u => exact congrArg Except.ok (TsExpr.map_arrayType _ size u)
  | .tuple _ (some n) _ => rfl
  | .tuple components none _ => by
    rw [refTypeOf, typeOf, ← print_refTypesOf components]
    · cases y.refTypesOf d components with
      | error e => rfl
      | ok us => exact congrArg Except.ok (TsExpr.map_tupleType _ d us)
    · intro n hn
      cases hn

theorem print_refTypesOf : (cs : List (Named EvmType)) →
    (y.refTypesOf d cs).map (TsExpr.mapFields (Symbol.print (y.suffix d))) = y.typesOf d true cs
  | [] => rfl
  | ⟨name, t⟩ :: cs => by
    rw [refTypesOf, typesOf, ← print_refTypeOf t, ← print_refTypesOf cs]
    cases y.refTypeOf d t with
    | error e => rfl
    | ok u => cases y.refTypesOf d cs <;> rfl

end

/-! ### Structs -/

mutual

/-- What a type refers to are structs in it. -/
theorem exists_of_mem_names : (t : EvmType) → {u : RefType} → y.refTypeOf d t = .ok u →
    {n : StructName} → .struct n ∈ u.names → ∃ s ∈ t.structsIn, s.name = n
  | .leaf kind spelling, u, h, n, hn => by
    obtain ⟨s, -, rfl⟩ := map_eq_ok_iff.1 h
    simp [TsExpr.names] at hn
  | .array element size _, u, h, n, hn => by
    obtain ⟨v, hv, rfl⟩ := map_eq_ok_iff.1 h
    exact exists_of_mem_names element hv (TsExpr.mem_names_arrayType hn)
  | .tuple components (some m) spelling, u, h, n, hn => by
    cases h
    rw [TsExpr.names, List.mem_singleton, Symbol.struct.injEq] at hn
    exact ⟨⟨m, components, spelling⟩, List.mem_cons_self, hn.symm⟩
  | .tuple components none _, u, h, n, hn => by
    obtain ⟨us, hus, rfl⟩ := map_eq_ok_iff.1 h
    obtain ⟨c, hc, hn⟩ := TsExpr.mem_names_tupleType hn
    exact exists_of_mem_namesFields components hus hc hn

theorem exists_of_mem_namesFields : (cs : List (Named EvmType)) → {us : List (Named RefType)} →
    y.refTypesOf d cs = .ok us → {c : Named RefType} → c ∈ us → {n : StructName} →
    .struct n ∈ c.type.names → ∃ s ∈ EvmType.structsInAll cs, s.name = n
  | [], us, h, c, hc, n, hn => by
    cases h
    cases hc
  | ⟨name, t⟩ :: cs, us, h, c, hc, n, hn => by
    obtain ⟨u, hu, h⟩ := bind_eq_ok_iff.1 h
    obtain ⟨rest, hrest, h⟩ := bind_eq_ok_iff.1 h
    cases h
    rcases List.mem_cons.1 hc with rfl | hc
    · obtain ⟨s, hs, hsn⟩ := exists_of_mem_names t hu hn
      exact ⟨s, List.mem_append_left _ hs, hsn⟩
    · obtain ⟨s, hs, hsn⟩ := exists_of_mem_namesFields cs hrest hc hn
      exact ⟨s, List.mem_append_right _ hs, hsn⟩

end

/-! ### Spellings -/

theorem nameOf_eq_ok_iff (spelling spelling' : String) {l : LeafNames} {k : Leaf} {s : String} :
    l.nameOf spelling k = .ok s ↔ l.nameOf spelling' k = .ok s := by
  have hint (bits : Nat) : l.integer bits spelling = .ok s ↔ l.integer bits spelling' = .ok s := by
    unfold LeafNames.integer
    cases l.integer? bits <;> simp
  cases k with
  | uint bits | int bits => exact hint bits
  | address | bool | string | bytes | fixedBytes size => rfl

mutual

/-- The spellings in a type only show in failures. -/
theorem refTypeOf_erased : (t : EvmType) → {u : RefType} →
    (y.refTypeOf d t.erased = .ok u ↔ y.refTypeOf d t = .ok u)
  | .leaf kind spelling, u => by
    rw [EvmType.erased, refTypeOf, refTypeOf, map_eq_ok_iff, map_eq_ok_iff]
    simp only [nameOf_eq_ok_iff "" spelling]
  | .array element size _, u => by
    rw [EvmType.erased, refTypeOf, refTypeOf, map_eq_ok_iff, map_eq_ok_iff]
    simp only [refTypeOf_erased element]
  | .tuple components (some m) spelling, u => by
    rw [EvmType.erased, refTypeOf, refTypeOf]
  | .tuple components none _, u => by
    rw [EvmType.erased, refTypeOf, refTypeOf, map_eq_ok_iff, map_eq_ok_iff]
    simp only [refTypesOf_erasedAll components]

theorem refTypesOf_erasedAll : (cs : List (Named EvmType)) → {us : List (Named RefType)} →
    (y.refTypesOf d (EvmType.erasedAll cs) = .ok us ↔ y.refTypesOf d cs = .ok us)
  | [], us => Iff.rfl
  | ⟨name, t⟩ :: cs, us => by
    rw [EvmType.erasedAll, refTypesOf, refTypesOf]
    simp only [bind_eq_ok_iff, refTypeOf_erased t, refTypesOf_erasedAll cs]

end

end Typing

end AbiBindings
