import AbiBindings.Proofs.Typing.Reference

/-!
# Expansion of references

A type with references expands to one without: every reference gives way to what its struct is
declared as, whose references expand in turn.  There is at most one expansion.  If every struct in
an ABI type is declared as the tuple of its components, the type with references expands to the
type with all structs spelled out.

    Expands declared u v → Expands declared u w → v = w                 (Expands.unique)
    typeOf y d false t is the expansion of refTypeOf y d t              (exists_expansion)
-/

namespace AbiBindings

/-! ## Expansion -/

mutual

/-- Replacing every reference by its declaration, again and again, leads from one to the other. -/
inductive Expands (declared : StructName → Option RefType) : RefType → TsType → Prop where
  | text (s : String) : Expands declared (.named (.text s)) (.named s)
  | struct {n : StructName} {u : RefType} {v : TsType} (hd : declared n = some u)
    (h : Expands declared u v) : Expands declared (.named (.struct n)) v
  | array {u : RefType} {v : TsType} (h : Expands declared u v) :
    Expands declared (.array u) (.array v)
  | tuple {us : List RefType} {vs : List TsType} (h : ExpandAll declared us vs) :
    Expands declared (.tuple us) (.tuple vs)
  | object {us : List (Named RefType)} {vs : List (Named TsType)}
    (h : ExpandFields declared us vs) : Expands declared (.object us) (.object vs)
  | both {u u' : RefType} {v v' : TsType} (h : Expands declared u v)
    (h' : Expands declared u' v') : Expands declared (.both u u') (.both v v')

inductive ExpandAll (declared : StructName → Option RefType) :
    List RefType → List TsType → Prop where
  | nil : ExpandAll declared [] []
  | cons {u : RefType} {v : TsType} {us : List RefType} {vs : List TsType}
    (h : Expands declared u v) (hs : ExpandAll declared us vs) :
    ExpandAll declared (u :: us) (v :: vs)

inductive ExpandFields (declared : StructName → Option RefType) :
    List (Named RefType) → List (Named TsType) → Prop where
  | nil : ExpandFields declared [] []
  | cons {name : String} {u : RefType} {v : TsType} {us : List (Named RefType)}
    {vs : List (Named TsType)} (h : Expands declared u v) (hs : ExpandFields declared us vs) :
    ExpandFields declared (⟨name, u⟩ :: us) (⟨name, v⟩ :: vs)

end

variable {declared : StructName → Option RefType}

mutual

theorem Expands.unique : {u : RefType} → {v w : TsType} → Expands declared u v →
    Expands declared u w → v = w
  | _, _, _, .text _, .text _ => rfl
  | _, _, _, .struct hd h, .struct hd' h' => by
    rw [hd] at hd'
    cases hd'
    exact h.unique h'
  | _, _, _, .array h, .array h' => by rw [h.unique h']
  | _, _, _, .tuple h, .tuple h' => by rw [h.unique h']
  | _, _, _, .object h, .object h' => by rw [h.unique h']
  | _, _, _, .both h g, .both h' g' => by rw [h.unique h', g.unique g']

theorem ExpandAll.unique : {us : List RefType} → {vs ws : List TsType} →
    ExpandAll declared us vs → ExpandAll declared us ws → vs = ws
  | _, _, _, .nil, .nil => rfl
  | _, _, _, .cons h hs, .cons h' hs' => by rw [h.unique h', hs.unique hs']

theorem ExpandFields.unique : {us : List (Named RefType)} → {vs ws : List (Named TsType)} →
    ExpandFields declared us vs → ExpandFields declared us ws → vs = ws
  | _, _, _, .nil, .nil => rfl
  | _, _, _, .cons h hs, .cons h' hs' => by rw [h.unique h', hs.unique hs']

end

/-! ## Arrays and tuples -/

theorem expandAll_replicate {u : RefType} {v : TsType} (h : Expands declared u v) (n : Nat) :
    ExpandAll declared (List.replicate n u) (List.replicate n v) := by
  induction n with
  | zero => exact .nil
  | succ n ih => exact .cons h ih

theorem expands_arrayType {u : RefType} {v : TsType} (h : Expands declared u v)
    (size : Option Nat) : Expands declared (arrayType size u) (arrayType size v) := by
  cases size with
  | none => exact .array h
  | some n =>
    unfold arrayType
    dsimp only
    by_cases hn : n ≤ maxTupleLength
    · rw [if_pos hn, if_pos hn]
      exact .tuple (expandAll_replicate h n)
    · rw [if_neg hn, if_neg hn]
      exact .array h

theorem ExpandFields.types : {us : List (Named RefType)} → {vs : List (Named TsType)} →
    ExpandFields declared us vs → ExpandAll declared (us.map (·.type)) (vs.map (·.type))
  | _, _, .nil => .nil
  | _, _, .cons h hs => .cons h hs.types

theorem ExpandFields.names_eq : {us : List (Named RefType)} → {vs : List (Named TsType)} →
    ExpandFields declared us vs → us.map (·.name) = vs.map (·.name)
  | _, _, .nil => rfl
  | _, _, .cons _ hs => congrArg (_ :: ·) hs.names_eq

/-- Expansion keeps to the fields with certain names. -/
theorem ExpandFields.filter (p : String → Bool) : {us : List (Named RefType)} →
    {vs : List (Named TsType)} → ExpandFields declared us vs →
    ExpandFields declared (us.filter fun c => p c.name) (vs.filter fun c => p c.name)
  | _, _, .nil => .nil
  | _, _, @ExpandFields.cons _ name _ _ _ _ h hs => by
    cases hp : p name with
    | true => simpa [hp] using .cons h (hs.filter p)
    | false => simpa [hp] using hs.filter p

section
variable {us : List (Named RefType)} {vs : List (Named TsType)}

theorem expands_inputTuple (h : ExpandFields declared us vs) :
    Expands declared (inputTuple us) (inputTuple vs) := by
  have hany : us.any (·.name.isEmpty) = vs.any (·.name.isEmpty) := by
    have := congrArg (List.any · String.isEmpty) h.names_eq
    rwa [List.any_map, List.any_map] at this
  unfold inputTuple
  rw [hany]
  split
  · exact .tuple h.types
  · exact .object h

theorem expands_outputTuple (h : ExpandFields declared us vs) :
    Expands declared (outputTuple us) (outputTuple vs) := by
  have hf := h.filter (!·.isEmpty)
  have hempty : (us.filter fun c => !c.name.isEmpty).isEmpty =
      (vs.filter fun c => !c.name.isEmpty).isEmpty := by
    have := congrArg List.isEmpty hf.names_eq
    simpa only [List.isEmpty_map] using this
  unfold outputTuple
  dsimp only
  rw [hempty]
  split
  · exact .tuple h.types
  · exact .both (.tuple h.types) (.object hf)

theorem expands_tupleType (h : ExpandFields declared us vs) (d : Direction) :
    Expands declared (tupleType d us) (tupleType d vs) := by
  cases d with
  | input => exact expands_inputTuple h
  | output => exact expands_outputTuple h

end

/-! ## Types -/

namespace Typing

variable {y : Typing} {d : Direction}

/-- A struct is declared as the tuple of its components. -/
def DeclaresStruct (y : Typing) (d : Direction) (declared : StructName → Option RefType)
    (s : StructType) : Prop :=
  ∃ us, y.refTypesOf d s.components = .ok us ∧ declared s.name = some (tupleType d us)

mutual

theorem exists_expansion : (t : EvmType) → (∀ s ∈ t.structsIn, DeclaresStruct y d declared s) →
    {u : RefType} → y.refTypeOf d t = .ok u →
    ∃ v, y.typeOf d false t = .ok v ∧ Expands declared u v
  | .leaf kind spelling, _, u, h => by
    obtain ⟨s, hs, rfl⟩ := map_eq_ok_iff.1 h
    refine ⟨.named s, ?_, .text s⟩
    rw [typeOf, hs]
    rfl
  | .array element size _, hd, u, h => by
    obtain ⟨w, hw, rfl⟩ := map_eq_ok_iff.1 h
    obtain ⟨v, hv, he⟩ := exists_expansion element hd hw
    refine ⟨arrayType size v, ?_, expands_arrayType he size⟩
    rw [typeOf, hv]
    rfl
  | .tuple components (some n) spelling, hd, u, h => by
    cases h
    -- The components of the type itself expand, for the declaration has the same references.
    obtain ⟨us, hus, hdecl⟩ := hd ⟨n, components, spelling⟩ List.mem_cons_self
    obtain ⟨vs, hvs, he⟩ := exists_expansions components
      (fun s hs => hd s (List.mem_cons_of_mem _ hs)) hus
    refine ⟨tupleType d vs, ?_, .struct hdecl (expands_tupleType he d)⟩
    simp only [typeOf, hvs]
    rfl
  | .tuple components none _, hd, u, h => by
    obtain ⟨us, hus, rfl⟩ := map_eq_ok_iff.1 h
    obtain ⟨vs, hvs, he⟩ := exists_expansions components hd hus
    refine ⟨tupleType d vs, ?_, expands_tupleType he d⟩
    simp only [typeOf, hvs]
    rfl

theorem exists_expansions : (cs : List (Named EvmType)) →
    (∀ s ∈ EvmType.structsInAll cs, DeclaresStruct y d declared s) →
    {us : List (Named RefType)} → y.refTypesOf d cs = .ok us →
    ∃ vs, y.typesOf d false cs = .ok vs ∧ ExpandFields declared us vs
  | [], _, us, h => by
    cases h
    exact ⟨[], rfl, .nil⟩
  | ⟨name, t⟩ :: cs, hd, us, h => by
    obtain ⟨u, hu, h⟩ := bind_eq_ok_iff.1 h
    obtain ⟨rest, hrest, h⟩ := bind_eq_ok_iff.1 h
    cases h
    obtain ⟨v, hv, he⟩ := exists_expansion t (fun s hs => hd s (List.mem_append_left _ hs)) hu
    obtain ⟨vs, hvs, hes⟩ := exists_expansions cs
      (fun s hs => hd s (List.mem_append_right _ hs)) hrest
    refine ⟨⟨name, v⟩ :: vs, ?_, .cons he hes⟩
    rw [typesOf, hv, hvs]
    rfl

end

end Typing

end AbiBindings
