import AbiBindings.Abi.Reader
import AbiBindings.Proofs.Checked

/-!
# Parameters in data

`HoldsParameter v p` says which parameter a piece of data holds: its name, the spelling of its type,
its source type, whether it is indexed, and, if the spelling starts like that of a tuple, its
components at any depth.  Reading gives this parameter, and asks nothing else of the data.

    readParameter v = .ok p ↔ v holds p                       (readParameter_eq_ok_iff)
    readParameters items = .ok ps ↔ items hold ps one by one  (readParameters_eq_ok_iff)
-/

namespace AbiBindings

/-! ## Trees of parameters -/

mutual

/-- A piece of data has the fields of a parameter. -/
inductive HoldsParameter : Json → AbiParameter → Prop where
  /-- There are no components, or they are passed over. -/
  | plain {v : Json} {type : String} (ht : v.stringField? "type" = some type)
    (hc : mayHaveComponents type = true → v.arrayField? "components" = none) :
    HoldsParameter v ⟨(v.stringField? "name").getD "", type, v.stringField? "internalType", none,
      v.flag "indexed"⟩
  | tuple {v : Json} {type : String} {items : List Json} {ps : List AbiParameter}
    (ht : v.stringField? "type" = some type) (hm : mayHaveComponents type = true)
    (hc : v.arrayField? "components" = some items) (hps : HoldParameters items ps) :
    HoldsParameter v ⟨(v.stringField? "name").getD "", type, v.stringField? "internalType",
      some ps, v.flag "indexed"⟩

/-- Pieces of data have the fields of parameters, one by one. -/
inductive HoldParameters : List Json → List AbiParameter → Prop where
  | nil : HoldParameters [] []
  | cons {v : Json} {items : List Json} {p : AbiParameter} {ps : List AbiParameter}
    (h : HoldsParameter v p) (hr : HoldParameters items ps) : HoldParameters (v :: items) (p :: ps)

end

/-! ## Components -/

theorem lastField?_cons (name : String) (f : String × Json) (fields : List (String × Json)) :
    Json.lastField? name (f :: fields) =
      (Json.lastField? name fields).or (if f.1 = name then some f.2 else none) := by
  unfold Json.lastField?
  rw [List.reverse_cons, List.find?_append]
  by_cases h : f.1 = name
  · simp [h]
  · simp [h]

theorem readArray_eq (v : Json) : readArray v = v.array?.map readParameters := by
  cases v <;> rfl

/-- The last field of components is the one that is read. -/
theorem readComponents_eq (fields : List (String × Json))
    (found : Option (Except AbiFault (List AbiParameter))) :
    readComponents fields found =
      ((Json.lastField? "components" fields).map readArray).getD found := by
  induction fields generalizing found with
  | nil => rfl
  | cons f fields ih =>
    obtain ⟨name, v⟩ := f
    rw [readComponents, ih, lastField?_cons]
    cases Json.lastField? "components" fields with
    | some w => rfl
    | none =>
      by_cases h : name = "components"
      · simp [h]
      · simp [h]

theorem readParameter_eq (v : Json) :
    readParameter v = parameterOf v ((v.arrayField? "components").map readParameters) := by
  cases v with
  | object fields =>
    rw [readParameter, readComponents_eq, Json.arrayField?, Json.field?]
    cases Json.lastField? "components" fields with
    | none => rfl
    | some w => exact congrArg (parameterOf (.object fields)) (readArray_eq w)
  | null | bool | integer | real | string | array => rfl

/-! ## Reading -/

/-- A parameter with components that were read. -/
theorem parameterOf_eq_ok {v : Json} {p : AbiParameter}
    (h : parameterOf v ((v.arrayField? "components").map readParameters) = .ok p)
    (hr : ∀ items ps, readParameters items = .ok ps → p.components = some ps →
      HoldParameters items ps) : HoldsParameter v p := by
  unfold parameterOf at h
  dsimp only at h
  split at h
  · cases h
  · rename_i type ht
    split at h
    · rename_i hm
      cases hc : v.arrayField? "components" with
      | none =>
        rw [hc] at h
        cases h
        exact .plain ht fun _ => hc
      | some items =>
        rw [hc] at h
        obtain ⟨ps, hps, rfl⟩ := map_eq_ok_iff.1 h
        exact .tuple ht hm hc (hr items ps hps rfl)
    · rename_i hm
      cases h
      exact .plain ht fun h => absurd h hm

mutual

theorem holdsParameter_of_read : (p : AbiParameter) → {v : Json} → readParameter v = .ok p →
    HoldsParameter v p
  | ⟨_, _, _, components, _⟩, v, h => by
    rw [readParameter_eq] at h
    exact parameterOf_eq_ok h fun items ps hps hc =>
      holdParameters_of_components components hc hps

theorem holdParameters_of_components : (components : Option (List AbiParameter)) →
    {items : List Json} → {ps : List AbiParameter} → components = some ps →
    readParameters items = .ok ps → HoldParameters items ps
  | none, _, _, hc, _ => by cases hc
  | some qs, items, ps, hc, h => by
    rw [← Option.some.inj hc] at h ⊢
    exact holdParameters_of_read qs h

theorem holdParameters_of_read : (ps : List AbiParameter) → {items : List Json} →
    readParameters items = .ok ps → HoldParameters items ps
  | ps, [], h => by
    cases h
    exact .nil
  | [], v :: items, h => by
    obtain ⟨p, -, h⟩ := bind_eq_ok_iff.1 h
    obtain ⟨ps, -, h⟩ := bind_eq_ok_iff.1 h
    cases h
  | q :: qs, v :: items, h => by
    obtain ⟨p, hp, h⟩ := bind_eq_ok_iff.1 h
    obtain ⟨ps, hps, h⟩ := bind_eq_ok_iff.1 h
    cases h
    exact .cons (holdsParameter_of_read q hp) (holdParameters_of_read qs hps)

end

mutual

theorem readParameter_of_holds {v : Json} {p : AbiParameter} :
    HoldsParameter v p → readParameter v = .ok p
  | .plain ht hc => by
    rw [readParameter_eq, parameterOf, ht]
    dsimp only
    split
    · rename_i hm
      rw [hc hm]
      rfl
    · rfl
  | .tuple ht hm hc hps => by
    rw [readParameter_eq, parameterOf, ht, hc]
    dsimp only [Option.map_some]
    rw [if_pos hm, readParameters_of_hold hps]
    rfl

theorem readParameters_of_hold {items : List Json} {ps : List AbiParameter} :
    HoldParameters items ps → readParameters items = .ok ps
  | .nil => rfl
  | .cons h hr => by
    rw [readParameters, readParameter_of_holds h, readParameters_of_hold hr]
    rfl

end

theorem readParameter_eq_ok_iff {v : Json} {p : AbiParameter} :
    readParameter v = .ok p ↔ HoldsParameter v p :=
  ⟨holdsParameter_of_read p, readParameter_of_holds⟩

theorem readParameters_eq_ok_iff {items : List Json} {ps : List AbiParameter} :
    readParameters items = .ok ps ↔ HoldParameters items ps :=
  ⟨holdParameters_of_read ps, readParameters_of_hold⟩

theorem readParameterField_eq_ok_iff {name : String} {v : Json} {ps : List AbiParameter} :
    readParameterField name v = .ok ps ↔ HoldParameters ((v.arrayField? name).getD []) ps := by
  rw [readParameterField, ← readParameters_eq_ok_iff]
  cases v.arrayField? name with
  | none => rfl
  | some items => rfl

end AbiBindings
