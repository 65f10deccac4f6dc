import AbiBindings.Proofs.EvmType.Node
import AbiBindings.Proofs.TypeScript.Word
import AbiBindings.Proofs.Typing.Coverage

/-!
# Names of leaves in written types

A leaf that stands in a type outside of structs is written with its name in the table of the
direction.  Arrays have at least one element, so the name is there, and its words are words of every
text that the type is written in.

    y.typeText d u = .ok text → y.Writes d u text, and so on            (writes_typeText, …)
    y.Writes d u text, u shows a leaf → the leaf has a name, and the
      words of the name are words of the text                           (exists_name_of_writes)
-/

namespace AbiBindings

/-! ## Leaves -/

/-- A leaf stands in a type, outside of structs. -/
inductive EvmType.ShowsLeaf (k : Leaf) (spelling : String) : EvmType → Prop where
  | here : ShowsLeaf k spelling (.leaf k spelling)
  | element {element : EvmType} {size : Option Nat} {s : String}
    (h : ShowsLeaf k spelling element) : ShowsLeaf k spelling (.array element size s)
  | component {c : Component} {components : List Component} {s : String}
    (hc : c ∈ components) (h : ShowsLeaf k spelling c.type) :
    ShowsLeaf k spelling (.tuple components none s)

/-! ## Shapes -/

theorem keepsWords_arrayType {size : Option Nat} (hsize : size ≠ some 0) (t : TsType) :
    KeepsWords t.text (TsType.text (arrayType size t)) := by
  unfold arrayType
  split
  · rename_i n
    split
    · exact keepsWords_tuple (List.mem_replicate.2 ⟨fun hn => hsize (congrArg some hn), rfl⟩)
    · exact keepsWords_array
  · exact keepsWords_array

theorem keepsWords_tupleType (d : Direction) {fields : List (Named TsType)} {f : Named TsType}
    (hf : f ∈ fields) : KeepsWords f.type.text (TsType.text (tupleType d fields)) := by
  have hpositions : KeepsWords f.type.text (TsType.text (.tuple (fields.map (·.type)))) :=
    keepsWords_tuple (List.mem_map_of_mem hf)
  cases d with
  | input =>
    change KeepsWords _ (TsType.text (inputTuple fields))
    unfold inputTuple
    split
    · exact hpositions
    · exact keepsWords_object hf
  | output =>
    change KeepsWords _ (TsType.text (outputTuple fields))
    unfold outputTuple
    dsimp only
    split
    · exact hpositions
    · exact hpositions.trans keepsWords_left

namespace Typing

variable {y : Typing} {d : Direction} {u : EvmType} {text : String}

theorem exists_mem_typesOf {cs : List Component} {us : List (Named TsType)}
    (h : y.typesOf d true cs = .ok us) {c : Component} (hc : c ∈ cs) :
    ∃ f ∈ us, y.typeOf d true c.type = .ok f.type := by
  induction cs generalizing us with
  | nil => cases hc
  | cons b cs ih =>
    obtain ⟨t, ht, h⟩ := bind_eq_ok_iff.1 h
    obtain ⟨rest, hrest, h⟩ := bind_eq_ok_iff.1 h
    cases h
    rcases List.mem_cons.1 hc with rfl | hc
    · exact ⟨_, List.mem_cons_self, ht⟩
    · obtain ⟨f, hf, hfc⟩ := ih hrest hc
      exact ⟨f, List.mem_cons_of_mem _ hf, hfc⟩

/-! ## Texts -/

/-- The type of a value stands in a text. -/
def Writes (y : Typing) (d : Direction) (u : EvmType) (text : String) : Prop :=
  ∃ t, y.typeOf d true u = .ok t ∧ KeepsWords t.text text

theorem Writes.trans {text' : String} (h : y.Writes d u text) (hk : KeepsWords text text') :
    y.Writes d u text' := by
  obtain ⟨t, ht, hw⟩ := h
  exact ⟨t, ht, hw.trans hk⟩

theorem writes_typeText (h : y.typeText d u = .ok text) : y.Writes d u text := by
  obtain ⟨t, ht, rfl⟩ := map_eq_ok_iff.1 (mapError_eq_ok_iff.1 h)
  exact ⟨t, ht, .refl _⟩

theorem writes_tupleText {cs : List Component} (h : y.tupleText d cs = .ok text) {c : Component}
    (hc : c ∈ cs) : y.Writes d c.type text := by
  obtain ⟨t, ht, rfl⟩ := map_eq_ok_iff.1 (mapError_eq_ok_iff.1 h)
  obtain ⟨us, hus, rfl⟩ := map_eq_ok_iff.1 ht
  obtain ⟨f, hf, hfc⟩ := exists_mem_typesOf hus hc
  exact ⟨f.type, hfc, keepsWords_tupleType d hf⟩

theorem writes_memberType {c : Component} (h : y.memberType d c = .ok text) :
    y.Writes d c.type text :=
  writes_typeText (withinNamed_eq_ok_iff.1 h)

theorem writes_argumentsText {inputs : List Component} (h : y.argumentsText inputs = .ok text) :
    ∀ i ∈ inputs, y.Writes .input i.type text := by
  obtain ⟨items, hitems, h⟩ := bind_eq_ok_iff.1 h
  cases h
  refine forall_mem_zipIdx_iff.1 fun x hx => ?_
  obtain ⟨item, hitem, hx⟩ := mem_of_mapM_eq_ok hitems hx
  obtain ⟨t, ht, hx⟩ := bind_eq_ok_iff.1 hx
  cases hx
  exact ((writes_memberType ht).trans (keepsWords_memberText _ t)).trans
    (keepsWords_bracketed hitem)

theorem writes_resultText {outputs : List Component} (h : y.resultText outputs = .ok text) :
    ∀ c ∈ outputs, y.Writes .output c.type text := by
  intro c hc
  match outputs with
  | [] => cases hc
  | [single] =>
    rw [List.mem_singleton.1 hc]
    exact writes_memberType h
  | _ :: _ :: _ => exact writes_tupleText h hc

/-! ## Names -/

/-- A leaf in a written type has a name, and its words are words of the text. -/
theorem exists_name_of_writes {k : Leaf} {spelling : String} (hu : u.ShowsLeaf k spelling)
    (hsize : ∀ v : EvmType, v.Occurs u → v.HasValidSize) (h : y.Writes d u text) :
    ∃ n, (y.leafNames d).nameOf spelling k = .ok n ∧ KeepsWords n text := by
  induction hu generalizing text with
  | here =>
    obtain ⟨t, ht, hw⟩ := h
    obtain ⟨n, hn, rfl⟩ := map_eq_ok_iff.1 ht
    exact ⟨n, hn, hw⟩
  | @element _ size _ _ ih =>
    obtain ⟨t, ht, hw⟩ := h
    obtain ⟨e, he, rfl⟩ := map_eq_ok_iff.1 ht
    refine ih (fun v hv => hsize v (.element hv)) ⟨e, he, ?_⟩
    refine (keepsWords_arrayType (fun hzero => ?_) e).trans hw
    subst hzero
    exact absurd (hsize _ (.here _)).1 (by decide)
  | component hc _ ih =>
    obtain ⟨t, ht, hw⟩ := h
    obtain ⟨us, hus, rfl⟩ := map_eq_ok_iff.1 ht
    obtain ⟨f, hf, hfc⟩ := exists_mem_typesOf hus hc
    exact ih (fun v hv => hsize v (.component hc hv))
      ⟨f.type, hfc, (keepsWords_tupleType d hf).trans hw⟩

end Typing

end AbiBindings
