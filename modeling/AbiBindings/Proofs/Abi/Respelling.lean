import AbiBindings.Proofs.Abi.Definition
import AbiBindings.Proofs.EvmType.Respelling

/-!
# ABIs with other blanks around types

`Retypes R v v'` says that `v'` is the ABI `v` but for the spellings of the types of its parameters,
and of their components at any depth, which `R` takes to others.  If `R` changes blanks only, and
makes no tuple, what is read from `v'` is what is read from `v` with its parameters respelt.

    v holds p and R retypes v to v' → v' holds p', and p' respells p   (holdsParameter_of_retypes)
    ofJson v = .ok d and R retypes v to v' → ofJson v' = .ok d',
      and d' respells d                                                (ofJson_of_retypes)
-/

namespace AbiBindings

open Text

/-! ## Data with other spellings -/

section
variable (R : String → String → Prop)

mutual

/-- A parameter with other spellings of its type and of those of its components. -/
inductive RetypesParameter : Json → Json → Prop where
  | same (v : Json) : RetypesParameter v v
  | object {fields fields' : List (String × Json)} (h : RetypesFields fields fields') :
    RetypesParameter (.object fields) (.object fields')

/-- The fields of a parameter, one by one. -/
inductive RetypesFields : List (String × Json) → List (String × Json) → Prop where
  | nil : RetypesFields [] []
  | cons {name : String} {w w' : Json} {r r' : List (String × Json)}
    (h : RetypesField name w w') (hr : RetypesFields r r') :
    RetypesFields ((name, w) :: r) ((name, w') :: r')

/-- A field of a parameter. -/
inductive RetypesField : String → Json → Json → Prop where
  | same (name : String) (w : Json) : RetypesField name w w
  | type {name : String} {s s' : String} (hn : name = "type") (h : R s s') :
    RetypesField name (.string s) (.string s')
  | components {name : String} {items items' : List Json} (hn : name = "components")
    (h : RetypesParameters items items') : RetypesField name (.array items) (.array items')

/-- Parameters one by one. -/
inductive RetypesParameters : List Json → List Json → Prop where
  | nil : RetypesParameters [] []
  | cons {v v' : Json} {r r' : List Json} (h : RetypesParameter v v')
    (hr : RetypesParameters r r') : RetypesParameters (v :: r) (v' :: r')

end

/-- A field of an entry. -/
inductive RetypesEntryField : String → Json → Json → Prop where
  | same (name : String) (w : Json) : RetypesEntryField name w w
  | parameters {name : String} {items items' : List Json} (hn : name ∈ ["inputs", "outputs"])
    (h : RetypesParameters R items items') :
    RetypesEntryField name (.array items) (.array items')

/-- Fields of the same names, one by one. -/
def RelatesFields (P : String → Json → Json → Prop) (fields fields' : List (String × Json)) :
    Prop :=
  List.Forall₂ (fun f f' => f'.1 = f.1 ∧ P f.1 f.2 f'.2) fields fields'

/-- An entry with other spellings of the types of its parameters. -/
inductive RetypesEntry : Json → Json → Prop where
  | same (v : Json) : RetypesEntry v v
  | object {fields fields' : List (String × Json)}
    (h : RelatesFields (RetypesEntryField R) fields fields') :
    RetypesEntry (.object fields) (.object fields')

/-- A field of an artifact. -/
inductive RetypesArtifactField : String → Json → Json → Prop where
  | same (name : String) (w : Json) : RetypesArtifactField name w w
  | abi {name : String} {es es' : List Json} (hn : name = "abi")
    (h : List.Forall₂ (RetypesEntry R) es es') :
    RetypesArtifactField name (.array es) (.array es')

/-- An ABI, or the artifact around it, with other spellings of the types of its parameters. -/
inductive Retypes : Json → Json → Prop where
  | same (v : Json) : Retypes v v
  | array {es es' : List Json} (h : List.Forall₂ (RetypesEntry R) es es') :
    Retypes (.array es) (.array es')
  | object {fields fields' : List (String × Json)}
    (h : RelatesFields (RetypesArtifactField R) fields fields') :
    Retypes (.object fields) (.object fields')

/-- Spellings change in blanks around them, and none becomes that of a tuple. -/
structure IsRespelling : Prop where
  refl (s : String) : R s s
  trim {s s' : String} (h : R s s') : trim s'.toList = Text.trim s.toList
  tuple {s s' : String} (h : R s s') (hm : mayHaveComponents s' = true) :
    mayHaveComponents s = true

end

/-! ## Fields -/

theorem rel_or {α β : Type} {P : α → β → Prop} {a b : Option α} {a' b' : Option β}
    (ha : Option.Rel P a a') (hb : Option.Rel P b b') : Option.Rel P (a.or b) (a'.or b') := by
  cases ha with
  | some h => exact .some h
  | none => exact hb

theorem rel_lastField? {P : String → Json → Json → Prop} {fields fields' : List (String × Json)}
    (h : RelatesFields P fields fields') (name : String) :
    Option.Rel (P name) (Json.lastField? name fields) (Json.lastField? name fields') := by
  induction h with
  | nil => exact .none
  | @cons f f' _ _ hf _ ih =>
    rw [lastField?_cons, lastField?_cons, hf.1]
    refine rel_or ih ?_
    by_cases hn : f.1 = name
    · rw [if_pos hn, if_pos hn]
      exact .some (hn ▸ hf.2)
    · rw [if_neg hn, if_neg hn]
      exact .none

theorem rel_refl {α : Type} {P : α → α → Prop} (h : ∀ a, P a a) (x : Option α) :
    Option.Rel P x x := by
  cases x with
  | some a => exact .some (h a)
  | none => exact .none

section
variable {α β : Type} {P : α → α → Prop} {x x' : Option α} (h : Option.Rel P x x')
include h

theorem eq_of_rel (hP : ∀ a a', P a a' → a' = a) : x' = x := by
  cases h with
  | some h => rw [hP _ _ h]
  | none => rfl

theorem exists_of_rel {a : α} (hx : x = some a) : ∃ a', x' = some a' ∧ P a a' := by
  cases h with
  | some h =>
    cases hx
    exact ⟨_, rfl, h⟩
  | none => cases hx

theorem eq_none_of_rel (hx : x = none) : x' = none := by
  cases h with
  | some => cases hx
  | none => rfl

theorem rel_bind {Q : β → β → Prop} {f : α → Option β}
    (hf : ∀ a a', P a a' → Option.Rel Q (f a) (f a')) :
    Option.Rel Q (x.bind f) (x'.bind f) := by
  cases h with
  | some h => exact hf _ _ h
  | none => exact .none

end

section
variable {R : String → String → Prop} {v v' : Json}

theorem relatesFields_of_retypesFields {fields fields' : List (String × Json)} :
    RetypesFields R fields fields' → RelatesFields (RetypesField R) fields fields'
  | .nil => .nil
  | .cons h hr => .cons ⟨rfl, h⟩ (relatesFields_of_retypesFields hr)

/-! ### Parameters -/

theorem RetypesParameter.rel_field? (h : RetypesParameter R v v') (name : String) :
    Option.Rel (RetypesField R name) (v.field? name) (v'.field? name) := by
  cases h with
  | same => exact rel_refl (.same name) _
  | object h => exact rel_lastField? (relatesFields_of_retypesFields h) name

theorem RetypesParameter.field?_eq (h : RetypesParameter R v v') {name : String}
    (ht : name ≠ "type") (hc : name ≠ "components") : v'.field? name = v.field? name := by
  refine eq_of_rel (h.rel_field? name) fun w w' hw => ?_
  cases hw with
  | same => rfl
  | type hn => exact absurd hn ht
  | components hn => exact absurd hn hc

theorem RetypesParameter.stringField?_name (h : RetypesParameter R v v') :
    v'.stringField? "name" = v.stringField? "name" := by
  rw [Json.stringField?, h.field?_eq (by decide) (by decide), Json.stringField?]

theorem RetypesParameter.stringField?_internalType (h : RetypesParameter R v v') :
    v'.stringField? "internalType" = v.stringField? "internalType" := by
  rw [Json.stringField?, h.field?_eq (by decide) (by decide), Json.stringField?]

theorem RetypesParameter.flag_indexed (h : RetypesParameter R v v') :
    v'.flag "indexed" = v.flag "indexed" := by
  rw [Json.flag, h.field?_eq (by decide) (by decide), Json.flag]

theorem RetypesParameter.rel_type (h : RetypesParameter R v v') (hrefl : ∀ s, R s s) :
    Option.Rel R (v.stringField? "type") (v'.stringField? "type") := by
  refine rel_bind (h.rel_field? "type") fun w w' hw => ?_
  cases hw with
  | same => exact rel_refl hrefl _
  | type _ h => exact .some h
  | components hn => exact absurd hn (by decide)

theorem retypesParameters_refl : (items : List Json) → RetypesParameters R items items
  | [] => .nil
  | v :: r => .cons (.same v) (retypesParameters_refl r)

theorem RetypesParameter.rel_components (h : RetypesParameter R v v') :
    Option.Rel (RetypesParameters R) (v.arrayField? "components")
      (v'.arrayField? "components") := by
  refine rel_bind (h.rel_field? "components") fun w w' hw => ?_
  cases hw with
  | same => exact rel_refl retypesParameters_refl _
  | type hn => exact absurd hn (by decide)
  | components _ h => exact .some h

end

/-! ## Parameters that are read -/

theorem hidesTuple_of_respelt {type type' : String} (ht : trim type'.toList = trim type.toList)
    (hm : mayHaveComponents type = true) (hm' : ¬mayHaveComponents type' = true) :
    hidesTuple type' = true := by
  rw [mayHaveComponents_iff] at hm hm'
  exact hidesTuple_eq_true_iff.2 ⟨ht ▸ tuple_prefix_trim hm, hm'⟩

section
variable {R : String → String → Prop}

mutual

theorem holdsParameter_of_retypes (hR : IsRespelling R) {v v' : Json} {p : AbiParameter} :
    HoldsParameter v p → RetypesParameter R v v' → ∃ p', HoldsParameter v' p' ∧ p.Respells p'
  | .plain ht hc, h => by
    obtain ⟨type', ht', hs⟩ := exists_of_rel (h.rel_type hR.refl) ht
    refine ⟨_, .plain ht' fun hm' => ?_, ?_⟩
    · exact eq_none_of_rel h.rel_components (hc (hR.tuple hs hm'))
    · rw [h.stringField?_name, h.stringField?_internalType, h.flag_indexed]
      exact .plain (hR.trim hs)
  | .tuple ht hm hc hps, h => by
    obtain ⟨type', ht', hs⟩ := exists_of_rel (h.rel_type hR.refl) ht
    obtain ⟨items', hc', hitems⟩ := exists_of_rel h.rel_components hc
    by_cases hm' : mayHaveComponents type' = true
    · obtain ⟨ps', hps', hresp⟩ := holdParameters_of_retypes hR hps hitems
      refine ⟨_, .tuple ht' hm' hc' hps', ?_⟩
      rw [h.stringField?_name, h.stringField?_internalType, h.flag_indexed]
      exact .tuple (hR.trim hs) hm' hresp
    · refine ⟨_, .plain ht' fun h => absurd h hm', ?_⟩
      rw [h.stringField?_name, h.stringField?_internalType, h.flag_indexed]
      exact .hidden (hidesTuple_of_respelt (hR.trim hs) hm hm')

theorem holdParameters_of_retypes (hR : IsRespelling R) {items items' : List Json}
    {ps : List AbiParameter} :
    HoldParameters items ps → RetypesParameters R items items' →
    ∃ ps', HoldParameters items' ps' ∧ RespellAll ps ps'
  | .nil, .nil => ⟨[], .nil, .nil⟩
  | .cons hp hps, .cons h hr => by
    obtain ⟨p', hp', hresp⟩ := holdsParameter_of_retypes hR hp h
    obtain ⟨ps', hps', hrest⟩ := holdParameters_of_retypes hR hps hr
    exact ⟨p' :: ps', .cons hp' hps', .cons hresp hrest⟩

end

/-! ## Entries that are read -/

/-- A function, or the constructor, with other blanks around the types of its parameters. -/
structure AbiFunction.Respells (f f' : AbiFunction) : Prop where
  name : f'.name = f.name
  inputs : RespellAll f.inputs f'.inputs
  outputs : RespellAll f.outputs f'.outputs
  stateMutability : f'.stateMutability = f.stateMutability

structure AbiEvent.Respells (e e' : AbiEvent) : Prop where
  name : e'.name = e.name
  inputs : RespellAll e.inputs e'.inputs
  anonymous : e'.anonymous = e.anonymous

structure AbiError.Respells (e e' : AbiError) : Prop where
  name : e'.name = e.name
  inputs : RespellAll e.inputs e'.inputs

/-- A definition whose entries are respelt one by one. -/
structure AbiDefinition.Respells (d d' : AbiDefinition) : Prop where
  constructor : Option.Rel AbiFunction.Respells d.constructor? d'.constructor?
  functions : List.Forall₂ AbiFunction.Respells d.functions d'.functions
  events : List.Forall₂ AbiEvent.Respells d.events d'.events
  errors : List.Forall₂ AbiError.Respells d.errors d'.errors
  hasFallback : d'.hasFallback = d.hasFallback
  hasReceive : d'.hasReceive = d.hasReceive

theorem AbiDefinition.Respells.empty : Respells {} {} :=
  ⟨.none, .nil, .nil, .nil, rfl, rfl⟩

theorem AbiDefinition.Respells.append {d d' e e' : AbiDefinition} (hd : d.Respells d')
    (he : e.Respells e') : (d.append e).Respells (d'.append e') where
  constructor := rel_or he.constructor hd.constructor
  functions := List.rel_append hd.functions he.functions
  events := List.rel_append hd.events he.events
  errors := List.rel_append hd.errors he.errors
  hasFallback := by
    simp only [AbiDefinition.append, hd.hasFallback, he.hasFallback]
  hasReceive := by
    simp only [AbiDefinition.append, hd.hasReceive, he.hasReceive]

section
variable {v v' : Json} (h : RetypesEntry R v v')
include h

theorem RetypesEntry.rel_field? (name : String) :
    Option.Rel (RetypesEntryField R name) (v.field? name) (v'.field? name) := by
  cases h with
  | same => exact rel_refl (.same name) _
  | object h => exact rel_lastField? h name

theorem RetypesEntry.field?_eq {name : String} (hn : name ∉ ["inputs", "outputs"]) :
    v'.field? name = v.field? name := by
  refine eq_of_rel (h.rel_field? name) fun w w' hw => ?_
  cases hw with
  | same => rfl
  | parameters hp => exact absurd hp hn

theorem RetypesEntry.rel_parameters (name : String) :
    Option.Rel (RetypesParameters R) (v.arrayField? name) (v'.arrayField? name) := by
  refine rel_bind (h.rel_field? name) fun w w' hw => ?_
  cases hw with
  | same => exact rel_refl retypesParameters_refl _
  | parameters _ h => exact .some h

theorem RetypesEntry.stringField?_eq {name : String} (hn : name ∉ ["inputs", "outputs"]) :
    v'.stringField? name = v.stringField? name := by
  rw [Json.stringField?, h.field?_eq hn, Json.stringField?]

theorem RetypesEntry.flag_eq {name : String} (hn : name ∉ ["inputs", "outputs"]) :
    v'.flag name = v.flag name := by
  rw [Json.flag, h.field?_eq hn, Json.flag]

theorem RetypesEntry.legacyMutability : legacyMutability v' = legacyMutability v := by
  simp only [AbiBindings.legacyMutability, h.flag_eq (show "constant" ∉ _ by decide),
    h.flag_eq (show "payable" ∉ _ by decide)]

theorem RetypesEntry.entryType : entryType v' = entryType v := by
  rw [AbiBindings.entryType, h.stringField?_eq (by decide), AbiBindings.entryType]

theorem holdParameterField_of_retypes (hR : IsRespelling R) {name : String}
    {ps : List AbiParameter} (hps : HoldParameters ((v.arrayField? name).getD []) ps) :
    ∃ ps', HoldParameters ((v'.arrayField? name).getD []) ps' ∧ RespellAll ps ps' := by
  have hrel := h.rel_parameters name
  generalize v.arrayField? name = x at hps hrel
  generalize v'.arrayField? name = x' at hrel ⊢
  cases hrel with
  | some hrel => exact holdParameters_of_retypes hR hps hrel
  | none =>
    cases hps
    exact ⟨[], .nil, .nil⟩

variable (hR : IsRespelling R)
include hR

theorem holdsCallable_of_retypes {name : String} {f : AbiFunction} (hf : HoldsCallable v name f) :
    ∃ f', HoldsCallable v' name f' ∧ f.Respells f' := by
  obtain ⟨inputs, hi, hri⟩ := holdParameterField_of_retypes h hR hf.inputs
  obtain ⟨outputs, ho, hro⟩ := holdParameterField_of_retypes h hR hf.outputs
  refine ⟨⟨name, inputs, outputs, f.stateMutability⟩, ⟨rfl, hi, ho, ?_⟩, hf.name.symm, hri, hro,
    rfl⟩
  rw [hf.stateMutability, h.stringField?_eq (by decide), h.legacyMutability]

theorem readFunction_of_retypes {f : AbiFunction} (hf : readFunction v = .ok f) :
    ∃ f', readFunction v' = .ok f' ∧ f.Respells f' := by
  obtain ⟨name, hn, hf⟩ := readFunction_eq_ok_iff.1 hf
  obtain ⟨f', hf', hr⟩ := holdsCallable_of_retypes h hR hf
  exact ⟨f', readFunction_eq_ok_iff.2 ⟨name, (h.stringField?_eq (by decide)).trans hn, hf'⟩, hr⟩

theorem readConstructor_of_retypes {f : AbiFunction} (hf : readConstructor v = .ok f) :
    ∃ f', readConstructor v' = .ok f' ∧ f.Respells f' := by
  obtain ⟨f', hf', hr⟩ := holdsCallable_of_retypes h hR (readConstructor_eq_ok_iff.1 hf)
  rw [← h.stringField?_eq (by decide)] at hf'
  exact ⟨f', readConstructor_eq_ok_iff.2 hf', hr⟩

theorem readEvent_of_retypes {e : AbiEvent} (he : readEvent v = .ok e) :
    ∃ e', readEvent v' = .ok e' ∧ e.Respells e' := by
  obtain ⟨hn, hi, ha⟩ := readEvent_eq_ok_iff.1 he
  obtain ⟨inputs, hi, hr⟩ := holdParameterField_of_retypes h hR hi
  refine ⟨⟨e.name, inputs, e.anonymous⟩, readEvent_eq_ok_iff.2 ⟨?_, hi, ?_⟩, rfl, hr, rfl⟩
  · exact (h.stringField?_eq (by decide)).trans hn
  · exact ha.trans (h.flag_eq (by decide)).symm

theorem readError_of_retypes {e : AbiError} (he : readError v = .ok e) :
    ∃ e', readError v' = .ok e' ∧ e.Respells e' := by
  obtain ⟨hn, hi⟩ := readError_eq_ok_iff.1 he
  obtain ⟨inputs, hi, hr⟩ := holdParameterField_of_retypes h hR hi
  exact ⟨⟨e.name, inputs⟩, readError_eq_ok_iff.2 ⟨(h.stringField?_eq (by decide)).trans hn, hi⟩,
    rfl, hr⟩

theorem addEntry_of_retypes {d : AbiDefinition} (hd : AbiDefinition.addEntry {} v = .ok d) :
    ∃ d', AbiDefinition.addEntry {} v' = .ok d' ∧ d.Respells d' := by
  unfold AbiDefinition.addEntry at hd ⊢
  rw [h.entryType]
  generalize AbiBindings.entryType v = kind at hd
  split at hd
  · obtain ⟨c, hc, rfl⟩ := map_eq_ok_iff.1 hd
    obtain ⟨c', hc', hr⟩ := readConstructor_of_retypes h hR hc
    exact ⟨_, map_eq_ok_iff.2 ⟨c', hc', rfl⟩, .some hr, .nil, .nil, .nil, rfl, rfl⟩
  · obtain ⟨f, hf, rfl⟩ := map_eq_ok_iff.1 hd
    obtain ⟨f', hf', hr⟩ := readFunction_of_retypes h hR hf
    exact ⟨_, map_eq_ok_iff.2 ⟨f', hf', rfl⟩, .none, .cons hr .nil, .nil, .nil, rfl, rfl⟩
  · obtain ⟨e, he, rfl⟩ := map_eq_ok_iff.1 hd
    obtain ⟨e', he', hr⟩ := readEvent_of_retypes h hR he
    exact ⟨_, map_eq_ok_iff.2 ⟨e', he', rfl⟩, .none, .nil, .cons hr .nil, .nil, rfl, rfl⟩
  · obtain ⟨e, he, rfl⟩ := map_eq_ok_iff.1 hd
    obtain ⟨e', he', hr⟩ := readError_of_retypes h hR he
    exact ⟨_, map_eq_ok_iff.2 ⟨e', he', rfl⟩, .none, .nil, .nil, .cons hr .nil, rfl, rfl⟩
  · cases hd
    exact ⟨_, rfl, .none, .nil, .nil, .nil, rfl, rfl⟩
  · cases hd
    exact ⟨_, rfl, .none, .nil, .nil, .nil, rfl, rfl⟩
  · cases hd
    exact ⟨{}, by simp, .empty⟩

end

/-! ## ABIs that are read -/

theorem ofEntries_of_retypes (hR : IsRespelling R) {es es' : List Json} {d : AbiDefinition}
    (h : List.Forall₂ (RetypesEntry R) es es') (hd : AbiDefinition.ofEntries es = .ok d) :
    ∃ d', AbiDefinition.ofEntries es' = .ok d' ∧ d.Respells d' := by
  induction h generalizing d with
  | nil =>
    cases hd
    exact ⟨{}, rfl, .empty⟩
  | @cons v v' es es' hv _ ih =>
    rw [← List.singleton_append, AbiDefinition.ofEntries_append,
      AbiDefinition.ofEntries_singleton] at hd
    obtain ⟨a, ha, hd⟩ := bind_eq_ok_iff.1 hd
    obtain ⟨b, hb, rfl⟩ := map_eq_ok_iff.1 hd
    obtain ⟨a', ha', hra⟩ := addEntry_of_retypes hv hR ha
    obtain ⟨b', hb', hrb⟩ := ih hb
    refine ⟨a'.append b', ?_, hra.append hrb⟩
    rw [← List.singleton_append, AbiDefinition.ofEntries_append,
      AbiDefinition.ofEntries_singleton, ha', hb']
    rfl

theorem exists_array_of_ofJson {fields : List (String × Json)} {d : AbiDefinition}
    (h : AbiDefinition.ofJson (.object fields) = .ok d) :
    ∃ es, Json.lastField? "abi" fields = some (.array es) := by
  simp only [AbiDefinition.ofJson] at h
  split at h
  · cases h
  · rename_i es hes
    exact ⟨es, hes⟩
  · cases h

theorem ofJson_object_of_retypes (hR : IsRespelling R) {fields fields' : List (String × Json)}
    {d : AbiDefinition} (h : RelatesFields (RetypesArtifactField R) fields fields')
    (hd : AbiDefinition.ofJson (.object fields) = .ok d) :
    ∃ d', AbiDefinition.ofJson (.object fields') = .ok d' ∧ d.Respells d' := by
  obtain ⟨es, hes⟩ := exists_array_of_ofJson hd
  rw [ofJson_object hes] at hd
  obtain ⟨e, he, rfl⟩ := map_eq_ok_iff.1 hd
  obtain ⟨w, hw, hrel⟩ := exists_of_rel (rel_lastField? h "abi") hes
  obtain ⟨es', rfl, hes'⟩ : ∃ es', w = .array es' ∧ List.Forall₂ (RetypesEntry R) es es' := by
    cases hrel with
    | same => exact ⟨es, rfl, List.forall₂_same.2 fun v _ => .same v⟩
    | abi _ h => exact ⟨_, rfl, h⟩
  obtain ⟨e', he', hr⟩ := ofEntries_of_retypes hR hes' he
  rw [ofJson_object hw]
  exact ⟨_, map_eq_ok_iff.2 ⟨e', he', rfl⟩, hr.constructor, hr.functions, hr.events, hr.errors,
    hr.hasFallback, hr.hasReceive⟩

theorem ofJson_of_retypes (hR : IsRespelling R) {v v' : Json} {d : AbiDefinition}
    (h : Retypes R v v') (hd : AbiDefinition.ofJson v = .ok d) :
    ∃ d', AbiDefinition.ofJson v' = .ok d' ∧ d.Respells d' := by
  cases h with
  | array h => exact ofEntries_of_retypes hR h hd
  | object h => exact ofJson_object_of_retypes hR h hd
  | same =>
    cases v with
    | array es => exact ofEntries_of_retypes hR (List.forall₂_same.2 fun v _ => .same v) hd
    | object fields =>
      exact ofJson_object_of_retypes hR (List.forall₂_same.2 fun f _ => ⟨rfl, .same _ _⟩) hd
    | null | bool | integer | real | string => cases hd

/-! ## Back again -/

mutual

theorem RetypesParameter.flip {v v' : Json} :
    RetypesParameter R v v' → RetypesParameter (flip R) v' v
  | .same v => .same v
  | .object h => .object (h.flip)

theorem RetypesFields.flip {fields fields' : List (String × Json)} :
    RetypesFields R fields fields' → RetypesFields (flip R) fields' fields
  | .nil => .nil
  | .cons h hr => .cons h.flip hr.flip

theorem RetypesField.flip {name : String} {w w' : Json} :
    RetypesField R name w w' → RetypesField (flip R) name w' w
  | .same name w => .same name w
  | .type hn h => .type hn h
  | .components hn h => .components hn h.flip

theorem RetypesParameters.flip {items items' : List Json} :
    RetypesParameters R items items' → RetypesParameters (flip R) items' items
  | .nil => .nil
  | .cons h hr => .cons h.flip hr.flip

end

theorem RelatesFields.flip {P Q : String → Json → Json → Prop}
    {fields fields' : List (String × Json)} (h : RelatesFields P fields fields')
    (hPQ : ∀ name w w', P name w w' → Q name w' w) : RelatesFields Q fields' fields :=
  (List.Forall₂.flip h).imp fun _ _ hf => ⟨hf.1.symm, hf.1 ▸ hPQ _ _ _ hf.2⟩

theorem RetypesEntry.flip {v v' : Json} (h : RetypesEntry R v v') :
    RetypesEntry (flip R) v' v := by
  cases h with
  | same => exact .same _
  | object h =>
    refine .object (h.flip fun name w w' hw => ?_)
    cases hw with
    | same => exact .same _ _
    | parameters hn h => exact .parameters hn h.flip

theorem Retypes.flip {v v' : Json} (h : Retypes R v v') : Retypes (flip R) v' v := by
  cases h with
  | same => exact .same _
  | array h => exact .array ((List.Forall₂.flip h).imp fun _ _ he => he.flip)
  | object h =>
    refine .object (h.flip fun name w w' hw => ?_)
    cases hw with
    | same => exact .same _ _
    | abi hn h => exact .abi hn ((List.Forall₂.flip h).imp fun _ _ he => he.flip)

end

end AbiBindings
