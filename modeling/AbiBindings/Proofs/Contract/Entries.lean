import AbiBindings.Contract
import AbiBindings.Proofs.EvmType.Node

/-!
# The entries of a contract

A contract is made from an ABI entry by entry: each one keeps its place and its data, and its
parameters get the types that they spell.  The types of all parameters, from every position of a
signature, are what the structs of the contract are collected from.

    Contract.ofAbi name abi = .ok c ↔ the entries of c are those of abi, with the identifiers of
      their names and the structs of all signatures                     (ofAbi_eq_ok_iff)
    t ∈ c.signatureTypes ↔ a parameter of c has type t                  (mem_signatureTypes_iff)
-/

namespace AbiBindings

open StructCollection

/-! ## Parameters -/

/-- A parameter spells a type, and the structs in the type have named components. -/
structure AbiParameter.HasType (p : AbiParameter) (t : EvmType) : Prop where
  spelled : EvmType.ofParameter p = .ok t
  named : t.NamesComponents

/-- A component is a parameter with its type. -/
structure AbiParameter.Describes (p : AbiParameter) (c : Component) : Prop where
  name : c.name = p.name
  type : p.HasType c.type

/-- An input of an event is a parameter with its type, indexed if the parameter is. -/
structure AbiParameter.DescribesInput (p : AbiParameter) (i : EventInput) : Prop where
  component : p.Describes i.component
  indexed : i.indexed = p.indexed

theorem parameterType_eq_ok_iff {p : AbiParameter} {t : EvmType} :
    parameterType p = .ok t ↔ EvmType.ofParameter p = .ok t := by
  rw [parameterType, withinNamed_eq_ok_iff, mapError_eq_ok_iff]

/-- Parameter lists are read item by item, then the types are checked as a whole. -/
theorem checkedTypes_eq_ok_iff {β : Type} (make : AbiParameter → EvmType → β)
    (component : β → Component) {ps : List AbiParameter} {bs : List β} :
    (do
      let bs ← ps.mapM fun p => do
        let t ← parameterType p
        return make p t
      checkNamed (bs.map component)
      return bs) = Except.ok bs ↔
      List.Forall₂ (fun p b => (∃ t, EvmType.ofParameter p = .ok t ∧ make p t = b) ∧
        (component b).type.NamesComponents) ps bs := by
  rw [forall₂_and_right_iff,
    ← List.forall_mem_map (P := fun c : Component => c.type.NamesComponents),
    ← checkNamed_eq_ok_iff]
  simp only [bind_eq_ok_iff, pure_eq_ok_iff, mapM_eq_ok_iff, parameterType_eq_ok_iff]
  constructor
  · rintro ⟨_, hl, _, hn, rfl⟩
    exact ⟨hl, hn⟩
  · rintro ⟨hl, hn⟩
    exact ⟨bs, hl, (), hn, rfl⟩

theorem namedTypes_eq_ok_iff {ps : List AbiParameter} {cs : List Component} :
    namedTypes ps = .ok cs ↔ List.Forall₂ AbiParameter.Describes ps cs := by
  have h := @checkedTypes_eq_ok_iff _ (fun p t => ⟨p.name, t⟩) (id : Component → Component) ps cs
  simp only [List.map_id] at h
  rw [namedTypes, h]
  refine forall₂_iff_of_iff fun p c => ?_
  constructor
  · rintro ⟨⟨t, ht, rfl⟩, hn⟩
    exact ⟨rfl, ht, hn⟩
  · rintro ⟨hname, ht⟩
    exact ⟨⟨c.type, ht.spelled, by rw [← hname]⟩, ht.named⟩

theorem eventInputs_eq_ok_iff {ps : List AbiParameter} {inputs : List EventInput} :
    eventInputs ps = .ok inputs ↔ List.Forall₂ AbiParameter.DescribesInput ps inputs := by
  rw [eventInputs, checkedTypes_eq_ok_iff]
  refine forall₂_iff_of_iff fun p i => ?_
  constructor
  · rintro ⟨⟨t, ht, rfl⟩, hn⟩
    exact ⟨⟨rfl, ht, hn⟩, rfl⟩
  · rintro ⟨⟨hname, ht⟩, hi⟩
    exact ⟨⟨i.type, ht.spelled, by rw [← hi, ← hname]; rfl⟩, ht.named⟩

/-! ## Entries -/

/-- A function with the data and the parameters of an entry. -/
structure AbiFunction.Describes (f : AbiFunction) (g : ContractFunction) : Prop where
  name : g.name = f.name
  stateMutability : g.stateMutability = f.stateMutability
  inputs : List.Forall₂ AbiParameter.Describes f.inputs g.inputs
  outputs : List.Forall₂ AbiParameter.Describes f.outputs g.outputs

/-- What deploying takes, with the data and the inputs of an entry. -/
structure AbiFunction.DescribesConstructor (f : AbiFunction) (k : ContractConstructor) : Prop where
  stateMutability : k.stateMutability = f.stateMutability
  inputs : List.Forall₂ AbiParameter.Describes f.inputs k.inputs

/-- An event with the data and the inputs of an entry. -/
structure AbiEvent.Describes (e : AbiEvent) (g : ContractEvent) : Prop where
  name : g.name = e.name
  anonymous : g.anonymous = e.anonymous
  inputs : List.Forall₂ AbiParameter.DescribesInput e.inputs g.inputs

/-- An error with the data and the inputs of an entry. -/
structure AbiError.Describes (e : AbiError) (g : ContractError) : Prop where
  name : g.name = e.name
  inputs : List.Forall₂ AbiParameter.Describes e.inputs g.inputs

theorem ContractConstructor.ofAbi_eq_ok_iff {f : AbiFunction} {k : ContractConstructor} :
    ContractConstructor.ofAbi f = .ok k ↔ f.DescribesConstructor k := by
  simp only [ContractConstructor.ofAbi, bind_eq_ok_iff, pure_eq_ok_iff, within_eq_ok_iff,
    namedTypes_eq_ok_iff]
  constructor
  · rintro ⟨inputs, hi, rfl⟩
    exact ⟨rfl, hi⟩
  · rintro ⟨hm, hi⟩
    exact ⟨k.inputs, hi, by rw [← hm]⟩

theorem ContractFunction.ofAbi_eq_ok_iff (f : AbiFunction) (id : String) (g : ContractFunction) :
    ContractFunction.ofAbi f id = .ok g ↔ f.Describes g ∧ g.identifier = id := by
  simp only [ContractFunction.ofAbi, bind_eq_ok_iff, pure_eq_ok_iff, within_eq_ok_iff,
    namedTypes_eq_ok_iff]
  constructor
  · rintro ⟨inputs, hi, outputs, ho, rfl⟩
    exact ⟨⟨rfl, rfl, hi, ho⟩, rfl⟩
  · rintro ⟨⟨hn, hm, hi, ho⟩, rfl⟩
    exact ⟨g.inputs, hi, g.outputs, ho, by rw [← hn, ← hm]⟩

theorem ContractEvent.ofAbi_eq_ok_iff (e : AbiEvent) (id : String) (g : ContractEvent) :
    ContractEvent.ofAbi e id = .ok g ↔ e.Describes g ∧ g.identifier = id := by
  simp only [ContractEvent.ofAbi, bind_eq_ok_iff, pure_eq_ok_iff, within_eq_ok_iff,
    eventInputs_eq_ok_iff]
  constructor
  · rintro ⟨inputs, hi, rfl⟩
    exact ⟨⟨rfl, rfl, hi⟩, rfl⟩
  · rintro ⟨⟨hn, ha, hi⟩, rfl⟩
    exact ⟨g.inputs, hi, by rw [← hn, ← ha]⟩

theorem ContractError.ofAbi_eq_ok_iff (e : AbiError) (id : String) (g : ContractError) :
    ContractError.ofAbi e id = .ok g ↔ e.Describes g ∧ g.identifier = id := by
  simp only [ContractError.ofAbi, bind_eq_ok_iff, pure_eq_ok_iff, within_eq_ok_iff,
    namedTypes_eq_ok_iff]
  constructor
  · rintro ⟨inputs, hi, rfl⟩
    exact ⟨⟨rfl, hi⟩, rfl⟩
  · rintro ⟨⟨hn, hi⟩, rfl⟩
    exact ⟨g.inputs, hi, by rw [← hn]⟩

/-! ## Identifiers -/

section
variable {α β : Type} {kind : EntryKind} {name : α → String} {make : α → String → Checked β}
  {items : List α} {bs : List β}

/-- Items that are made with identifiers beside them. -/
theorem forall₂_zip_iff (R : α → β → Prop) (identifier : β → String) {ids : List String}
    (hl : ids.length = items.length) :
    List.Forall₂ (fun x b => R x.1 b ∧ identifier b = x.2) (items.zip ids) bs ↔
      List.Forall₂ R items bs ∧ ids = bs.map identifier := by
  induction items generalizing ids bs with
  | nil =>
    cases List.length_eq_zero_iff.1 hl
    cases bs <;> simp
  | cons a items ih =>
    cases ids with
    | nil => cases hl
    | cons id ids =>
      cases bs with
      | nil => simp
      | cons b bs =>
        rw [List.zip_cons_cons, List.forall₂_cons, List.forall₂_cons, ih (Nat.succ.inj hl),
          List.map_cons, List.cons.injEq, @eq_comm _ id]
        exact and_and_and_comm

theorem identified_eq_ok_iff {R : α → β → Prop} {identifier : β → String}
    (h : ∀ a id b, make a id = .ok b ↔ R a b ∧ identifier b = id) :
    identified kind name make items = .ok bs ↔
      List.Forall₂ R items bs ∧
        resolveNames kind (items.map name) = .ok (bs.map identifier) := by
  simp only [identified, bind_eq_ok_iff, mapError_eq_ok_iff, mapM_eq_ok_iff, h]
  have hzip {ids : List String} (hids : resolveNames kind (items.map name) = .ok ids) :=
    @forall₂_zip_iff _ _ items bs R identifier ids
      ((length_of_resolveNames hids).trans (List.length_map _))
  constructor
  · rintro ⟨ids, hids, hzipped⟩
    obtain ⟨hbs, rfl⟩ := (hzip hids).1 hzipped
    exact ⟨hbs, hids⟩
  · rintro ⟨hbs, hids⟩
    exact ⟨_, hids, (hzip hids).2 ⟨hbs, rfl⟩⟩

end

/-! ## Contracts -/

/-- The entries of a contract are those of the ABI, one to one and in order. -/
structure AbiDefinition.Describes (abi : AbiDefinition) (c : Contract) : Prop where
  constructor : Option.Rel AbiFunction.DescribesConstructor abi.constructor? c.constructor?
  functions : List.Forall₂ AbiFunction.Describes abi.functions c.functions
  events : List.Forall₂ AbiEvent.Describes abi.events c.events
  errors : List.Forall₂ AbiError.Describes abi.errors c.errors
  fallback : c.hasFallback = abi.hasFallback
  receive : c.hasReceive = abi.hasReceive

/-- The entries of a contract have the identifiers that their names give, kind by kind. -/
structure AbiDefinition.Identifies (abi : AbiDefinition) (c : Contract) : Prop where
  functions : resolveNames .function (abi.functions.map (·.name)) =
    .ok (c.functions.map (·.identifier))
  events : resolveNames .event (abi.events.map (·.name)) = .ok (c.events.map (·.identifier))
  errors : resolveNames .error (abi.errors.map (·.name)) = .ok (c.errors.map (·.identifier))

section
variable {name : String} {abi : AbiDefinition} {c : Contract}

theorem entriesOfAbi_eq_ok_iff :
    Contract.entriesOfAbi name abi = .ok c ↔
      c.name = name ∧ abi.Describes c ∧ abi.Identifies c ∧ c.structs = [] := by
  simp only [Contract.entriesOfAbi, bind_eq_ok_iff, pure_eq_ok_iff, optionMapM_eq_ok_iff,
    ContractConstructor.ofAbi_eq_ok_iff, identified_eq_ok_iff ContractFunction.ofAbi_eq_ok_iff,
    identified_eq_ok_iff ContractEvent.ofAbi_eq_ok_iff,
    identified_eq_ok_iff ContractError.ofAbi_eq_ok_iff]
  constructor
  · rintro ⟨k, hk, functions, ⟨hf, hfi⟩, events, ⟨he, hei⟩, errors, ⟨hr, hri⟩, rfl⟩
    exact ⟨rfl, ⟨hk, hf, he, hr, rfl, rfl⟩, ⟨hfi, hei, hri⟩, rfl⟩
  · rintro ⟨hn, h, hi, hs⟩
    refine ⟨_, h.constructor, _, ⟨h.functions, hi.functions⟩, _, ⟨h.events, hi.events⟩, _,
      ⟨h.errors, hi.errors⟩, ?_⟩
    rw [← hn, ← hs, ← h.fallback, ← h.receive]

theorem ofAbi_eq_ok_iff :
    Contract.ofAbi name abi = .ok c ↔
      c.name = name ∧ abi.Describes c ∧ abi.Identifies c ∧
        ofTypes c.signatureTypes = .ok c.structs := by
  simp only [Contract.ofAbi, Contract.withStructs, within_eq_ok_iff, bind_eq_ok_iff,
    pure_eq_ok_iff, mapError_eq_ok_iff, entriesOfAbi_eq_ok_iff]
  constructor
  · rintro ⟨e, ⟨hn, h, hi, -⟩, structs, hs, rfl⟩
    exact ⟨hn, ⟨h.1, h.2, h.3, h.4, h.5, h.6⟩, ⟨hi.1, hi.2, hi.3⟩, hs⟩
  · rintro ⟨hn, h, hi, hs⟩
    exact ⟨{ c with structs := [] },
      ⟨hn, ⟨h.1, h.2, h.3, h.4, h.5, h.6⟩, ⟨hi.1, hi.2, hi.3⟩, rfl⟩, c.structs, hs, rfl⟩

theorem name_ofAbi (h : Contract.ofAbi name abi = .ok c) : c.name = name :=
  (ofAbi_eq_ok_iff.1 h).1

theorem describes_ofAbi (h : Contract.ofAbi name abi = .ok c) : abi.Describes c :=
  (ofAbi_eq_ok_iff.1 h).2.1

theorem ofTypes_of_ofAbi (h : Contract.ofAbi name abi = .ok c) :
    ofTypes c.signatureTypes = .ok c.structs :=
  (ofAbi_eq_ok_iff.1 h).2.2.2

end

/-! ## Types of signatures -/

/-- A parameter of a contract has the type. -/
inductive Contract.HasType (c : Contract) : EvmType → Prop where
  | constructorInput {k : ContractConstructor} {i : Component} (hk : c.constructor? = some k)
    (hi : i ∈ k.inputs) : c.HasType i.type
  | functionInput {f : ContractFunction} {i : Component} (hf : f ∈ c.functions)
    (hi : i ∈ f.inputs) : c.HasType i.type
  | functionOutput {f : ContractFunction} {o : Component} (hf : f ∈ c.functions)
    (ho : o ∈ f.outputs) : c.HasType o.type
  | eventInput {e : ContractEvent} {i : EventInput} (he : e ∈ c.events) (hi : i ∈ e.inputs) :
    c.HasType i.type
  | errorInput {e : ContractError} {i : Component} (he : e ∈ c.errors) (hi : i ∈ e.inputs) :
    c.HasType i.type

theorem mem_signatureTypes_iff {c : Contract} {t : EvmType} :
    t ∈ c.signatureTypes ↔ c.HasType t := by
  simp only [Contract.signatureTypes, List.mem_append, List.mem_flatMap, List.mem_map]
  constructor
  · rintro (((h | ⟨f, hf, ⟨i, hi, rfl⟩ | ⟨o, ho, rfl⟩⟩) | ⟨e, he, i, hi, rfl⟩) |
      ⟨e, he, i, hi, rfl⟩)
    · split at h
      · rename_i k hk
        obtain ⟨i, hi, rfl⟩ := List.mem_map.1 h
        exact .constructorInput hk hi
      · cases h
    · exact .functionInput hf hi
    · exact .functionOutput hf ho
    · exact .eventInput he hi
    · exact .errorInput he hi
  · rintro (⟨hk, hi⟩ | ⟨hf, hi⟩ | ⟨hf, ho⟩ | ⟨he, hi⟩ | ⟨he, hi⟩)
    · rw [hk]
      exact .inl (.inl (.inl (List.mem_map_of_mem hi)))
    · exact .inl (.inl (.inr ⟨_, hf, .inl ⟨_, hi, rfl⟩⟩))
    · exact .inl (.inl (.inr ⟨_, hf, .inr ⟨_, ho, rfl⟩⟩))
    · exact .inl (.inr ⟨_, he, _, hi, rfl⟩)
    · exact .inr ⟨_, he, _, hi, rfl⟩

/-- The parameters of all entries of an ABI, in the order of a contract's types. -/
def AbiDefinition.parameters (abi : AbiDefinition) : List AbiParameter :=
  (match abi.constructor? with
    | some k => k.inputs
    | none => []) ++
  abi.functions.flatMap (fun f => f.inputs ++ f.outputs) ++
  abi.events.flatMap (·.inputs) ++
  abi.errors.flatMap (·.inputs)

theorem AbiDefinition.forall_mem_parameters {abi : AbiDefinition} {P : AbiParameter → Prop} :
    (∀ p ∈ abi.parameters, P p) ↔
      (∀ k ∈ abi.constructor?, ∀ p ∈ k.inputs, P p) ∧
        (∀ f ∈ abi.functions, ∀ p ∈ f.inputs ++ f.outputs, P p) ∧
        (∀ e ∈ abi.events, ∀ p ∈ e.inputs, P p) ∧ ∀ e ∈ abi.errors, ∀ p ∈ e.inputs, P p := by
  simp only [AbiDefinition.parameters, List.forall_mem_append, List.forall_mem_flatMap, and_assoc]
  refine and_congr_left fun _ => ?_
  cases abi.constructor? with
  | none => simp
  | some k => simp

theorem forall₂_types {ps : List AbiParameter} {cs : List Component}
    (h : List.Forall₂ AbiParameter.Describes ps cs) :
    List.Forall₂ AbiParameter.HasType ps (cs.map (·.type)) :=
  List.forall₂_map_right_iff.2 (h.imp fun _ _ hp => hp.type)

theorem forall₂_inputTypes {ps : List AbiParameter} {is : List EventInput}
    (h : List.Forall₂ AbiParameter.DescribesInput ps is) :
    List.Forall₂ AbiParameter.HasType ps (is.map (·.type)) :=
  List.forall₂_map_right_iff.2 (h.imp fun _ _ hp => hp.component.type)

/-- The types of a contract's signatures are those of the parameters of its ABI. -/
theorem AbiDefinition.Describes.types {abi : AbiDefinition} {c : Contract} (h : abi.Describes c) :
    List.Forall₂ AbiParameter.HasType abi.parameters c.signatureTypes := by
  refine List.rel_append (List.rel_append (List.rel_append ?_ ?_) ?_) ?_
  · have hk := h.constructor
    generalize abi.constructor? = f? at hk
    generalize c.constructor? = k? at hk
    cases hk with
    | some hk => exact forall₂_types hk.inputs
    | none => exact .nil
  · exact List.rel_flatMap h.functions fun _ _ hf =>
      List.rel_append (forall₂_types hf.inputs) (forall₂_types hf.outputs)
  · exact List.rel_flatMap h.events fun _ _ he => forall₂_inputTypes he.inputs
  · exact List.rel_flatMap h.errors fun _ _ he => forall₂_types he.inputs

theorem AbiDefinition.Describes.exists_parameter {abi : AbiDefinition} {c : Contract}
    (h : abi.Describes c) {t : EvmType} (ht : c.HasType t) : ∃ p ∈ abi.parameters, p.HasType t :=
  exists_left_of_forall₂ h.types (mem_signatureTypes_iff.2 ht)

/-- A struct stands in the type of a parameter, at some depth. -/
def Contract.Mentions (c : Contract) (s : StructType) : Prop :=
  ∃ t, c.HasType t ∧ s.toType.Occurs t

theorem Contract.mentions_iff {c : Contract} {s : StructType} :
    c.Mentions s ↔ s ∈ c.signatureTypes.flatMap EvmType.structsIn := by
  simp only [Contract.Mentions, List.mem_flatMap, mem_signatureTypes_iff,
    EvmType.mem_structsIn_iff]

end AbiBindings
