import AbiBindings.Proofs.Contract.WellFormed

/-!
# Which ABIs are accepted

Names and structs are gone through in order, up to the first that is wrong.  Whether there is one
does not depend on the order: what is asked of an ABI is asked of each of its parameters, of how
often its names occur, and of any two structs that its parameters mention.  All of this passes on to
an ABI with fewer entries.

    (∃ c, Contract.ofAbi name abi = .ok c) ↔ abi.IsAcceptable   (exists_ofAbi_iff)
    an accepted ABI is accepted in any order, with the same
      structs, and so is every part of it                       (acceptance_of_reorder_or_part)
-/

namespace AbiBindings

open StructCollection

/-! ## Conditions -/

/-- A struct stands in the type of a parameter, at some depth. -/
def AbiDefinition.Mentions (abi : AbiDefinition) (s : StructType) : Prop :=
  ∃ p ∈ abi.parameters, ∃ t, p.HasType t ∧ s.toType.Occurs t

/-- What is asked of an ABI, whatever the order of its entries. -/
structure AbiDefinition.IsAcceptable (abi : AbiDefinition) : Prop where
  parameters : ∀ p ∈ abi.parameters, ∃ t, p.HasType t
  functions : NumberedApart (abi.functions.map (·.name))
  events : NumberedApart (abi.events.map (·.name))
  errors : NumberedApart (abi.errors.map (·.name))
  /-- Structs of one name have one shape. -/
  structs : ∀ a b, abi.Mentions a → abi.Mentions b → a.name = b.name → a.shape = b.shape

section
variable {name : String} {abi : AbiDefinition} {c : Contract}

theorem AbiParameter.HasType.unique {p : AbiParameter} {t u : EvmType} (ht : p.HasType t)
    (hu : p.HasType u) : t = u :=
  Except.ok.inj (ht.spelled.symm.trans hu.spelled)

/-- A contract mentions the structs of its ABI. -/
theorem AbiDefinition.Describes.mentions_iff (h : abi.Describes c) {s : StructType} :
    c.Mentions s ↔ abi.Mentions s := by
  constructor
  · rintro ⟨t, ht, hs⟩
    obtain ⟨p, hp, hpt⟩ := h.exists_parameter ht
    exact ⟨p, hp, t, hpt, hs⟩
  · rintro ⟨p, hp, t, hpt, hs⟩
    obtain ⟨u, hu, hpu⟩ := exists_right_of_forall₂ h.types hp
    rw [hpt.unique hpu] at hs
    exact ⟨u, mem_signatureTypes_iff.1 hu, hs⟩

end

/-! ## Entries -/

section
variable {ps : List AbiParameter}

theorem exists_namedTypes_iff :
    (∃ cs, namedTypes ps = .ok cs) ↔ ∀ p ∈ ps, ∃ t, p.HasType t := by
  simp only [namedTypes_eq_ok_iff, exists_forall₂_iff]
  refine forall₂_congr fun p _ => ?_
  constructor
  · rintro ⟨c, hc⟩
    exact ⟨c.type, hc.type⟩
  · rintro ⟨t, ht⟩
    exact ⟨⟨p.name, t⟩, rfl, ht⟩

theorem exists_eventInputs_iff :
    (∃ inputs, eventInputs ps = .ok inputs) ↔ ∀ p ∈ ps, ∃ t, p.HasType t := by
  simp only [eventInputs_eq_ok_iff, exists_forall₂_iff]
  refine forall₂_congr fun p _ => ?_
  constructor
  · rintro ⟨i, hi⟩
    exact ⟨i.type, hi.component.type⟩
  · rintro ⟨t, ht⟩
    exact ⟨⟨p.name, t, p.indexed⟩, ⟨rfl, ht⟩, rfl⟩

theorem ContractConstructor.exists_ofAbi_iff {f : AbiFunction} :
    (∃ k, ContractConstructor.ofAbi f = .ok k) ↔ ∀ p ∈ f.inputs, ∃ t, p.HasType t := by
  simp only [ContractConstructor.ofAbi, exists_bind_eq_ok_iff, within_eq_ok_iff, pure_eq_ok_iff,
    exists_eq', and_true, exists_namedTypes_iff]

theorem ContractFunction.exists_ofAbi_iff (f : AbiFunction) (id : String) :
    (∃ g, ContractFunction.ofAbi f id = .ok g) ↔
      ∀ p ∈ f.inputs ++ f.outputs, ∃ t, p.HasType t := by
  simp only [ContractFunction.ofAbi, exists_bind_eq_ok_iff, within_eq_ok_iff, pure_eq_ok_iff,
    exists_eq', and_true, exists_and_right, exists_namedTypes_iff, List.forall_mem_append]

theorem ContractEvent.exists_ofAbi_iff (e : AbiEvent) (id : String) :
    (∃ g, ContractEvent.ofAbi e id = .ok g) ↔ ∀ p ∈ e.inputs, ∃ t, p.HasType t := by
  simp only [ContractEvent.ofAbi, exists_bind_eq_ok_iff, within_eq_ok_iff, pure_eq_ok_iff,
    exists_eq', and_true, exists_eventInputs_iff]

theorem ContractError.exists_ofAbi_iff (e : AbiError) (id : String) :
    (∃ g, ContractError.ofAbi e id = .ok g) ↔ ∀ p ∈ e.inputs, ∃ t, p.HasType t := by
  simp only [ContractError.ofAbi, exists_bind_eq_ok_iff, within_eq_ok_iff, pure_eq_ok_iff,
    exists_eq', and_true, exists_namedTypes_iff]

end

/-- Entries of one kind can be made if their names can be numbered and each of them can be made
with any identifier. -/
theorem exists_identified_iff {α β : Type} {kind : EntryKind} {name : α → String}
    {make : α → String → Checked β} {items : List α} {P : α → Prop}
    (h : ∀ a id, (∃ b, make a id = .ok b) ↔ P a) :
    (∃ bs, identified kind name make items = .ok bs) ↔
      NumberedApart (items.map name) ∧ ∀ a ∈ items, P a := by
  have hitems {ids : List String} (hids : resolveNames kind (items.map name) = .ok ids) :
      (∀ x ∈ items.zip ids, P x.1) ↔ ∀ a ∈ items, P a := by
    have hzip : (items.zip ids).map Prod.fst = items := by
      refine List.map_fst_zip (Nat.le_of_eq ?_)
      rw [length_of_resolveNames hids, List.length_map]
    rw [← List.forall_mem_map, hzip]
  simp only [identified, exists_bind_eq_ok_iff, mapError_eq_ok_iff, exists_mapM_eq_ok_iff, h]
  rw [← exists_resolveNames_iff kind]
  constructor
  · rintro ⟨ids, hids, hp⟩
    exact ⟨⟨ids, hids⟩, (hitems hids).1 hp⟩
  · rintro ⟨⟨ids, hids⟩, hp⟩
    exact ⟨ids, hids, (hitems hids).2 hp⟩

/-! ## Acceptance -/

section
variable {name : String} {abi : AbiDefinition} {c : Contract}

theorem exists_entriesOfAbi_iff :
    (∃ e, Contract.entriesOfAbi name abi = .ok e) ↔
      (∀ p ∈ abi.parameters, ∃ t, p.HasType t) ∧ NumberedApart (abi.functions.map (·.name)) ∧
        NumberedApart (abi.events.map (·.name)) ∧ NumberedApart (abi.errors.map (·.name)) := by
  simp only [Contract.entriesOfAbi, exists_bind_eq_ok_iff, pure_eq_ok_iff, exists_eq', and_true,
    exists_and_right, exists_optionMapM_eq_ok_iff, ContractConstructor.exists_ofAbi_iff,
    exists_identified_iff ContractFunction.exists_ofAbi_iff,
    exists_identified_iff ContractEvent.exists_ofAbi_iff,
    exists_identified_iff ContractError.exists_ofAbi_iff, AbiDefinition.forall_mem_parameters]
  constructor
  · rintro ⟨hk, ⟨hfn, hf⟩, ⟨hen, he⟩, hrn, hr⟩
    exact ⟨⟨hk, hf, he, hr⟩, hfn, hen, hrn⟩
  · rintro ⟨⟨hk, hf, he, hr⟩, hfn, hen, hrn⟩
    exact ⟨hk, ⟨hfn, hf⟩, ⟨hen, he⟩, hrn, hr⟩

theorem AbiDefinition.Describes.oneShapePerName_iff (h : abi.Describes c) :
    OneShapePerName (c.signatureTypes.flatMap EvmType.structsIn) ↔
      ∀ a b, abi.Mentions a → abi.Mentions b → a.name = b.name → a.shape = b.shape := by
  simp only [OneShapePerName, ← Contract.mentions_iff, h.mentions_iff]
  exact ⟨fun hs a b ha hb => hs a ha b hb, fun hs a ha b hb => hs a b ha hb⟩

theorem exists_ofAbi_iff : (∃ c, Contract.ofAbi name abi = .ok c) ↔ abi.IsAcceptable := by
  simp only [Contract.ofAbi, Contract.withStructs, within_eq_ok_iff, exists_bind_eq_ok_iff,
    pure_eq_ok_iff, exists_eq', exists_eq, and_true, mapError_eq_ok_iff, ofTypes_eq_ok_iff,
    exists_and_left]
  -- The entries are made first; the structs in their types are those that the ABI mentions.
  constructor
  · rintro ⟨e, he, hs⟩
    obtain ⟨hp, hf, hv, hr⟩ := exists_entriesOfAbi_iff.1 ⟨e, he⟩
    have hd : abi.Describes e := (entriesOfAbi_eq_ok_iff.1 he).2.1
    exact ⟨hp, hf, hv, hr, hd.oneShapePerName_iff.1 hs⟩
  · rintro ⟨hp, hf, hv, hr, hs⟩
    obtain ⟨e, he⟩ := exists_entriesOfAbi_iff.2 ⟨hp, hf, hv, hr⟩
    have hd : abi.Describes e := (entriesOfAbi_eq_ok_iff.1 he).2.1
    exact ⟨e, he, hd.oneShapePerName_iff.2 hs⟩

end

/-! ## Order and omission -/

/-- The same entries, those of each kind in any order. -/
structure AbiDefinition.Reorders (abi' abi : AbiDefinition) : Prop where
  constructor : abi'.constructor? = abi.constructor?
  functions : abi'.functions.Perm abi.functions
  events : abi'.events.Perm abi.events
  errors : abi'.errors.Perm abi.errors

/-- Some of the entries, in their order. -/
structure AbiDefinition.IsPartOf (abi' abi : AbiDefinition) : Prop where
  constructor : abi'.constructor? = none ∨ abi'.constructor? = abi.constructor?
  functions : abi'.functions.Sublist abi.functions
  events : abi'.events.Sublist abi.events
  errors : abi'.errors.Sublist abi.errors

/-- Some of the entries, in any order. -/
structure AbiDefinition.TakesFrom (abi' abi : AbiDefinition) : Prop where
  constructor : ∀ k ∈ abi'.constructor?, k ∈ abi.constructor?
  functions : abi'.functions.Subperm abi.functions
  events : abi'.events.Subperm abi.events
  errors : abi'.errors.Subperm abi.errors

/-- A struct of the contract has the name and the shape. -/
def Contract.HasStruct (c : Contract) (n : StructName) (shape : String) : Prop :=
  ∃ k ∈ c.structs, k.name = n ∧ k.shape = shape

section
variable {name : String} {abi abi' : AbiDefinition} {c : Contract}

theorem AbiDefinition.Reorders.symm (h : abi'.Reorders abi) : abi.Reorders abi' :=
  ⟨h.constructor.symm, h.functions.symm, h.events.symm, h.errors.symm⟩

theorem AbiDefinition.Reorders.takesFrom (h : abi'.Reorders abi) : abi'.TakesFrom abi :=
  ⟨fun _ hk => h.constructor ▸ hk, h.functions.subperm, h.events.subperm, h.errors.subperm⟩

theorem AbiDefinition.IsPartOf.takesFrom (h : abi'.IsPartOf abi) : abi'.TakesFrom abi := by
  refine ⟨fun k hk => ?_, h.functions.subperm, h.events.subperm, h.errors.subperm⟩
  rcases h.constructor with hn | he
  · rw [hn] at hk
    cases hk
  · exact he ▸ hk

theorem AbiDefinition.TakesFrom.parameters_subset (h : abi'.TakesFrom abi) :
    ∀ p ∈ abi'.parameters, p ∈ abi.parameters := by
  obtain ⟨hk, hf, he, hr⟩ := forall_mem_parameters.1 fun p (hp : p ∈ abi.parameters) => hp
  exact forall_mem_parameters.2 ⟨fun k hmem => hk k (h.constructor k hmem),
    fun f hmem => hf f (h.functions.subset hmem), fun e hmem => he e (h.events.subset hmem),
    fun e hmem => hr e (h.errors.subset hmem)⟩

theorem AbiDefinition.TakesFrom.mentions (h : abi'.TakesFrom abi) {s : StructType}
    (hs : abi'.Mentions s) : abi.Mentions s := by
  obtain ⟨p, hp, hs⟩ := hs
  exact ⟨p, h.parameters_subset p hp, hs⟩

theorem AbiDefinition.IsAcceptable.of_takesFrom (ha : abi.IsAcceptable)
    (h : abi'.TakesFrom abi) : abi'.IsAcceptable where
  parameters p hp := ha.parameters p (h.parameters_subset p hp)
  functions := ha.functions.of_subperm h.functions
  events := ha.events.of_subperm h.events
  errors := ha.errors.of_subperm h.errors
  structs a b hsa hsb := ha.structs a b (h.mentions hsa) (h.mentions hsb)

/-- The structs of a contract are those that its ABI mentions. -/
theorem hasStruct_iff (h : Contract.ofAbi name abi = .ok c) {n : StructName} {shape : String} :
    c.HasStruct n shape ↔ ∃ s, abi.Mentions s ∧ s.name = n ∧ s.shape = shape := by
  obtain ⟨hone, hfirst⟩ := ofTypes_eq_ok_iff.1 (ofTypes_of_ofAbi h)
  simp only [← (describes_ofAbi h).mentions_iff, Contract.mentions_iff]
  rw [Contract.HasStruct, hfirst]
  constructor
  · rintro ⟨k, hk, hn, hshape⟩
    exact ⟨k, (of_mem_firstOfEachName hk).1, hn, hshape⟩
  · rintro ⟨s, hs, rfl, rfl⟩
    obtain ⟨k, hk, hn⟩ := List.mem_map.1
      ((mem_names_firstOfEachName List.not_mem_nil).2 (List.mem_map_of_mem hs))
    exact ⟨k, hk, hn, hone k (of_mem_firstOfEachName hk).1 s hs hn⟩

/-- An ABI that is accepted is accepted in any order of its functions, events and errors, with the
same structs of the same shapes, and so is every part of it. -/
theorem acceptance_of_reorder_or_part (h : Contract.ofAbi name abi = .ok c) :
    (∀ abi' : AbiDefinition, abi'.Reorders abi → ∃ c', Contract.ofAbi name abi' = .ok c' ∧
      ∀ n shape, c'.HasStruct n shape ↔ c.HasStruct n shape) ∧
    ∀ abi' : AbiDefinition, abi'.IsPartOf abi → ∃ c', Contract.ofAbi name abi' = .ok c' := by
  have ha : abi.IsAcceptable := exists_ofAbi_iff.1 ⟨c, h⟩
  refine ⟨fun abi' hr => ?_, fun abi' hp => exists_ofAbi_iff.2 (ha.of_takesFrom hp.takesFrom)⟩
  obtain ⟨c', hc'⟩ := exists_ofAbi_iff.2 (ha.of_takesFrom hr.takesFrom)
  refine ⟨c', hc', fun n shape => ?_⟩
  rw [hasStruct_iff hc', hasStruct_iff h]
  constructor
  · rintro ⟨s, hs, hns⟩
    exact ⟨s, hr.takesFrom.mentions hs, hns⟩
  · rintro ⟨s, hs, hns⟩
    exact ⟨s, hr.symm.takesFrom.mentions hs, hns⟩

/-- The ledger with its functions the other way round, and without the constructor and the first
function. -/
theorem acceptance_of_reorder_or_part_ledger :
    ∃ c, Contract.ofAbi "Ledger" ledgerAbi = .ok c ∧
      (∃ c', Contract.ofAbi "Ledger"
          { ledgerAbi with functions := ledgerAbi.functions.reverse } = .ok c' ∧
        ∀ n shape, c'.HasStruct n shape ↔ c.HasStruct n shape) ∧
      ∃ c', Contract.ofAbi "Ledger"
        { ledgerAbi with constructor? := none, functions := ledgerAbi.functions.drop 1 } =
          .ok c' := by
  have h : (Contract.ofAbi "Ledger" ledgerAbi).isOk = true := by decide +kernel
  obtain ⟨c, hc⟩ := exists_of_isOk h
  obtain ⟨hreorder, hpart⟩ := acceptance_of_reorder_or_part hc
  refine ⟨c, hc, hreorder _ ?_, hpart _ ?_⟩
  · exact ⟨rfl, List.reverse_perm _, .rfl, .rfl⟩
  · exact ⟨.inl rfl, List.drop_sublist 1 _, .refl _, .refl _⟩

end

end AbiBindings
