import AbiBindings.Proofs.Contract.WellFormed
import AbiBindings.Proofs.Declaration.File
import AbiBindings.Proofs.Struct.Declaration
import AbiBindings.Proofs.Typing.Coverage

/-!
# When declarations can be written

The types of a contract are written in one direction or the other, depending on where they stand;
structs are declared in both.  A declaration file can be written exactly if each of these types has
its integers covered in its direction.

    declarationFile succeeds ↔ the types of c are covered       (needs_declarationFile)
    a file fails ↔ an integer is wider than every bucket of
      its direction                                             (declarationFile_fails_iff)
-/

namespace AbiBindings

/-! ## Positions -/

/-- A type is written in a direction: what is passed in, what comes back, and the components of
structs in both. -/
inductive Contract.Carries (c : Contract) : Direction → EvmType → Prop where
  | constructorInput {k : ContractConstructor} {i : Component} (hk : c.constructor? = some k)
    (hi : i ∈ k.inputs) : c.Carries .input i.type
  | functionInput {f : ContractFunction} {i : Component} (hf : f ∈ c.functions)
    (hi : i ∈ f.inputs) : c.Carries .input i.type
  | functionOutput {f : ContractFunction} {o : Component} (hf : f ∈ c.functions)
    (ho : o ∈ f.outputs) : c.Carries .output o.type
  | indexedInput {e : ContractEvent} {i : EventInput} (he : e ∈ c.events) (hi : i ∈ e.inputs)
    (hindexed : i.indexed = true) : c.Carries .input i.type
  | eventInput {e : ContractEvent} {i : EventInput} (he : e ∈ c.events) (hi : i ∈ e.inputs) :
    c.Carries .output i.type
  | errorInput {e : ContractError} {i : Component} (he : e ∈ c.errors) (hi : i ∈ e.inputs) :
    c.Carries .output i.type
  | structComponent {s : StructType} {i : Component} (d : Direction) (hs : s ∈ c.structs)
    (hi : i ∈ s.components) : c.Carries d i.type

/-! ## Structs -/

/-- The components of a struct are covered in both directions. -/
def Typing.CoversStruct (y : Typing) (s : StructType) : Prop :=
  ∀ d, ∀ i ∈ s.components, y.Covers d i.type

section
variable {y : Typing}

theorem needs_structAlias (d : Direction) (s : StructType) :
    Needs (structAlias y d s) (∀ i ∈ s.components, y.Covers d i.type) :=
  (Typing.needs_tupleText s.components).bind_pure _

theorem needs_structAliases (s : StructType) : Needs (structAliases y s) (y.CoversStruct s) := by
  refine Needs.within _ (((needs_structAlias .input s).bind fun _ =>
    (needs_structAlias .output s).bind_pure _).congr ?_)
  constructor
  · rintro ⟨hin, hout⟩ (_ | _)
    · exact hin
    · exact hout
  · intro h
    exact ⟨h .input, h .output⟩

theorem needs_aliasesOfStructs (structs : List StructType) :
    Needs (aliasesOfStructs y structs) (∀ s ∈ structs, y.CoversStruct s) :=
  (Needs.mapM needs_structAliases structs).map List.flatten

theorem needs_structStatements (structs : List StructType) :
    Needs (structStatements y structs) (∀ s ∈ firstOfEachName [] structs, y.CoversStruct s) := by
  have hgroup (g : String × List StructType) :
      Needs (namespaceStatement y g) (∀ s ∈ g.2, y.CoversStruct s) :=
    (needs_aliasesOfStructs g.2).map _
  refine ((needs_aliasesOfStructs _).bind fun _ => (Needs.mapM hgroup _).bind_pure _).congr ?_
  simp only [← mem_ofStructs_iff]
  constructor
  · rintro ⟨htop, hnamespaces⟩ s (hs | ⟨g, hg, hs⟩)
    · exact htop s hs
    · exact hnamespaces g hg s hs
  · intro h
    exact ⟨fun s hs => h s (.inl hs), fun g hg s hs => h s (.inr ⟨g, hg, hs⟩)⟩

/-! ## Entries -/

theorem needs_functionEntry (f : ContractFunction) :
    Needs (functionEntry y f)
      ((∀ i ∈ f.inputs, y.Covers .input i.type) ∧ ∀ o ∈ f.outputs, y.Covers .output o.type) :=
  Needs.within _ ((Typing.needs_argumentsText f.inputs).bind fun _ =>
    (Typing.needs_resultText f.outputs).bind_pure _)

theorem needs_functionsAlias (o : DeclarationOptions) (c : Contract) :
    Needs (functionsAlias o c) (∀ f ∈ c.functions,
      (∀ i ∈ f.inputs, o.typing.Covers .input i.type) ∧
        ∀ i ∈ f.outputs, o.typing.Covers .output i.type) :=
  (Needs.mapM needs_functionEntry c.functions).bind_pure _

theorem needs_filterText (inputs : List EventInput) :
    Needs (filterText y inputs) (∀ i ∈ inputs, i.indexed = true → y.Covers .input i.type) := by
  have hitem (x : EventInput × Nat) :
      Needs (do
        let t ← y.typeText .input x.1.type
        return memberText (Typing.argumentLabel x.1.name x.2 ++ "?") (t ++ " | null"))
        (y.Covers .input x.1.type) :=
    (Typing.needs_typeText x.1.type).bind_pure _
  refine ((Needs.mapM hitem _).bind_pure _).congr ?_
  simp only [List.mem_filter, and_imp]
  exact Typing.forall_mem_zipIdx_iff
    (P := fun i : EventInput => i.indexed = true → y.Covers .input i.type)

theorem needs_eventAlias (e : ContractEvent) :
    Needs (eventAlias y e) ((∀ i ∈ e.inputs, i.indexed = true → y.Covers .input i.type) ∧
      ∀ i ∈ e.inputs, y.Covers .output i.type) := by
  refine Needs.within _ (((needs_filterText e.inputs).bind fun _ =>
    (Typing.needs_tupleText _).bind_pure _).congr ?_)
  rw [List.forall_mem_map]
  rfl

theorem needs_errorAlias (e : ContractError) :
    Needs (errorAlias y e) (∀ i ∈ e.inputs, y.Covers .output i.type) :=
  Needs.within _ ((Typing.needs_tupleText e.inputs).bind_pure _)

theorem needs_deployment (c : Contract) :
    Needs (deployment y c) (∀ k, c.constructor? = some k →
      ∀ i ∈ k.inputs, y.Covers .input i.type) := by
  unfold deployment
  cases c.constructor? with
  | none => exact (Needs.ok _).congr (by simp)
  | some k =>
    refine (((Typing.needs_argumentsText k.inputs).within _).map _).congr ?_
    simp

end

/-! ## Files -/

section
variable {o : DeclarationOptions} {c : Contract}

theorem needs_contractAlias (o : DeclarationOptions) (c : Contract) :
    Needs (contractAlias o c) (∀ k, c.constructor? = some k →
      ∀ i ∈ k.inputs, o.typing.Covers .input i.type) :=
  (needs_deployment c).bind_pure _

/-- Sections can be written exactly if all types of the contract can. -/
theorem needs_declarationSections (hs : firstOfEachName [] c.structs = c.structs) :
    Needs (declarationSections o c) (∀ d u, c.Carries d u → o.typing.Covers d u) := by
  refine ((needs_structStatements c.structs).bind fun _ =>
    (needs_functionsAlias o c).bind fun _ =>
    (Needs.mapM needs_eventAlias c.events).bind fun _ =>
    (Needs.mapM needs_errorAlias c.errors).bind fun _ =>
    (needs_contractAlias o c).bind_pure _).congr ?_
  rw [hs]
  constructor
  · rintro ⟨hstructs, hfunctions, hevents, herrors, hconstructor⟩ d u hu
    cases hu with
    | constructorInput hk hi => exact hconstructor _ hk _ hi
    | functionInput hf hi => exact (hfunctions _ hf).1 _ hi
    | functionOutput hf ho => exact (hfunctions _ hf).2 _ ho
    | indexedInput he hi hindexed => exact (hevents _ he).1 _ hi hindexed
    | eventInput he hi => exact (hevents _ he).2 _ hi
    | errorInput he hi => exact herrors _ he _ hi
    | structComponent _ hs hi => exact hstructs _ hs d _ hi
  · intro h
    exact ⟨fun s hs d i hi => h d _ (.structComponent d hs hi),
      fun f hf => ⟨fun i hi => h _ _ (.functionInput hf hi),
        fun i hi => h _ _ (.functionOutput hf hi)⟩,
      fun e he => ⟨fun i hi hx => h _ _ (.indexedInput he hi hx),
        fun i hi => h _ _ (.eventInput he hi)⟩,
      fun e he i hi => h _ _ (.errorInput he hi),
      fun k hk i hi => h _ _ (.constructorInput hk hi)⟩

theorem needs_contractFile (hs : firstOfEachName [] c.structs = c.structs) :
    Needs (contractFile o c) (∀ d u, c.Carries d u → o.typing.Covers d u) := by
  have hsections : Needs (contractSections o c) (∀ d u, c.Carries d u → o.typing.Covers d u) :=
    Needs.within _ ((needs_declarationSections hs).bind_pure _)
  refine (hsections.bind fun sections => ?_).congr (and_iff_left trivial)
  rw [fillLayout_contract]
  exact (Needs.ok _).within _

/-- Whatever is wrong is placed in the contract. -/
theorem outermost_of_contractFile (hs : firstOfEachName [] c.structs = c.structs) {e : Diagnostic}
    (h : contractFile o c = .error e) : e.scope.headD "" = c.name := by
  have hkind := (needs_contractFile hs).kind e h
  rcases bind_eq_error_iff.1 h with hsections | ⟨sections, -, hfill⟩
  · obtain ⟨d, -, rfl⟩ := mapError_eq_error_iff.1 hsections
    rw [Diagnostic.kind_within] at hkind
    rw [Diagnostic.scope_within _ _ (by rw [hkind]; rfl), Diagnostic.headD_enclose]
  · rw [fillLayout_contract] at hfill
    cases hfill

end

/-! ## Widths -/

/-- An integer that a type exposes stands in it. -/
theorem EvmType.Exposes.occurs {bits : Nat} {t : EvmType} (h : t.Exposes bits) :
    ∃ k s, (EvmType.leaf k s).Occurs t ∧ (k = .uint bits ∨ k = .int bits) := by
  induction h with
  | uint s => exact ⟨_, s, .here _, .inl rfl⟩
  | int s => exact ⟨_, s, .here _, .inr rfl⟩
  | element _ ih =>
    obtain ⟨k, s, hk, hw⟩ := ih
    exact ⟨k, s, .element hk, hw⟩
  | component hc _ ih =>
    obtain ⟨k, s, hk, hw⟩ := ih
    exact ⟨k, s, .component hc hk, hw⟩

section
variable {name : String} {abi : AbiDefinition} {c : Contract}

/-- What is written stands in the type of a parameter. -/
theorem occurs_of_carries (h : Contract.ofAbi name abi = .ok c) {d : Direction} {u : EvmType}
    (hu : c.Carries d u) : ∃ t, c.HasType t ∧ u.Occurs t := by
  cases hu with
  | constructorInput hk hi => exact ⟨_, .constructorInput hk hi, .here _⟩
  | functionInput hf hi => exact ⟨_, .functionInput hf hi, .here _⟩
  | functionOutput hf ho => exact ⟨_, .functionOutput hf ho, .here _⟩
  | indexedInput he hi _ => exact ⟨_, .eventInput he hi, .here _⟩
  | eventInput he hi => exact ⟨_, .eventInput he hi, .here _⟩
  | errorInput he hi => exact ⟨_, .errorInput he hi, .here _⟩
  | structComponent _ hs hi =>
    obtain ⟨t, ht, hst⟩ := StructCollection.exists_type_of_mem (ofTypes_of_ofAbi h) hs
    exact ⟨t, mem_signatureTypes_iff.1 ht,
      .of_struct hi (.here _) (EvmType.mem_structsIn_iff.1 hst)⟩

/-- Leaves and arrays of a contract have valid sizes. -/
theorem hasValidSize_of_carries (h : Contract.ofAbi name abi = .ok c) {d : Direction} {u : EvmType}
    (hu : c.Carries d u) {v : EvmType} (hv : v.Occurs u) : v.HasValidSize := by
  obtain ⟨t, ht, hut⟩ := occurs_of_carries h hu
  obtain ⟨p, -, hp⟩ := (describes_ofAbi h).exists_parameter ht
  exact EvmType.hasValidSize_of_ofParameter hp.spelled (hv.trans hut)

/-- No integer of a contract has more than 256 bits. -/
theorem bits_le_of_carries (h : Contract.ofAbi name abi = .ok c) {d : Direction} {u : EvmType}
    (hu : c.Carries d u) {bits : Nat} (hb : u.Exposes bits) : bits ≤ 256 := by
  obtain ⟨k, s, hk, hw⟩ := hb.occurs
  have hvalid := hasValidSize_of_carries h hu hk
  rcases hw with rfl | rfl
  · exact hvalid.2.1
  · exact hvalid.2.1

/-- No struct of a contract is a repetition. -/
theorem firstOfEachName_structs (h : Contract.ofAbi name abi = .ok c) :
    firstOfEachName [] c.structs = c.structs := by
  refine firstOfEachName_of_nodup ?_ fun _ _ => List.not_mem_nil
  rw [(StructCollection.ofTypes_eq_ok_iff.1 (ofTypes_of_ofAbi h)).2]
  exact nodup_firstOfEachName

theorem needs_declarationFile (h : Contract.ofAbi name abi = .ok c) (t : Target) (path : String) :
    Needs (t.declarationFile c path) (∀ d u, c.Carries d u → t.declarations.typing.Covers d u) :=
  (needs_contractFile (firstOfEachName_structs h)).map _

theorem covers_of_reaches {y : Typing} (h : Contract.ofAbi name abi = .ok c)
    (hreach : ∀ d, ∃ b ∈ (y.leafNames d).integers, 256 ≤ b.maxBits) {d : Direction} {u : EvmType}
    (hu : c.Carries d u) : y.Covers d u := by
  intro bits hb
  obtain ⟨b, hmem, hle⟩ := hreach d
  exact ⟨b, hmem, (bits_le_of_carries h hu hb).trans hle⟩

theorem presets_reach {n : String} {names : TypeNames} (h : (n, names) ∈ presets) {y : Typing}
    (hy : y.names = names) (d : Direction) : ∃ b ∈ (y.leafNames d).integers, 256 ≤ b.maxBits := by
  have hall : ∀ p ∈ presets, (∃ b ∈ p.2.input.integers, 256 ≤ b.maxBits) ∧
      ∃ b ∈ p.2.output.integers, 256 ≤ b.maxBits := by decide
  obtain ⟨hin, hout⟩ := hall _ h
  subst hy
  cases d with
  | input => exact hin
  | output => exact hout

/-- A file cannot be written exactly if an integer is wider than every bucket of its direction; the
failure is one of the configuration, and placed in the contract.  With buckets of 256 bits, as the
presets have them, there is none. -/
theorem declarationFile_fails_iff (h : Contract.ofAbi name abi = .ok c) (t : Target)
    (path : String) :
    ((∃ e, t.declarationFile c path = .error e) ↔
      ∃ d u bits, c.Carries d u ∧ u.Exposes bits ∧
        ∀ b ∈ (t.declarations.typing.leafNames d).integers, b.maxBits < bits) ∧
    (∀ e, t.declarationFile c path = .error e →
      e.kind = .configuration ∧ e.scope.headD "" = c.name) ∧
    ((∀ d, ∃ b ∈ (t.declarations.typing.leafNames d).integers, 256 ≤ b.maxBits) →
      ∃ f, t.declarationFile c path = .ok f) ∧
    ∀ n names, (n, names) ∈ presets → t.declarations.typing.names = names →
      ∃ f, t.declarationFile c path = .ok f := by
  have hneeds := needs_declarationFile h t path
  have hreach (hr : ∀ d, ∃ b ∈ (t.declarations.typing.leafNames d).integers, 256 ≤ b.maxBits) :
      ∃ f, t.declarationFile c path = .ok f :=
    hneeds.exists_iff.2 fun d u hu => covers_of_reaches h hr hu
  refine ⟨?_, fun e he => ⟨hneeds.kind e he, ?_⟩, hreach,
    fun n names hn hy => hreach (presets_reach hn hy)⟩
  · rw [hneeds.exists_error_iff]
    simp only [Typing.Covers, Typing.CoversBits, not_forall, not_exists, not_and, Nat.not_le,
      exists_prop, exists_and_left]
  · exact outermost_of_contractFile (firstOfEachName_structs h) (map_eq_error_iff.1 he)

end

/-- A target with a table of names. -/
def targetWith (names : TypeNames) : Target where
  name := "ethers-v5"
  declarations := ⟨⟨names, "Struct", "StructOutput"⟩, false, false⟩
  index := {}
  isIncremental := true

/-- A table where integers of at most 48 bits can come back. -/
def narrowNames : TypeNames :=
  { ethersV5 with output := { ethersV5.output with integers := [⟨48, "number"⟩] } }

/-- Amounts of 128 bits come back from a ledger. -/
theorem exists_carries_ledger : ∃ c, Contract.ofAbi "Ledger" ledgerAbi = .ok c ∧
    c.Carries .output (.leaf (.int 128) "int128") := by
  have h : (match Contract.ofAbi "Ledger" ledgerAbi with
      | .ok c => c.events.any fun e => e.inputs.any fun i => i.type = .leaf (.int 128) "int128"
      | .error _ => false) = true := by
    decide +kernel
  split at h
  · rename_i c hc
    simp only [List.any_eq_true, decide_eq_true_eq] at h
    obtain ⟨v, hv, i, hi, htype⟩ := h
    exact ⟨c, hc, htype ▸ .eventInput hv hi⟩
  · cases h

/-- The amounts of a ledger do not fit into 48 bits. -/
theorem declarationFile_fails_iff_ledger :
    ∃ c, Contract.ofAbi "Ledger" ledgerAbi = .ok c ∧
      (∃ e, (targetWith narrowNames).declarationFile c "Ledger.ts" = .error e ∧
        e.kind = .configuration ∧ e.scope.headD "" = "Ledger") ∧
      ∃ f, (targetWith ethersV5).declarationFile c "Ledger.ts" = .ok f := by
  obtain ⟨c, hc, hcarries⟩ := exists_carries_ledger
  obtain ⟨hiff, herror, -, -⟩ := declarationFile_fails_iff hc (targetWith narrowNames) "Ledger.ts"
  obtain ⟨-, -, -, hpresets⟩ := declarationFile_fails_iff hc (targetWith ethersV5) "Ledger.ts"
  obtain ⟨e, he⟩ := hiff.2 ⟨.output, _, 128, hcarries, .int _, by decide⟩
  obtain ⟨hkind, hscope⟩ := herror e he
  refine ⟨c, hc, ⟨e, he, hkind, ?_⟩, hpresets "ethers-v5" ethersV5 (by decide) rfl⟩
  rw [hscope, name_ofAbi hc]

end AbiBindings
