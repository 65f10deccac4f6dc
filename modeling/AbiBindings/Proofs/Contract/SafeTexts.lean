import AbiBindings.Proofs.Contract.Acceptance
import AbiBindings.Proofs.EvmType.SourceName
import AbiBindings.Proofs.Name.Resolution
import AbiBindings.Proofs.Struct.Declaration
import AbiBindings.Proofs.Typing.Balance

/-!
# Contracts with safe texts

A declaration file writes the texts of a contract as they are: names of entries in code and in
literals, mutabilities in literals, names of components and of structs in code.  Identifiers and
structs are made from these texts and can stand where they do.  Texts of a source are safe.

    the texts of c are safe → its identifiers are                       (HasSafeTexts.identifiers)
    the texts of c are safe → its structs have balanced names           (HasSafeTexts.structs)
    the texts of c are identifiers → they are safe                      (hasSafeTexts_of_source)
-/

namespace AbiBindings

open StructCollection

/-! ## Contracts -/

/-- The texts of a function can stand where they are written: the name in code and in literals, the
others in one of them. -/
structure ContractFunction.HasSafeTexts (f : ContractFunction) : Prop where
  name : IsSafe f.name
  stateMutability : LiteralBody f.stateMutability.toList
  inputs : ∀ i ∈ f.inputs, IsBalancedComponent i
  outputs : ∀ o ∈ f.outputs, IsBalancedComponent o

structure ContractEvent.HasSafeTexts (e : ContractEvent) : Prop where
  name : IsSafe e.name
  inputs : ∀ i ∈ e.inputs, IsBalancedComponent i.component

structure ContractError.HasSafeTexts (e : ContractError) : Prop where
  name : IsSafe e.name
  inputs : ∀ i ∈ e.inputs, IsBalancedComponent i

structure ContractConstructor.HasSafeTexts (k : ContractConstructor) : Prop where
  stateMutability : LiteralBody k.stateMutability.toList
  inputs : ∀ i ∈ k.inputs, IsBalancedComponent i

/-- The texts of all entries of a contract can stand where they are written. -/
structure Contract.HasSafeTexts (c : Contract) : Prop where
  constructor : ∀ k, c.constructor? = some k → k.HasSafeTexts
  functions : ∀ f ∈ c.functions, f.HasSafeTexts
  events : ∀ e ∈ c.events, e.HasSafeTexts
  errors : ∀ e ∈ c.errors, e.HasSafeTexts

/-- The identifiers of a contract can stand where the names can. -/
structure Contract.HasSafeIdentifiers (c : Contract) : Prop where
  functions : ∀ f ∈ c.functions, IsSafe f.identifier
  events : ∀ e ∈ c.events, IsSafe e.identifier
  errors : ∀ e ∈ c.errors, IsSafe e.identifier

theorem isSafe_numberedName {name : String} (h : IsSafe name) (k : Nat) :
    IsSafe (numberedName name k) := by
  unfold numberedName
  split
  · exact h
  · have hmark : IsSafe "_" := ⟨by decide, literalBody_of_chars (by decide)⟩
    exact (h.append hmark).append (isSafe_of_words (isWordChar_toString k))

/-- Entries of one kind, given those of an ABI with the same names. -/
theorem isSafe_of_resolveNames {α β : Type} {kind : EntryKind} {name : α → String}
    {name' identifier : β → String} {as : List α} {bs : List β}
    (hnames : List.Forall₂ (fun a b => name' b = name a) as bs)
    (hids : resolveNames kind (as.map name) = .ok (bs.map identifier))
    (h : ∀ b ∈ bs, IsSafe (name' b)) : ∀ b ∈ bs, IsSafe (identifier b) := by
  intro b hb
  obtain ⟨k, hk⟩ := exists_numberedName_of_resolveNames hnames hids hb
  rw [hk]
  exact isSafe_numberedName (h b hb) k

section
variable {name : String} {abi : AbiDefinition} {c : Contract}

theorem Contract.HasSafeTexts.identifiers (h : c.HasSafeTexts)
    (hc : Contract.ofAbi name abi = .ok c) : c.HasSafeIdentifiers := by
  obtain ⟨-, hd, hi, -⟩ := ofAbi_eq_ok_iff.1 hc
  exact ⟨isSafe_of_resolveNames (hd.functions.imp fun _ _ hf => hf.name) hi.functions
      fun f hf => (h.functions f hf).name,
    isSafe_of_resolveNames (hd.events.imp fun _ _ he => he.name) hi.events
      fun e he => (h.events e he).name,
    isSafe_of_resolveNames (hd.errors.imp fun _ _ he => he.name) hi.errors
      fun e he => (h.errors e he).name⟩

theorem Contract.HasSafeTexts.type (h : c.HasSafeTexts) {t : EvmType} (ht : c.HasType t) :
    t.HasBalancedNames := by
  cases ht with
  | constructorInput hk hi => exact ((h.constructor _ hk).inputs _ hi).type
  | functionInput hf hi => exact ((h.functions _ hf).inputs _ hi).type
  | functionOutput hf ho => exact ((h.functions _ hf).outputs _ ho).type
  | eventInput he hi => exact ((h.events _ he).inputs _ hi).type
  | errorInput he hi => exact ((h.errors _ he).inputs _ hi).type

theorem Contract.HasSafeTexts.structs (h : c.HasSafeTexts) (hc : Contract.ofAbi name abi = .ok c) :
    ∀ s ∈ c.structs, s.toType.HasBalancedNames := by
  intro s hs
  obtain ⟨t, ht, hst⟩ := exists_type_of_mem (ofTypes_of_ofAbi hc) hs
  have htype := h.type (mem_signatureTypes_iff.1 ht)
  intro u hu
  exact htype u (hu.trans (EvmType.mem_structsIn_iff.1 hst))

end

/-! ## Names from a source -/

theorem isWordChar_of_isIdentifier {s : List Char} (h : isIdentifier s = true) :
    ∀ c ∈ s, isWordChar c = true := by
  simp only [isIdentifier, Bool.and_eq_true, List.all_eq_true] at h
  exact h.1

theorem isSafe_of_isIdentifier {s : String} (h : isIdentifier s.toList = true) : IsSafe s :=
  isSafe_of_words (isWordChar_of_isIdentifier h)

theorem StructName.isBalanced_of_source {n : StructName} (h : n.isSourceName = true) :
    ∀ p ∈ n.parts, IsBalanced p := by
  rw [isSourceName, Bool.and_eq_true] at h
  refine List.forall_mem_cons.2 ⟨(isSafe_of_isIdentifier h.1).balanced, fun owner ho => ?_⟩
  rw [Option.mem_toList] at ho
  have hdotted : isDottedIdentifier owner.toList = true := by
    have := h.2
    rwa [ho] at this
  refine balanced_of_plain fun c hc => ?_
  rcases Text.mem_splitOn_of_mem '.' hc with rfl | ⟨l, hl, hc⟩
  · rfl
  · have hidentifier : isIdentifier l = true := List.all_eq_true.1 hdotted l hl
    exact delimiter?_of_isWordChar (isWordChar_of_isIdentifier hidentifier c hc)

namespace EvmType

theorem of_haveSourceNames {cs : List Component} (h : haveSourceNames cs = true) {c : Component}
    (hc : c ∈ cs) : IsBalanced c.name ∧ c.type.hasSourceNames = true := by
  induction cs with
  | nil => cases hc
  | cons d cs ih =>
    simp only [haveSourceNames, Bool.and_eq_true, Bool.or_eq_true] at h
    rcases List.mem_cons.1 hc with rfl | hc
    · refine ⟨?_, h.1.2⟩
      rcases h.1.1 with he | hi
      · rw [String.isEmpty_iff.1 he]
        exact .nil
      · exact (isSafe_of_isIdentifier hi).balanced
    · exact ih h.2 hc

theorem Occurs.hasSourceNames {u t : EvmType} (h : u.Occurs t) (ht : t.hasSourceNames = true) :
    u.hasSourceNames = true := by
  induction h with
  | here => exact ht
  | element _ ih => exact ih ht
  | component hc _ ih =>
    rw [EvmType.hasSourceNames, Bool.and_eq_true] at ht
    exact ih (of_haveSourceNames ht.2 hc).2

theorem hasBalancedNames_of_source {t : EvmType} (h : t.hasSourceNames = true) :
    t.HasBalancedNames := by
  intro u hu n hn
  have hsource := hu.hasSourceNames h
  cases u with
  | leaf | array => cases hn
  | tuple cs name spelling =>
    rw [EvmType.hasSourceNames, Bool.and_eq_true] at hsource
    rcases List.mem_append.1 hn with hn | hn
    · obtain ⟨c, hc, rfl⟩ := List.mem_map.1 hn
      exact (of_haveSourceNames hsource.2 hc).1
    · obtain ⟨s, hs, hn⟩ := List.mem_flatMap.1 hn
      rw [Option.mem_toList] at hs
      rw [hs] at hsource
      exact StructName.isBalanced_of_source hsource.1 n hn

theorem areBalanced_of_source {cs : List Component} (h : haveSourceNames cs = true) :
    ∀ c ∈ cs, IsBalancedComponent c := by
  intro c hc
  obtain ⟨hname, htype⟩ := of_haveSourceNames h hc
  exact ⟨hname, hasBalancedNames_of_source htype⟩

end EvmType

/-- All texts of a contract are identifiers as a source has them. -/
def Contract.hasSourceTexts (c : Contract) : Bool :=
  c.constructor?.all (fun k => isIdentifier k.stateMutability.toList &&
    EvmType.haveSourceNames k.inputs) &&
  c.functions.all (fun f => isIdentifier f.name.toList && isIdentifier f.stateMutability.toList &&
    EvmType.haveSourceNames f.inputs && EvmType.haveSourceNames f.outputs) &&
  c.events.all (fun e => isIdentifier e.name.toList &&
    EvmType.haveSourceNames (e.inputs.map EventInput.component)) &&
  c.errors.all fun e => isIdentifier e.name.toList && EvmType.haveSourceNames e.inputs

theorem hasSafeTexts_of_source {c : Contract} (h : c.hasSourceTexts = true) : c.HasSafeTexts := by
  simp only [Contract.hasSourceTexts, Bool.and_eq_true, List.all_eq_true, Option.all_eq_true] at h
  obtain ⟨⟨⟨hconstructor, hfunctions⟩, hevents⟩, herrors⟩ := h
  constructor
  case constructor =>
    intro k hk
    obtain ⟨hm, hi⟩ := hconstructor k hk
    exact ⟨(isSafe_of_isIdentifier hm).literal, EvmType.areBalanced_of_source hi⟩
  case functions =>
    intro f hf
    obtain ⟨⟨⟨hn, hm⟩, hi⟩, ho⟩ := hfunctions f hf
    exact ⟨isSafe_of_isIdentifier hn, (isSafe_of_isIdentifier hm).literal,
      EvmType.areBalanced_of_source hi, EvmType.areBalanced_of_source ho⟩
  case events =>
    intro e he
    obtain ⟨hn, hi⟩ := hevents e he
    exact ⟨isSafe_of_isIdentifier hn,
      List.forall_mem_map.1 (EvmType.areBalanced_of_source hi)⟩
  case errors =>
    intro e he
    obtain ⟨hn, hi⟩ := herrors e he
    exact ⟨isSafe_of_isIdentifier hn, EvmType.areBalanced_of_source hi⟩

end AbiBindings
