import AbiBindings.Proofs.Contract.Entries
import AbiBindings.Proofs.Name.Overload

/-!
# Contracts that are built are well formed

Whatever ABI a contract is made from, its widths and sizes are in their bounds at every depth, the
components of its structs have names, entries of one kind have different identifiers, and its
structs are those of its signatures: one for each name that a type mentions, of the only shape that
the name has.

    Contract.ofAbi name abi = .ok c → c lists the entries of abi, and is well formed
                                                                        (isWellFormed_of_ofAbi)
-/

namespace AbiBindings

open StructCollection

structure Contract.IsWellFormed (c : Contract) : Prop where
  /-- Integers, byte strings and arrays have sizes that can be spelled. -/
  sizes : ∀ t u : EvmType, c.HasType t → u.Occurs t → u.HasValidSize
  componentNames : ∀ s, c.Mentions s → ∀ i ∈ s.components, i.name ≠ ""
  functionIdentifiers : (c.functions.map (·.identifier)).Nodup
  eventIdentifiers : (c.events.map (·.identifier)).Nodup
  errorIdentifiers : (c.errors.map (·.identifier)).Nodup
  structNames : (c.structs.map (·.name)).Nodup
  /-- There is a struct for every name that is mentioned, and no other. -/
  namesMentioned : ∀ n, n ∈ c.structs.map (·.name) ↔ ∃ s, c.Mentions s ∧ s.name = n
  /-- Whatever carries the name of a struct has its shape. -/
  shapes : ∀ s, c.Mentions s → ∀ k ∈ c.structs, k.name = s.name → k.shape = s.shape

section
variable {name : String} {abi : AbiDefinition} {c : Contract}

/-- A contract that is made from an ABI describes its entries one by one, in their order, and is well
formed. -/
theorem isWellFormed_of_ofAbi (h : Contract.ofAbi name abi = .ok c) :
    abi.Describes c ∧ c.IsWellFormed := by
  obtain ⟨-, hd, hi, hs⟩ := ofAbi_eq_ok_iff.1 h
  obtain ⟨hone, hfirst⟩ := ofTypes_eq_ok_iff.1 hs
  refine ⟨hd, ?_⟩
  constructor
  case sizes =>
    intro t u ht hu
    obtain ⟨p, -, hp⟩ := hd.exists_parameter ht
    exact EvmType.hasValidSize_of_ofParameter hp.spelled hu
  case componentNames =>
    rintro s ⟨t, ht, hst⟩
    obtain ⟨p, -, hp⟩ := hd.exists_parameter ht
    exact hp.named s (EvmType.mem_structsIn_iff.2 hst)
  case functionIdentifiers => exact nodup_of_resolveNames hi.functions
  case eventIdentifiers => exact nodup_of_resolveNames hi.events
  case errorIdentifiers => exact nodup_of_resolveNames hi.errors
  case structNames =>
    rw [hfirst]
    exact nodup_firstOfEachName
  case namesMentioned =>
    intro n
    rw [hfirst, mem_names_firstOfEachName List.not_mem_nil, List.mem_map]
    simp only [Contract.mentions_iff]
  case shapes =>
    intro s hsm k hk hn
    rw [hfirst] at hk
    exact hone k (of_mem_firstOfEachName hk).1 s (Contract.mentions_iff.1 hsm) hn

end

/-- A ledger with an overloaded function, and structs in an array of outputs and in a constructor's
input only. -/
def ledgerAbi : AbiDefinition where
  constructor? := some ⟨"", [⟨"owner", "tuple", some "struct Owner", some owner, false⟩], [],
    "nonpayable"⟩
  functions := [⟨"entries", [], [entries], "view"⟩,
    ⟨"entries", [⟨"from", "uint64", none, none, false⟩], [entries], "view"⟩]
  events := [⟨"Booked", [⟨"amount", "int128", none, none, true⟩], false⟩]
  errors := [⟨"Unbalanced", []⟩]
where
  owner : List AbiParameter := [⟨"account", "address", none, none, false⟩]
  entry : List AbiParameter := [⟨"amount", "int128", none, none, false⟩,
    ⟨"by", "tuple", some "struct Owner", some owner, false⟩]
  entries : AbiParameter := ⟨"", "tuple[][4]", some "struct Ledger.Entry[][4]", some entry, false⟩

theorem isWellFormed_of_ofAbi_ledger :
    ∃ c, Contract.ofAbi "Ledger" ledgerAbi = .ok c ∧
      c.functions.map (·.identifier) = ["entries", "entries_1"] ∧
      c.structs.map (·.name) = [⟨"Owner", none⟩, ⟨"Entry", some "Ledger"⟩] ∧
      ledgerAbi.Describes c ∧ c.IsWellFormed := by
  have h : (match Contract.ofAbi "Ledger" ledgerAbi with
      | .ok c => c.functions.map (·.identifier) == ["entries", "entries_1"] &&
          c.structs.map (·.name) == [⟨"Owner", none⟩, ⟨"Entry", some "Ledger"⟩]
      | .error _ => false) = true := by
    decide +kernel
  split at h
  · rename_i c hc
    rw [Bool.and_eq_true, beq_iff_eq, beq_iff_eq] at h
    exact ⟨c, hc, h.1, h.2, isWellFormed_of_ofAbi hc⟩
  · cases h

end AbiBindings
