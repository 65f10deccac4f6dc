import AbiBindings.Proofs.Contract.WellFormed
import AbiBindings.Proofs.EvmType.Signature
import AbiBindings.Proofs.Name.Resolution
import AbiBindings.Target
import Mathlib.Data.List.Nodup
import Mathlib.Data.List.Pairwise

/-!
# Keys of the maps of functions and events

The map of functions has a member for each function under its identifier, and behind them one under
its quoted signature for each overloaded function, or for each function at all; the map of events
is made in the same way.  Identifiers differ, but nothing keeps an ABI from declaring a function
twice, and both then get a member under one signature.  If none is declared twice, all keys differ.

    keys of the members differ ↔ signatures do, and no identifier is a quoted one  (keyedOnce_iff)
    names are plain → … ↔ no entry is declared twice                               (keysApart_iff)
-/

namespace AbiBindings

open Text

/-! ## Maps -/

/-- The entries of a map, and what their members are made from. -/
structure EntryMap (α : Type) where
  entries : List α
  name : α → String
  inputs : α → List EvmType
  identifier : α → String
  /-- What the member under a signature refers to. -/
  reference : α → String

/-- The functions of a contract; a reference looks up the member under the identifier. -/
def functionMap (c : Contract) : EntryMap ContractFunction where
  entries := c.functions
  name := ContractFunction.name
  inputs f := f.inputs.map (·.type)
  identifier := ContractFunction.identifier
  reference f := functionsName c ++ "[" ++ doubleQuoted f.identifier ++ "]"

/-- The events of a contract; a reference is to the alias that the identifier is part of. -/
def eventMap (c : Contract) : EntryMap ContractEvent where
  entries := c.events
  name := ContractEvent.name
  inputs e := e.inputs.map (·.type)
  identifier := ContractEvent.identifier
  reference := eventName

namespace EntryMap

variable {α : Type}

def signature (m : EntryMap α) (a : α) : String := signatureOf (m.name a) (m.inputs a)

/-- An entry that is found under its signature: any, or one whose name others have. -/
def IsListed (m : EntryMap α) (o : DeclarationOptions) (a : α) : Prop :=
  a ∈ m.entries ∧ (o.alwaysBySignature = true ∨ 1 < (m.entries.map m.name).count (m.name a))

/-- The member of an entry under its signature. -/
def signatureMember (m : EntryMap α) (a : α) : String × AliasBody :=
  (doubleQuoted (m.signature a), .type (m.reference a))

/-- Members for all entries under their identifiers, and for listed ones under their signatures. -/
def HasMembers (m : EntryMap α) (o : DeclarationOptions) (members : List (String × AliasBody)) :
    Prop :=
  ∃ own, own.map Prod.fst = m.entries.map m.identifier ∧
    members = own ++ (o.bySignature m.name m.entries).map m.signatureMember

/-- The members have different keys, and each listed entry has one under its signature, which
refers to the entry. -/
structure KeyedOnce (m : EntryMap α) (o : DeclarationOptions)
    (members : List (String × AliasBody)) : Prop where
  distinct : (members.map Prod.fst).Nodup
  bySignature : ∀ a, m.IsListed o a →
    members.filter (·.1 = doubleQuoted (m.signature a)) = [m.signatureMember a]

/-- Listed entries have different signatures, and no identifier is a quoted one of them. -/
structure KeysApart (m : EntryMap α) (o : DeclarationOptions) : Prop where
  signatures : ((o.bySignature m.name m.entries).map m.signature).Nodup
  identifiers : ∀ a ∈ m.entries, ∀ b, m.IsListed o b →
    m.identifier a ≠ doubleQuoted (m.signature b)

/-- No two entries have one name and the same input types, but for names and spellings. -/
def DeclaresOnce (m : EntryMap α) : Prop :=
  (m.entries.map fun a => (m.name a, (m.inputs a).map EvmType.bare)).Nodup

instance (m : EntryMap α) : Decidable m.DeclaresOnce := inferInstanceAs (Decidable (List.Nodup _))

end EntryMap

/-- A name without the marks that signatures and literals are made with. -/
structure IsPlainName (name : String) : Prop where
  noParenthesis : '(' ∉ name.toList
  noQuote : '"' ∉ name.toList

/-! ## Lists -/

/-- An item is the only one of its key if keys do not repeat. -/
theorem filter_key_eq_singleton {α β : Type} [DecidableEq β] {key : α → β} {l : List α}
    (h : (l.map key).Nodup) {a : α} (ha : a ∈ l) : l.filter (key · = key a) = [a] := by
  induction l with
  | nil => cases ha
  | cons b l ih =>
    obtain ⟨hb, hl⟩ := List.nodup_cons.1 h
    rcases List.mem_cons.1 ha with rfl | ha
    · rw [List.filter_cons_of_pos (by simp), List.filter_eq_nil_iff.2]
      intro c hc he
      exact hb (of_decide_eq_true he ▸ List.mem_map_of_mem hc)
    · have hne : key b ≠ key a := fun he => hb (he ▸ List.mem_map_of_mem ha)
      rw [List.filter_cons_of_neg (by simpa using hne), ih hl ha]

/-! ## Keys -/

theorem doubleQuoted_injective : Function.Injective doubleQuoted := by
  intro s t h
  exact (String.append_right_inj _).1 ((String.append_left_inj _).1 h)

namespace EntryMap

variable {α : Type} {m : EntryMap α} {o : DeclarationOptions}
  {members : List (String × AliasBody)}

theorem mem_bySignature_iff {a : α} : a ∈ o.bySignature m.name m.entries ↔ m.IsListed o a := by
  simp [DeclarationOptions.bySignature, IsListed]

theorem HasMembers.keys (h : m.HasMembers o members) :
    members.map Prod.fst = m.entries.map m.identifier ++
      ((o.bySignature m.name m.entries).map m.signature).map doubleQuoted := by
  obtain ⟨own, hown, rfl⟩ := h
  rw [List.map_append, hown, List.map_map, List.map_map]
  rfl

/-- The keys of a map are identifiers and quoted signatures. -/
theorem HasMembers.nodup_keys_iff (h : m.HasMembers o members)
    (hids : (m.entries.map m.identifier).Nodup) :
    (members.map Prod.fst).Nodup ↔ m.KeysApart o := by
  rw [h.keys, List.nodup_append, List.nodup_map_iff doubleQuoted_injective]
  constructor
  · rintro ⟨-, hsignatures, hapart⟩
    refine ⟨hsignatures, fun a ha b hb => hapart _ (List.mem_map_of_mem ha) _ ?_⟩
    exact List.mem_map_of_mem (List.mem_map_of_mem (mem_bySignature_iff.2 hb))
  · rintro ⟨hsignatures, hidentifiers⟩
    refine ⟨hids, hsignatures, fun key hkey key' hkey' => ?_⟩
    obtain ⟨a, ha, rfl⟩ := List.mem_map.1 hkey
    obtain ⟨s, hs, rfl⟩ := List.mem_map.1 hkey'
    obtain ⟨b, hb, rfl⟩ := List.mem_map.1 hs
    exact hidentifiers a ha b (mem_bySignature_iff.1 hb)

theorem HasMembers.keyedOnce_iff (h : m.HasMembers o members)
    (hids : (m.entries.map m.identifier).Nodup) : m.KeyedOnce o members ↔ m.KeysApart o := by
  rw [← h.nodup_keys_iff hids]
  refine ⟨fun hk => hk.distinct, fun hd => ⟨hd, fun a ha => ?_⟩⟩
  have hmem : m.signatureMember a ∈ members := by
    obtain ⟨own, -, rfl⟩ := h
    exact List.mem_append_right _ (List.mem_map_of_mem (mem_bySignature_iff.2 ha))
  exact filter_key_eq_singleton hd hmem

/-! ## Plain names -/

theorem quote_not_mem_numberedName {name : String} (h : '"' ∉ name.toList) (k : Nat) :
    '"' ∉ (numberedName name k).toList := by
  by_cases hk : k = 0
  · rwa [hk, numberedName_zero]
  · rw [toList_numberedName hk, List.mem_append, List.mem_cons, not_or, not_or]
    exact ⟨h, by decide, fun hm => absurd ((isNumeral_toDigits k).digits _ hm) (by decide)⟩

theorem doubleQuoted_ne_of_not_mem {s t : String} (h : '"' ∉ s.toList) : s ≠ doubleQuoted t := by
  rintro rfl
  rw [doubleQuoted, String.toList_append, String.toList_append] at h
  exact h (List.mem_append_left _ (List.mem_append_left _ List.mem_cons_self))

/-- Entries of one signature have one name, so both are listed. -/
theorem nodup_signatures_iff
    (hname : ∀ a ∈ m.entries, ∀ b ∈ m.entries, m.signature a = m.signature b → m.name a = m.name b) :
    ((o.bySignature m.name m.entries).map m.signature).Nodup ↔
      (m.entries.map m.signature).Nodup := by
  refine ⟨fun h => ?_, fun h => h.sublist (List.filter_sublist.map _)⟩
  rw [List.Nodup, List.pairwise_map, List.pairwise_iff_forall_sublist] at h ⊢
  intro a b hab he
  have hnames : m.name a = m.name b :=
    hname a (hab.subset List.mem_cons_self) b (hab.subset (by simp)) he
  have hcount : 2 ≤ (m.entries.map m.name).count (m.name a) := by
    have hle := (hab.map m.name).count_le (m.name a)
    simpa [hnames] using hle
  refine h (a := a) (b := b) ?_ he
  have hboth : [a, b].filter
      (fun i => o.alwaysBySignature || 1 < (m.entries.map m.name).count (m.name i)) = [a, b] := by
    have hlisted : 1 < (m.entries.map m.name).count (m.name a) := hcount
    rw [List.filter_eq_self]
    simp [hlisted, ← hnames]
  rw [← hboth]
  exact hab.filter _

/-- With plain names the options do not matter: keys differ if no entry is declared twice. -/
theorem keysApart_iff (hplain : ∀ a ∈ m.entries, IsPlainName (m.name a))
    (hids : ∀ a ∈ m.entries, ∃ k, m.identifier a = numberedName (m.name a) k) :
    m.KeysApart o ↔ m.DeclaresOnce := by
  have hsame (a : α) (ha : a ∈ m.entries) (b : α) (hb : b ∈ m.entries) :
      m.signature a = m.signature b ↔
        m.name a = m.name b ∧ (m.inputs a).map EvmType.bare = (m.inputs b).map EvmType.bare :=
    signatureOf_eq_iff (hplain a ha).noParenthesis (hplain b hb).noParenthesis
  have hnodup : (m.entries.map m.signature).Nodup ↔ m.DeclaresOnce := by
    rw [DeclaresOnce, List.Nodup, List.Nodup, List.pairwise_map, List.pairwise_map]
    refine List.Pairwise.iff_of_mem fun {a b} ha hb => not_congr ?_
    rw [hsame a ha b hb, Prod.mk.injEq]
  rw [← hnodup, ← nodup_signatures_iff fun a ha b hb he => ((hsame a ha b hb).1 he).1]
  refine ⟨fun h => h.signatures, fun h => ⟨h, fun a ha b _ => ?_⟩⟩
  obtain ⟨k, hk⟩ := hids a ha
  rw [hk]
  exact doubleQuoted_ne_of_not_mem (quote_not_mem_numberedName (hplain a ha).noQuote k)

end EntryMap

/-! ## Contracts -/

section
variable {name : String} {abi : AbiDefinition} {c : Contract} {o : DeclarationOptions}

theorem hasMembers_functionsAlias {a : TypeAlias} (h : functionsAlias o c = .ok a) :
    ∃ members, a.body = .block members ∧ (functionMap c).HasMembers o members := by
  simp only [functionsAlias, bind_eq_ok_iff, pure_eq_ok_iff] at h
  obtain ⟨entries, he, rfl⟩ := h
  have hkeys : entries.map Prod.fst = c.functions.map ContractFunction.identifier := by
    refine map_of_mapM_eq_ok (fun f entry hf => ?_) he
    simp only [functionEntry, within_eq_ok_iff, bind_eq_ok_iff, pure_eq_ok_iff] at hf
    obtain ⟨_, -, _, -, rfl⟩ := hf
    rfl
  exact ⟨_, rfl, entries, hkeys, rfl⟩

theorem hasMembers_eventsAlias (o : DeclarationOptions) (c : Contract) :
    ∃ members, (eventsAlias o c).body = .block members ∧ (eventMap c).HasMembers o members := by
  refine ⟨_, rfl, _, ?_, rfl⟩
  rw [List.map_map]
  rfl

/-- In the maps of functions and of events the keys differ, with one member under each signature
that is listed, exactly if listed signatures differ and are not identifiers of others; for plain
names, exactly if no two entries have one name and the same input types. -/
theorem memberKeys_distinct_iff (h : Contract.ofAbi name abi = .ok c) (o : DeclarationOptions) :
    (∀ a, functionsAlias o c = .ok a → ∃ members, a.body = .block members ∧
      ((functionMap c).KeyedOnce o members ↔ (functionMap c).KeysApart o) ∧
      ((∀ f ∈ c.functions, IsPlainName f.name) →
        ((functionMap c).KeyedOnce o members ↔ (functionMap c).DeclaresOnce))) ∧
    ∃ members, (eventsAlias o c).body = .block members ∧
      ((eventMap c).KeyedOnce o members ↔ (eventMap c).KeysApart o) ∧
      ((∀ e ∈ c.events, IsPlainName e.name) →
        ((eventMap c).KeyedOnce o members ↔ (eventMap c).DeclaresOnce)) := by
  obtain ⟨-, hd, hi, -⟩ := ofAbi_eq_ok_iff.1 h
  constructor
  · intro a ha
    obtain ⟨members, hbody, hm⟩ := hasMembers_functionsAlias ha
    have hiff := hm.keyedOnce_iff (nodup_of_resolveNames hi.functions)
    refine ⟨members, hbody, hiff, fun hplain => hiff.trans (EntryMap.keysApart_iff hplain ?_)⟩
    exact fun f hf => exists_numberedName_of_resolveNames
      (hd.functions.imp fun _ _ hf => hf.name) hi.functions hf
  · obtain ⟨members, hbody, hm⟩ := hasMembers_eventsAlias o c
    have hiff := hm.keyedOnce_iff (nodup_of_resolveNames hi.events)
    refine ⟨members, hbody, hiff, fun hplain => hiff.trans (EntryMap.keysApart_iff hplain ?_)⟩
    exact fun e he => exists_numberedName_of_resolveNames
      (hd.events.imp fun _ _ he => he.name) hi.events he

/-- The two functions `entries` of a ledger have a member under their signatures each. -/
theorem memberKeys_distinct_ledger :
    let o : DeclarationOptions := ⟨⟨ethersV5, "Struct", "StructOutput"⟩, false, false⟩
    ∃ c a members, Contract.ofAbi "Ledger" ledgerAbi = .ok c ∧ functionsAlias o c = .ok a ∧
      c.functions.map ContractFunction.signature = ["entries()", "entries(uint64)"] ∧
      a.body = .block members ∧ (functionMap c).KeyedOnce o members := by
  intro o
  have h : (do
      let c ← Contract.ofAbi "Ledger" ledgerAbi
      let _ ← functionsAlias o c
      return (c.functions.map ContractFunction.signature, c.functions.map ContractFunction.name,
        decide (functionMap c).DeclaresOnce)) =
        .ok (["entries()", "entries(uint64)"], ["entries", "entries"], true) := by
    decide +kernel
  simp only [bind_eq_ok_iff, pure_eq_ok_iff, Prod.mk.injEq, decide_eq_true_eq] at h
  obtain ⟨c, hc, a, ha, hsignatures, hnames, honce⟩ := h
  have hplain : ∀ f ∈ c.functions, IsPlainName f.name := by
    intro f hf
    have hmem : f.name ∈ c.functions.map ContractFunction.name := List.mem_map_of_mem hf
    rw [hnames, List.mem_cons, List.mem_singleton, or_self] at hmem
    rw [hmem]
    exact ⟨by decide, by decide⟩
  obtain ⟨hfunctions, -⟩ := memberKeys_distinct_iff hc o
  obtain ⟨members, hbody, -, hiff⟩ := hfunctions a ha
  exact ⟨c, a, members, hc, ha, hsignatures, hbody, (hiff hplain).2 honce⟩

/-- A function that is declared twice has one signature twice among the keys. -/
theorem memberKeys_clash_mint :
    let mint : AbiFunction := ⟨"mint", [], [], "nonpayable"⟩
    Config.validate {} = .ok () ∧ ∃ t c a members, Target.ofConfig {} = .ok t ∧
      Contract.ofAbi "Token" { functions := [mint, mint] } = .ok c ∧
      functionsAlias t.declarations c = .ok a ∧ a.body = .block members ∧
      ¬ (members.map Prod.fst).Nodup := by
  intro mint
  have h : (do
      let t ← Target.ofConfig {}
      let c ← Contract.ofAbi "Token" { functions := [mint, mint] }
      let _ ← functionsAlias t.declarations c
      return (t.declarations.bySignature ContractFunction.name c.functions).map
        ContractFunction.signature) = .ok ["mint()", "mint()"] := by
    decide +kernel
  simp only [bind_eq_ok_iff, pure_eq_ok_iff] at h
  obtain ⟨t, ht, c, hc, a, ha, hsignatures⟩ := h
  obtain ⟨members, hbody, hm⟩ := hasMembers_functionsAlias ha
  refine ⟨by decide +kernel, t, c, a, members, ht, hc, ha, hbody, fun hnodup => ?_⟩
  obtain ⟨-, -, hi, -⟩ := ofAbi_eq_ok_iff.1 hc
  have hapart := ((hm.nodup_keys_iff (nodup_of_resolveNames hi.functions)).1 hnodup).signatures
  change ((t.declarations.bySignature ContractFunction.name c.functions).map
    ContractFunction.signature).Nodup at hapart
  rw [hsignatures] at hapart
  exact absurd hapart (by decide)

end

end AbiBindings
