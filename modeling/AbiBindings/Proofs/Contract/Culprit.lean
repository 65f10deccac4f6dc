import AbiBindings.Proofs.Contract.WellFormed

/-!
# The entry that is wrong

Reading an ABI stops at the first thing that is wrong: a parameter whose type is none, a struct with
an unnamed component, or two entries whose names clash.  The first two lie in one entry, and what is
reported of them depends on this entry alone; a clash is reported of the contract.

    namedTypes ps = .error d ↔ ParametersFail ps d            (namedTypes_eq_error_iff)
    ContractFunction.ofAbi f id = .error e ↔
      (AbiEntry.function f).Rejects e, and so on              (ofAbi_eq_error_iff)
    Contract.ofAbi name abi = .error e → an entry alone
      gives e, or e is a clash, placed in the contract        (rejection_points_at_entry)
-/

namespace AbiBindings

/-! ## Entries -/

/-- An entry of an ABI that takes parameters. -/
inductive AbiEntry where
  | constructor (f : AbiFunction)
  | function (f : AbiFunction)
  | event (e : AbiEvent)
  | error (e : AbiError)

namespace AbiEntry

/-- What reports call an entry. -/
def title : AbiEntry → String
  | .constructor _ => "constructor"
  | .function f => f.name
  | .event e => e.name
  | .error e => e.name

/-- The parameter lists of an entry, in the order in which they are read. -/
def parameterLists : AbiEntry → List (List AbiParameter)
  | .constructor f => [f.inputs]
  | .function f => [f.inputs, f.outputs]
  | .event e => [e.inputs]
  | .error e => [e.inputs]

/-- The ABI that has only this entry. -/
def alone : AbiEntry → AbiDefinition
  | .constructor f => { constructor? := some f }
  | .function f => { functions := [f] }
  | .event e => { events := [e] }
  | .error e => { errors := [e] }

end AbiEntry

/-- The entries of an ABI, in the order in which they are read. -/
def AbiDefinition.entries (abi : AbiDefinition) : List AbiEntry :=
  abi.constructor?.toList.map .constructor ++ abi.functions.map .function ++
    abi.events.map .event ++ abi.errors.map .error

theorem AbiDefinition.mem_entries_iff {abi : AbiDefinition} {entry : AbiEntry} :
    entry ∈ abi.entries ↔ (∃ f ∈ abi.constructor?, .constructor f = entry) ∨
      (∃ f ∈ abi.functions, .function f = entry) ∨ (∃ v ∈ abi.events, .event v = entry) ∨
      ∃ r ∈ abi.errors, .error r = entry := by
  simp only [entries, List.mem_append, List.mem_map, Option.mem_toList, Option.mem_def, or_assoc]

/-! ## Parameters -/

/-- A parameter and a component are of one name, and the parameter spells the component's type. -/
def AbiParameter.SpellsComponent (p : AbiParameter) (c : Component) : Prop :=
  c.name = p.name ∧ EvmType.ofParameter p = .ok c.type

/-- What is wrong with a list of parameters, and where: the first type that cannot be read, in its
parameter if that has a name, or else the first unnamed component of a struct. -/
inductive ParametersFail : List AbiParameter → Diagnostic → Prop where
  | namedType {before after : List AbiParameter} {p : AbiParameter} {f : TypeFault}
    (hb : ∀ q ∈ before, ∃ t, EvmType.ofParameter q = .ok t)
    (hp : EvmType.ofParameter p = .error f) (hn : p.name ≠ "") :
    ParametersFail (before ++ p :: after) (f.diagnostic.within p.name)
  | unnamedType {before after : List AbiParameter} {p : AbiParameter} {f : TypeFault}
    (hb : ∀ q ∈ before, ∃ t, EvmType.ofParameter q = .ok t)
    (hp : EvmType.ofParameter p = .error f) (hn : p.name = "") :
    ParametersFail (before ++ p :: after) f.diagnostic
  | component {ps : List AbiParameter} {cs : List Component} {u : UnnamedComponent}
    (hcs : List.Forall₂ AbiParameter.SpellsComponent ps cs)
    (hu : EvmType.firstUnnamedIn? cs = some u) : ParametersFail ps u.diagnostic

theorem parameterType_eq_error_iff {p : AbiParameter} {d : Diagnostic} :
    parameterType p = .error d ↔ ∃ f, EvmType.ofParameter p = .error f ∧
      d = if p.name = "" then f.diagnostic else f.diagnostic.within p.name := by
  unfold parameterType Checked.withinNamed
  split
  · rename_i hn
    simp only [mapError_eq_error_iff, if_pos (String.isEmpty_iff.1 hn), @eq_comm _ d]
  · rename_i hn
    simp only [within_eq_error_iff, mapError_eq_error_iff, if_neg (mt String.isEmpty_iff.2 hn)]
    constructor
    · rintro ⟨_, ⟨f, hf, rfl⟩, rfl⟩
      exact ⟨f, hf, rfl⟩
    · rintro ⟨f, hf, rfl⟩
      exact ⟨_, ⟨f, hf, rfl⟩, rfl⟩

theorem checkNamed_eq_error_iff {cs : List Component} {d : Diagnostic} :
    checkNamed cs = .error d ↔ ∃ u, EvmType.firstUnnamedIn? cs = some u ∧ d = u.diagnostic := by
  unfold checkNamed
  cases EvmType.firstUnnamedIn? cs with
  | none => simp
  | some u => simp [eq_comm]

section
variable {β : Type} (make : AbiParameter → EvmType → β) {ps : List AbiParameter} {d : Diagnostic}

theorem mapM_type_eq_ok_iff {bs : List β} :
    (ps.mapM fun p => do let t ← parameterType p; return make p t) = Except.ok bs ↔
      List.Forall₂ (fun p b => ∃ t, EvmType.ofParameter p = .ok t ∧ make p t = b) ps bs := by
  simp only [mapM_eq_ok_iff, bind_eq_ok_iff, pure_eq_ok_iff, parameterType_eq_ok_iff]

theorem mapM_type_eq_error_iff :
    (ps.mapM fun p => do let t ← parameterType p; return make p t) = Except.error d ↔
      ∃ before p after, ps = before ++ p :: after ∧
        (∀ q ∈ before, ∃ t, EvmType.ofParameter q = .ok t) ∧ parameterType p = .error d := by
  simp only [mapM_eq_error_iff, bind_pure_eq_error_iff, exists_bind_eq_ok_iff, pure_eq_ok_iff,
    exists_eq', and_true, parameterType_eq_ok_iff]

/-- The components that parameters spell are determined. -/
theorem spellsComponent_rightUnique : Relator.RightUnique AbiParameter.SpellsComponent := by
  rintro p ⟨n, t⟩ ⟨m, u⟩ ⟨rfl, ht⟩ ⟨rfl, hu⟩
  cases Except.ok.inj (ht.symm.trans hu)
  rfl

/-- Parameter lists are read item by item, then the types are checked as a whole. -/
theorem checkedTypes_eq_error_iff (component : β → Component)
    (hc : ∀ p t, component (make p t) = ⟨p.name, t⟩) :
    (do
      let bs ← ps.mapM fun p => do
        let t ← parameterType p
        return make p t
      checkNamed (bs.map component)
      return bs) = Except.error d ↔ ParametersFail ps d := by
  have hcomponents {bs : List β}
      (h : (ps.mapM fun p => do let t ← parameterType p; return make p t) = Except.ok bs) :
      List.Forall₂ AbiParameter.SpellsComponent ps (bs.map component) := by
    rw [List.forall₂_map_right_iff]
    refine ((mapM_type_eq_ok_iff make).1 h).imp fun p b hb => ?_
    obtain ⟨t, ht, rfl⟩ := hb
    rw [hc]
    exact ⟨rfl, ht⟩
  rw [bind_eq_error_iff, mapM_type_eq_error_iff]
  constructor
  · rintro (⟨before, p, after, rfl, hb, hp⟩ | ⟨bs, hbs, h⟩)
    · obtain ⟨f, hf, rfl⟩ := parameterType_eq_error_iff.1 hp
      split
      · exact .unnamedType hb hf ‹_›
      · exact .namedType hb hf ‹_›
    · rcases bind_eq_error_iff.1 h with h | ⟨_, -, h⟩
      · obtain ⟨u, hu, rfl⟩ := checkNamed_eq_error_iff.1 h
        exact .component (hcomponents hbs) hu
      · cases h
  · rintro (⟨hb, hp, hn⟩ | ⟨hb, hp, hn⟩ | ⟨hcs, hu⟩)
    · exact .inl ⟨_, _, _, rfl, hb, parameterType_eq_error_iff.2 ⟨_, hp, (if_neg hn).symm⟩⟩
    · exact .inl ⟨_, _, _, rfl, hb, parameterType_eq_error_iff.2 ⟨_, hp, (if_pos hn).symm⟩⟩
    · have hall : ∀ p ∈ ps, ∃ b, ∃ t, EvmType.ofParameter p = .ok t ∧ make p t = b := by
        intro p hp
        obtain ⟨c, -, hc⟩ := exists_right_of_forall₂ hcs hp
        exact ⟨_, c.type, hc.2, rfl⟩
      obtain ⟨bs, hbs⟩ := exists_forall₂_iff.2 hall
      have hok := (mapM_type_eq_ok_iff make).2 hbs
      refine .inr ⟨bs, hok, bind_eq_error_iff.2 (.inl (checkNamed_eq_error_iff.2 ⟨_, ?_, rfl⟩))⟩
      rw [List.right_unique_forall₂' spellsComponent_rightUnique (hcomponents hok) hcs]
      exact hu

theorem namedTypes_eq_error_iff : namedTypes ps = .error d ↔ ParametersFail ps d := by
  have h := @checkedTypes_eq_error_iff _ (fun p t => ⟨p.name, t⟩) ps d
    (id : Component → Component) fun _ _ => rfl
  simp only [List.map_id] at h
  exact h

theorem eventInputs_eq_error_iff : eventInputs ps = .error d ↔ ParametersFail ps d :=
  checkedTypes_eq_error_iff (fun p t => (⟨p.name, t, p.indexed⟩ : EventInput))
    EventInput.component fun _ _ => rfl

theorem exists_namedTypes_iff_not_fails :
    (∃ cs, namedTypes ps = .ok cs) ↔ ∀ d, ¬ParametersFail ps d := by
  simp only [← namedTypes_eq_error_iff]
  cases namedTypes ps <;> simp

end

/-! ## One entry -/

/-- What is wrong with an entry: its first parameter list with something wrong says it. -/
def AbiEntry.FailsWith (entry : AbiEntry) (d : Diagnostic) : Prop :=
  ∃ before ps after, entry.parameterLists = before ++ ps :: after ∧
    (∀ qs ∈ before, ∀ d, ¬ParametersFail qs d) ∧ ParametersFail ps d

/-- A failure of an entry: what is wrong with it, placed in the entry. -/
def AbiEntry.Rejects (entry : AbiEntry) (e : Diagnostic) : Prop :=
  ∃ d, entry.FailsWith d ∧ e = d.within entry.title

section
variable {e : Diagnostic}

theorem AbiEntry.failsWith_iff {entry : AbiEntry} {d : Diagnostic} :
    entry.FailsWith d ↔ entry.parameterLists.mapM namedTypes = .error d := by
  simp only [mapM_eq_error_iff, namedTypes_eq_error_iff, exists_namedTypes_iff_not_fails]
  rfl

theorem mapM_one_eq_error_iff {α β ε : Type} {f : α → Except ε β} {a : α} {d : ε} :
    [a].mapM f = .error d ↔ f a = .error d := by
  rw [List.mapM_cons, List.mapM_nil]
  exact bind_pure_eq_error_iff (f := fun b => [b])

theorem mapM_two_eq_error_iff {α β ε : Type} {f : α → Except ε β} {a b : α} {d : ε} :
    [a, b].mapM f = .error d ↔ f a = .error d ∨ ∃ c, f a = .ok c ∧ f b = .error d := by
  rw [List.mapM_cons, bind_eq_error_iff]
  simp only [bind_pure_eq_error_iff, mapM_one_eq_error_iff]

theorem ContractConstructor.ofAbi_eq_error_iff {f : AbiFunction} :
    ContractConstructor.ofAbi f = .error e ↔ (AbiEntry.constructor f).Rejects e := by
  simp only [ContractConstructor.ofAbi, bind_pure_eq_error_iff, within_eq_error_iff,
    AbiEntry.Rejects, AbiEntry.title, AbiEntry.failsWith_iff, AbiEntry.parameterLists,
    mapM_one_eq_error_iff]

theorem ContractFunction.ofAbi_eq_error_iff (f : AbiFunction) (id : String) (e : Diagnostic) :
    ContractFunction.ofAbi f id = .error e ↔ (AbiEntry.function f).Rejects e := by
  rw [ContractFunction.ofAbi, bind_eq_error_iff]
  simp only [bind_pure_eq_error_iff, within_eq_error_iff, within_eq_ok_iff,
    AbiEntry.Rejects, AbiEntry.title, AbiEntry.failsWith_iff, AbiEntry.parameterLists,
    mapM_two_eq_error_iff]
  constructor
  · rintro (⟨d, hd, rfl⟩ | ⟨cs, hcs, d, hd, rfl⟩)
    · exact ⟨d, .inl hd, rfl⟩
    · exact ⟨d, .inr ⟨cs, hcs, hd⟩, rfl⟩
  · rintro ⟨d, hd | ⟨cs, hcs, hd⟩, rfl⟩
    · exact .inl ⟨d, hd, rfl⟩
    · exact .inr ⟨cs, hcs, d, hd, rfl⟩

theorem ContractEvent.ofAbi_eq_error_iff (v : AbiEvent) (id : String) (e : Diagnostic) :
    ContractEvent.ofAbi v id = .error e ↔ (AbiEntry.event v).Rejects e := by
  simp only [ContractEvent.ofAbi, bind_pure_eq_error_iff, within_eq_error_iff,
    AbiEntry.Rejects, AbiEntry.title, AbiEntry.failsWith_iff, AbiEntry.parameterLists,
    mapM_one_eq_error_iff, eventInputs_eq_error_iff, namedTypes_eq_error_iff]

theorem ContractError.ofAbi_eq_error_iff (r : AbiError) (id : String) (e : Diagnostic) :
    ContractError.ofAbi r id = .error e ↔ (AbiEntry.error r).Rejects e := by
  simp only [ContractError.ofAbi, bind_pure_eq_error_iff, within_eq_error_iff,
    AbiEntry.Rejects, AbiEntry.title, AbiEntry.failsWith_iff, AbiEntry.parameterLists,
    mapM_one_eq_error_iff]

/-! ## Many entries -/

/-- Entries of one kind cannot be made if two of their names clash, or if one of them is wrong. -/
theorem identified_eq_error {α β : Type} {kind : EntryKind} {name : α → String}
    {make : α → String → Checked β} {items : List α} (entry : α → AbiEntry)
    (hmake : ∀ a id e, make a id = .error e ↔ (entry a).Rejects e)
    (h : identified kind name make items = .error e) :
    (∃ message, e = .nameCollision message) ∨ ∃ a ∈ items, (entry a).Rejects e := by
  rcases bind_eq_error_iff.1 h with h | ⟨ids, -, h⟩
  · obtain ⟨clash, -, rfl⟩ := mapError_eq_error_iff.1 h
    exact .inl ⟨clash.message, rfl⟩
  · obtain ⟨before, ⟨a, id⟩, after, hzip, -, ha⟩ := mapM_eq_error_iff.1 h
    have hmem : (a, id) ∈ items.zip ids := hzip ▸ List.mem_append_right _ List.mem_cons_self
    exact .inr ⟨a, (List.of_mem_zip hmem).1, (hmake a id e).1 ha⟩

/-- One entry alone has its name as its identifier. -/
theorem identified_one {α β : Type} {kind : EntryKind} {name : α → String}
    {make : α → String → Checked β} {a : α} :
    identified kind name make [a] = (make a (name a)).map fun b => [b] := by
  have hids : resolveNames kind [name a] = .ok [name a] := by
    simp [resolveNames, resolveAfter, numberedName, Except.map]
  unfold identified
  rw [List.map_singleton, hids]
  show [(a, name a)].mapM (fun x => make x.1 x.2) = _
  rw [List.mapM_cons, List.mapM_nil]
  cases make a (name a) <;> rfl

section
variable {name : String} {abi : AbiDefinition}

theorem entriesOfAbi_eq_error (h : Contract.entriesOfAbi name abi = .error e) :
    (∃ message, e = .nameCollision message) ∨ ∃ entry ∈ abi.entries, entry.Rejects e := by
  simp only [AbiDefinition.mem_entries_iff]
  unfold Contract.entriesOfAbi at h
  rcases bind_eq_error_iff.1 h with h | ⟨_, -, h⟩
  · obtain ⟨f, hf, h⟩ := optionMapM_eq_error_iff.1 h
    exact .inr ⟨_, .inl ⟨f, hf, rfl⟩, ContractConstructor.ofAbi_eq_error_iff.1 h⟩
  rcases bind_eq_error_iff.1 h with h | ⟨_, -, h⟩
  · rcases identified_eq_error .function ContractFunction.ofAbi_eq_error_iff h with
      h | ⟨f, hf, h⟩
    · exact .inl h
    · exact .inr ⟨_, .inr (.inl ⟨f, hf, rfl⟩), h⟩
  rcases bind_eq_error_iff.1 h with h | ⟨_, -, h⟩
  · rcases identified_eq_error .event ContractEvent.ofAbi_eq_error_iff h with
      h | ⟨v, hv, h⟩
    · exact .inl h
    · exact .inr ⟨_, .inr (.inr (.inl ⟨v, hv, rfl⟩)), h⟩
  · rcases identified_eq_error .error ContractError.ofAbi_eq_error_iff
      (bind_pure_eq_error_iff.1 h) with h | ⟨r, hr, h⟩
    · exact .inl h
    · exact .inr ⟨_, .inr (.inr (.inr ⟨r, hr, rfl⟩)), h⟩

theorem entriesOfAbi_alone {entry : AbiEntry} (h : entry.Rejects e) :
    Contract.entriesOfAbi name entry.alone = .error e := by
  unfold Contract.entriesOfAbi
  cases entry with
  | constructor f =>
    have hf := ContractConstructor.ofAbi_eq_error_iff.2 h
    exact bind_eq_error_iff.2 (.inl (optionMapM_eq_error_iff.2 ⟨f, rfl, hf⟩))
  | function f =>
    have hf := (ContractFunction.ofAbi_eq_error_iff f f.name e).2 h
    refine bind_eq_error_iff.2 (.inr ⟨none, rfl, bind_eq_error_iff.2 (.inl ?_)⟩)
    exact identified_one.trans (map_eq_error_iff.2 hf)
  | event v =>
    have hv := (ContractEvent.ofAbi_eq_error_iff v v.name e).2 h
    refine bind_eq_error_iff.2 (.inr ⟨none, rfl, bind_eq_error_iff.2 (.inr ⟨[], rfl, ?_⟩)⟩)
    exact bind_eq_error_iff.2 (.inl (identified_one.trans (map_eq_error_iff.2 hv)))
  | error r =>
    have hr := (ContractError.ofAbi_eq_error_iff r r.name e).2 h
    refine bind_eq_error_iff.2 (.inr ⟨none, rfl, bind_eq_error_iff.2 (.inr ⟨[], rfl, ?_⟩)⟩)
    refine bind_eq_error_iff.2 (.inr ⟨[], rfl, bind_pure_eq_error_iff.2 ?_⟩)
    exact identified_one.trans (map_eq_error_iff.2 hr)

theorem withStructs_eq_error {c : Contract} (h : c.withStructs = .error e) :
    ∃ message, e = .nameCollision message := by
  obtain ⟨clash, -, rfl⟩ := mapError_eq_error_iff.1 (bind_pure_eq_error_iff.1 h)
  exact ⟨clash.message, rfl⟩

/-! ## Reports -/

theorem ParametersFail.kind {ps : List AbiParameter} {d : Diagnostic} (h : ParametersFail ps d) :
    d.kind = .malformedAbi := by
  cases h with
  | namedType => exact Diagnostic.kind_within _ _
  | unnamedType | component => rfl

theorem AbiEntry.Rejects.kind {entry : AbiEntry} (h : entry.Rejects e) :
    e.kind = .malformedAbi := by
  obtain ⟨d, ⟨_, _, _, -, -, hd⟩, rfl⟩ := h
  rw [Diagnostic.kind_within, hd.kind]

/-- What is malformed lies in one entry, which alone gives the same report: it is placed in the
parameter whose type it is about, if that has a name, in the entry and in the contract.  Anything
else is a clash of names, placed in the contract. -/
theorem rejection_points_at_entry (h : Contract.ofAbi name abi = .error e) :
    (e.kind = .malformedAbi ∨ e.kind = .nameCollision) ∧
    (e.kind = .malformedAbi → ∃ entry ∈ abi.entries,
      Contract.ofAbi name entry.alone = .error e ∧
      ∃ d, entry.FailsWith d ∧ e = (d.within entry.title).within name) ∧
    (e.kind = .nameCollision → e = (Diagnostic.nameCollision e.message).within name) := by
  obtain ⟨d, hd, rfl⟩ := within_eq_error_iff.1 h
  have hcases : (∃ message, d = .nameCollision message) ∨
      ∃ entry ∈ abi.entries, entry.Rejects d := by
    rcases bind_eq_error_iff.1 hd with hd | ⟨c, -, hd⟩
    · exact entriesOfAbi_eq_error hd
    · exact .inl (withStructs_eq_error hd)
  rw [Diagnostic.kind_within, Diagnostic.message_within]
  rcases hcases with ⟨message, rfl⟩ | ⟨entry, hmem, hr⟩
  · exact ⟨.inr rfl, nofun, fun _ => rfl⟩
  · refine ⟨.inl hr.kind, fun _ => ⟨entry, hmem, ?_, ?_⟩, fun hk => ?_⟩
    · exact within_eq_error_iff.2 ⟨d, bind_eq_error_iff.2 (.inl (entriesOfAbi_alone hr)), rfl⟩
    · obtain ⟨d', hd', rfl⟩ := hr
      exact ⟨d', hd', rfl⟩
    · rw [hr.kind] at hk
      cases hk

end

end

/-- The ledger with one more function and an error that both have a type of their own. -/
def widthLedger (type : String) : AbiDefinition :=
  { ledgerAbi with
    functions := ledgerAbi.functions ++ [⟨"entries_1", [], [width], "view"⟩]
    errors := [⟨"Unbalanced", [{ width with name := "" }]⟩] }
where
  width : AbiParameter := ⟨"width", type, none, none, false⟩

/-- The same without the first function of two with one name. -/
def narrowLedger : AbiDefinition :=
  { widthLedger "uint7" with functions := (widthLedger "uint7").functions.drop 1 }

/-- What the width of a wrong type is reported as. -/
def narrowReport : Diagnostic where
  kind := .malformedAbi
  scope := ["Ledger", "entries_1", "width"]
  message := "integer width must be a multiple of 8 in 8..=256, got 'uint7'"

/-- Numbered functions clash with another one; without them a width is wrong in two places. -/
theorem rejection_points_at_entry_ledger :
    (∃ e, Contract.ofAbi "Ledger" (widthLedger "uint7") = .error e ∧
      e = (Diagnostic.nameCollision e.message).within "Ledger") ∧
    Contract.ofAbi "Ledger" narrowLedger = .error narrowReport ∧
    ∃ entry ∈ narrowLedger.entries, Contract.ofAbi "Ledger" entry.alone = .error narrowReport ∧
      ∃ d, entry.FailsWith d ∧ narrowReport = (d.within entry.title).within "Ledger" := by
  constructor
  · have h : (match Contract.ofAbi "Ledger" (widthLedger "uint7") with
        | .error e => e.kind == .nameCollision
        | .ok _ => false) = true := by
      decide +kernel
    split at h
    · rename_i e he
      exact ⟨e, he, (rejection_points_at_entry he).2.2 (beq_iff_eq.1 h)⟩
    · cases h
  · have h : (match Contract.ofAbi "Ledger" narrowLedger with
        | .error e => e == narrowReport
        | .ok _ => false) = true := by
      decide +kernel
    split at h
    · rename_i e he
      rw [beq_iff_eq.1 h] at he
      exact ⟨he, (rejection_points_at_entry he).2.1 rfl⟩
    · cases h

end AbiBindings
