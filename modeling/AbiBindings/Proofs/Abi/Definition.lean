import AbiBindings.Proofs.Abi.Parameter

/-!
# Definitions entry by entry

`Collects es d` says what an array of entries declares: one function for each entry of that kind, in
order, and so for events and errors, the last of the constructors, and whether there is a fallback
or a receive entry.  Each entry counts as if it stood alone, so definitions are put together as
their arrays are.

    addEntry d v = (addEntry {} v).map d.append                     (addEntry_eq)
    ofEntries (es ++ fs) is the definitions of es and fs together    (ofEntries_append)
    ofEntries es = .ok d ↔ Collects es d                             (ofEntries_eq_ok_iff)
-/

namespace AbiBindings

/-! ## Entries in data -/

section
variable (v : Json)

/-- An entry has the fields of a function or of a constructor of this name. -/
structure HoldsCallable (name : String) (f : AbiFunction) : Prop where
  name : f.name = name
  inputs : HoldParameters ((v.arrayField? "inputs").getD []) f.inputs
  outputs : HoldParameters ((v.arrayField? "outputs").getD []) f.outputs
  stateMutability :
    f.stateMutability = (v.stringField? "stateMutability").getD (legacyMutability v)

def HoldsFunction (f : AbiFunction) : Prop :=
  ∃ name, v.stringField? "name" = some name ∧ HoldsCallable v name f

def HoldsConstructor (f : AbiFunction) : Prop :=
  HoldsCallable v ((v.stringField? "name").getD "constructor") f

structure HoldsEvent (e : AbiEvent) : Prop where
  name : v.stringField? "name" = some e.name
  inputs : HoldParameters ((v.arrayField? "inputs").getD []) e.inputs
  anonymous : e.anonymous = v.flag "anonymous"

structure HoldsError (e : AbiError) : Prop where
  name : v.stringField? "name" = some e.name
  inputs : HoldParameters ((v.arrayField? "inputs").getD []) e.inputs

end

/-- The entries of a kind. -/
def ofKind (kind : String) (es : List Json) : List Json := es.filter fun v => entryType v = kind

/-- Entries of these kinds declare something with a name or parameters. -/
def IsDeclaration (v : Json) : Prop := entryType v ∈ ["function", "constructor", "event", "error"]

/-- A definition is what the entries of an array declare. -/
structure Collects (es : List Json) (d : AbiDefinition) : Prop where
  functions : List.Forall₂ HoldsFunction (ofKind "function" es) d.functions
  events : List.Forall₂ HoldsEvent (ofKind "event" es) d.events
  errors : List.Forall₂ HoldsError (ofKind "error" es) d.errors
  /-- Constructors replace each other. -/
  constructors : ∃ cs, List.Forall₂ HoldsConstructor (ofKind "constructor" es) cs ∧
    d.constructor? = cs.getLast?
  hasFallback : d.hasFallback = true ↔ ∃ v ∈ es, entryType v = "fallback"
  hasReceive : d.hasReceive = true ↔ ∃ v ∈ es, entryType v = "receive"
  contractName : d.contractName = none

/-! ## Reading an entry -/

section
variable {v : Json}

theorem readCallable_eq_ok_iff {name : String} {f : AbiFunction} :
    readCallable name v = .ok f ↔ HoldsCallable v name f := by
  simp only [readCallable, bind_eq_ok_iff, pure_eq_ok_iff, readParameterField_eq_ok_iff]
  constructor
  · rintro ⟨inputs, hi, outputs, ho, rfl⟩
    exact ⟨rfl, hi, ho, rfl⟩
  · rintro ⟨rfl, hi, ho, hs⟩
    exact ⟨f.inputs, hi, f.outputs, ho, by rw [← hs]⟩

theorem readFunction_eq_ok_iff {f : AbiFunction} :
    readFunction v = .ok f ↔ HoldsFunction v f := by
  unfold readFunction HoldsFunction
  cases v.stringField? "name" with
  | none => simp
  | some name => simp [readCallable_eq_ok_iff]

theorem readConstructor_eq_ok_iff {f : AbiFunction} :
    readConstructor v = .ok f ↔ HoldsConstructor v f :=
  readCallable_eq_ok_iff

theorem readEvent_eq_ok_iff {e : AbiEvent} : readEvent v = .ok e ↔ HoldsEvent v e := by
  unfold readEvent
  split
  · rename_i hn
    constructor
    · intro h
      cases h
    · rintro ⟨h, -, -⟩
      cases hn.symm.trans h
  · rename_i name hn
    simp only [bind_eq_ok_iff, pure_eq_ok_iff, readParameterField_eq_ok_iff]
    constructor
    · rintro ⟨inputs, hi, rfl⟩
      exact ⟨hn, hi, rfl⟩
    · rintro ⟨h, hi, ha⟩
      cases hn.symm.trans h
      exact ⟨e.inputs, hi, by rw [← ha]⟩

theorem readError_eq_ok_iff {e : AbiError} : readError v = .ok e ↔ HoldsError v e := by
  unfold readError
  split
  · rename_i hn
    constructor
    · intro h
      cases h
    · rintro ⟨h, -⟩
      cases hn.symm.trans h
  · rename_i name hn
    simp only [bind_eq_ok_iff, pure_eq_ok_iff, readParameterField_eq_ok_iff]
    constructor
    · rintro ⟨inputs, hi, rfl⟩
      exact ⟨hn, hi⟩
    · rintro ⟨h, hi⟩
      cases hn.symm.trans h
      exact ⟨e.inputs, hi, rfl⟩

end

/-! ## Definitions together -/

namespace AbiDefinition

/-- The entries of two definitions, the first ones first; the later constructor counts. -/
def append (d e : AbiDefinition) : AbiDefinition where
  contractName := d.contractName.or e.contractName
  constructor? := e.constructor?.or d.constructor?
  functions := d.functions ++ e.functions
  events := d.events ++ e.events
  errors := d.errors ++ e.errors
  hasFallback := d.hasFallback || e.hasFallback
  hasReceive := d.hasReceive || e.hasReceive

theorem append_empty (d : AbiDefinition) : d.append {} = d := by
  simp [append]

theorem append_assoc (a b c : AbiDefinition) : (a.append b).append c = a.append (b.append c) := by
  simp only [append, List.append_assoc, Bool.or_assoc, Option.or_assoc]

/-! ## Along the array -/

/-- An entry adds what it declares alone. -/
theorem addEntry_eq (d : AbiDefinition) (v : Json) :
    d.addEntry v = (addEntry {} v).map d.append := by
  unfold addEntry
  split
  · cases readConstructor v <;> simp [append, Except.map]
  · cases readFunction v <;> simp [append, Except.map]
  · cases readEvent v <;> simp [append, Except.map]
  · cases readError v <;> simp [append, Except.map]
  · simp [append, Except.map]
  · simp [append, Except.map]
  · rw [Except.map, append_empty]

theorem foldlM_addEntry (d : AbiDefinition) (es : List Json) :
    es.foldlM addEntry d = (ofEntries es).map d.append := by
  induction es generalizing d with
  | nil => exact congrArg Except.ok (append_empty d).symm
  | cons v es ih =>
    rw [ofEntries, List.foldlM_cons, List.foldlM_cons, addEntry_eq]
    cases addEntry {} v with
    | error f => rfl
    | ok a =>
      change es.foldlM addEntry (d.append a) = (es.foldlM addEntry a).map d.append
      rw [ih, ih]
      cases ofEntries es with
      | error f => rfl
      | ok b => exact congrArg Except.ok (append_assoc d a b)

theorem ofEntries_append (es fs : List Json) :
    ofEntries (es ++ fs) = ofEntries es >>= fun d => (ofEntries fs).map d.append := by
  rw [ofEntries, List.foldlM_append]
  exact bind_congr fun d => foldlM_addEntry d fs

theorem ofEntries_singleton (v : Json) : ofEntries [v] = addEntry {} v :=
  bind_pure (addEntry {} v)

/-- The definition of an array is made of those of its entries. -/
theorem ofEntries_eq_mapM (es : List Json) :
    ofEntries es = (es.mapM fun v => ofEntries [v]).map fun ds => ds.foldr append {} := by
  induction es with
  | nil => rfl
  | cons v es ih =>
    rw [List.mapM_cons, ← List.singleton_append, ofEntries_append, ih]
    cases ofEntries [v] with
    | error f => rfl
    | ok a =>
      cases es.mapM fun v => ofEntries [v] with
      | error f => rfl
      | ok ds => rfl

end AbiDefinition

/-! ## What is collected -/

section
variable {es fs : List Json} {v : Json} {d e : AbiDefinition}

theorem Collects.empty : Collects [] {} where
  functions := .nil
  events := .nil
  errors := .nil
  constructors := ⟨[], .nil, rfl⟩
  hasFallback := by simp
  hasReceive := by simp
  contractName := rfl

theorem Collects.append (hd : Collects es d) (he : Collects fs e) :
    Collects (es ++ fs) (d.append e) := by
  obtain ⟨cs, hcs, hlast⟩ := hd.constructors
  obtain ⟨cs', hcs', hlast'⟩ := he.constructors
  have hkind : ∀ kind, ofKind kind (es ++ fs) = ofKind kind es ++ ofKind kind fs :=
    fun kind => List.filter_append es fs
  have hflag : ∀ kind, (∃ v ∈ es ++ fs, entryType v = kind) ↔
      (∃ v ∈ es, entryType v = kind) ∨ ∃ v ∈ fs, entryType v = kind := fun kind => by
    simp only [List.mem_append, or_and_right, exists_or]
  constructor
  case functions => exact hkind _ ▸ List.rel_append hd.functions he.functions
  case events => exact hkind _ ▸ List.rel_append hd.events he.events
  case errors => exact hkind _ ▸ List.rel_append hd.errors he.errors
  case constructors =>
    refine ⟨cs ++ cs', hkind _ ▸ List.rel_append hcs hcs', ?_⟩
    rw [List.getLast?_append, ← hlast, ← hlast']
    rfl
  case hasFallback => rw [hflag, ← hd.hasFallback, ← he.hasFallback, ← Bool.or_eq_true]; rfl
  case hasReceive => rw [hflag, ← hd.hasReceive, ← he.hasReceive, ← Bool.or_eq_true]; rfl
  case contractName => rw [AbiDefinition.append, hd.contractName, he.contractName]; rfl

/-- An array determines its definition. -/
theorem Collects.unique (hd : Collects es d) (he : Collects es e) : d = e := by
  have huniq : ∀ {α : Type} {read : Json → Except AbiFault α} {R : Json → α → Prop}
      (_ : ∀ v a, read v = .ok a ↔ R v a), Relator.RightUnique (List.Forall₂ R) := by
    intro α read R hR l as bs ha hb
    rw [← forall₂_iff_of_iff hR, ← mapM_eq_ok_iff] at ha hb
    exact Except.ok.inj (ha.symm.trans hb)
  obtain ⟨cs, hcs, hlast⟩ := hd.constructors
  obtain ⟨cs', hcs', hlast'⟩ := he.constructors
  have hc := huniq (fun _ _ => readConstructor_eq_ok_iff) hcs hcs'
  have hf := huniq (fun _ _ => readFunction_eq_ok_iff) hd.functions he.functions
  have hv := huniq (fun _ _ => readEvent_eq_ok_iff) hd.events he.events
  have hr := huniq (fun _ _ => readError_eq_ok_iff) hd.errors he.errors
  have hfallback := Bool.eq_iff_iff.2 (hd.hasFallback.trans he.hasFallback.symm)
  have hreceive := Bool.eq_iff_iff.2 (hd.hasReceive.trans he.hasReceive.symm)
  have hname := hd.contractName.trans he.contractName.symm
  have hconstructor : d.constructor? = e.constructor? := by rw [hlast, hlast', hc]
  cases d
  cases e
  simp_all only

theorem collects_singleton (h : AbiDefinition.addEntry {} v = .ok d) : Collects [v] d := by
  unfold AbiDefinition.addEntry at h
  split at h
  · rename_i hk
    obtain ⟨c, hc, rfl⟩ := map_eq_ok_iff.1 h
    constructor
    case constructors =>
      exact ⟨[c], by simpa [ofKind, hk] using readConstructor_eq_ok_iff.1 hc, rfl⟩
    all_goals simp [ofKind, hk]
  · rename_i hk
    obtain ⟨f, hf, rfl⟩ := map_eq_ok_iff.1 h
    constructor
    case functions => simpa [ofKind, hk] using readFunction_eq_ok_iff.1 hf
    all_goals simp [ofKind, hk]
  · rename_i hk
    obtain ⟨e, he, rfl⟩ := map_eq_ok_iff.1 h
    constructor
    case events => simpa [ofKind, hk] using readEvent_eq_ok_iff.1 he
    all_goals simp [ofKind, hk]
  · rename_i hk
    obtain ⟨r, hr, rfl⟩ := map_eq_ok_iff.1 h
    constructor
    case errors => simpa [ofKind, hk] using readError_eq_ok_iff.1 hr
    all_goals simp [ofKind, hk]
  · rename_i hk
    cases h
    constructor <;> simp [ofKind, hk]
  · rename_i hk
    cases h
    constructor <;> simp [ofKind, hk]
  · rename_i hc hf hv hr hb hg
    cases h
    have hne : ∀ {kind}, (entryType v = kind → False) → ofKind kind [v] = [] := fun hk =>
      List.filter_eq_nil_iff.2 fun w hw hd =>
        hk (List.mem_singleton.1 hw ▸ of_decide_eq_true hd)
    constructor
    case functions => rw [hne hf]; exact .nil
    case events => rw [hne hv]; exact .nil
    case errors => rw [hne hr]; exact .nil
    case constructors => rw [hne hc]; exact ⟨[], .nil, rfl⟩
    case hasFallback => simpa using hb
    case hasReceive => simpa using hg
    case contractName => rfl

theorem collects_of_ofEntries (h : AbiDefinition.ofEntries es = .ok d) : Collects es d := by
  induction es generalizing d with
  | nil =>
    cases h
    exact .empty
  | cons v es ih =>
    rw [← List.singleton_append, AbiDefinition.ofEntries_append,
      AbiDefinition.ofEntries_singleton] at h
    obtain ⟨a, ha, h⟩ := bind_eq_ok_iff.1 h
    obtain ⟨b, hb, rfl⟩ := map_eq_ok_iff.1 h
    exact (collects_singleton ha).append (ih hb)

/-! ## Which arrays are definitions -/

namespace AbiDefinition

theorem exists_ofEntries_of_not_isDeclaration (h : ¬IsDeclaration v) :
    ∃ d, ofEntries [v] = .ok d := by
  rw [ofEntries_singleton, addEntry]
  split
  case h_5 | h_6 | h_7 => exact ⟨_, rfl⟩
  all_goals
    rename_i hk
    exact absurd (by simp [IsDeclaration, hk]) h

theorem exists_ofEntries_iff :
    (∃ d, ofEntries es = .ok d) ↔ ∀ v ∈ es, IsDeclaration v → ∃ d, ofEntries [v] = .ok d := by
  rw [ofEntries_eq_mapM, exists_map_eq_ok_iff, exists_mapM_eq_ok_iff]
  refine forall₂_congr fun v _ => ⟨fun h _ => h, fun h => ?_⟩
  by_cases hv : IsDeclaration v
  · exact h hv
  · exact exists_ofEntries_of_not_isDeclaration hv

/-- Reading fails at the first entry that cannot be read. -/
theorem ofEntries_eq_error_iff {f : AbiFault} :
    ofEntries es = .error f ↔ ∃ before v after, es = before ++ v :: after ∧
      (∀ b ∈ before, IsDeclaration b → ∃ d, ofEntries [b] = .ok d) ∧ IsDeclaration v ∧
      ofEntries [v] = .error f := by
  rw [ofEntries_eq_mapM, map_eq_error_iff, mapM_eq_error_iff]
  refine exists₃_congr fun before v after => and_congr_right fun _ => and_congr ?_ ?_
  · rw [← exists_ofEntries_iff, ofEntries_eq_mapM, exists_map_eq_ok_iff, exists_mapM_eq_ok_iff]
  · refine ⟨fun h => ⟨?_, h⟩, And.right⟩
    by_contra hv
    obtain ⟨d, hd⟩ := exists_ofEntries_of_not_isDeclaration hv
    cases h.symm.trans hd

end AbiDefinition

/-- What is collected can be read, entry by entry. -/
theorem Collects.exists_ofEntries (h : Collects es d) :
    ∃ d', AbiDefinition.ofEntries es = .ok d' := by
  refine AbiDefinition.exists_ofEntries_iff.2 fun v hv hd => ?_
  rw [AbiDefinition.ofEntries_singleton, AbiDefinition.addEntry]
  have hmem : ∀ {kind}, entryType v = kind → v ∈ ofKind kind es := fun hk =>
    List.mem_filter.2 ⟨hv, decide_eq_true hk⟩
  split
  · rename_i hk
    obtain ⟨cs, hcs, -⟩ := h.constructors
    obtain ⟨c, -, hc⟩ := exists_right_of_forall₂ hcs (hmem hk)
    exact exists_map_eq_ok_iff.2 ⟨c, readConstructor_eq_ok_iff.2 hc⟩
  · rename_i hk
    obtain ⟨f, -, hf⟩ := exists_right_of_forall₂ h.functions (hmem hk)
    exact exists_map_eq_ok_iff.2 ⟨f, readFunction_eq_ok_iff.2 hf⟩
  · rename_i hk
    obtain ⟨e, -, he⟩ := exists_right_of_forall₂ h.events (hmem hk)
    exact exists_map_eq_ok_iff.2 ⟨e, readEvent_eq_ok_iff.2 he⟩
  · rename_i hk
    obtain ⟨r, -, hr⟩ := exists_right_of_forall₂ h.errors (hmem hk)
    exact exists_map_eq_ok_iff.2 ⟨r, readError_eq_ok_iff.2 hr⟩
  all_goals exact ⟨_, rfl⟩

theorem ofEntries_eq_ok_iff : AbiDefinition.ofEntries es = .ok d ↔ Collects es d := by
  refine ⟨collects_of_ofEntries, fun h => ?_⟩
  obtain ⟨d', hd'⟩ := h.exists_ofEntries
  rw [hd', h.unique (collects_of_ofEntries hd')]

end

/-- An artifact has the definition of its array, and its own name. -/
theorem ofJson_object {es : List Json} {fields : List (String × Json)}
    (h : Json.lastField? "abi" fields = some (.array es)) :
    AbiDefinition.ofJson (.object fields) = (AbiDefinition.ofEntries es).map fun d =>
      { d with contractName := (Json.object fields).stringField? "contractName" } := by
  simp only [AbiDefinition.ofJson, h]

/-! ## Main result -/

open AbiDefinition in
/-- No entry of an array is lost, moved or taken for another. -/
theorem ofJson_conserves_entries (es : List Json) :
    ((∃ d, ofJson (.array es) = .ok d) ↔
      ∀ v ∈ es, IsDeclaration v → ∃ d, ofJson (.array [v]) = .ok d) ∧
    (∀ f, ofJson (.array es) = .error f ↔ ∃ before v after, es = before ++ v :: after ∧
      (∀ b ∈ before, IsDeclaration b → ∃ d, ofJson (.array [b]) = .ok d) ∧ IsDeclaration v ∧
      ofJson (.array [v]) = .error f) ∧
    (∀ d, ofJson (.array es) = .ok d ↔ Collects es d) ∧
    (∀ fs, ofJson (.array (es ++ fs)) =
      ofJson (.array es) >>= fun d => (ofJson (.array fs)).map d.append) ∧
    ∀ fields, Json.lastField? "abi" fields = some (.array es) →
      ofJson (.object fields) = (ofJson (.array es)).map fun d =>
        { d with contractName := (Json.object fields).stringField? "contractName" } := by
  refine ⟨exists_ofEntries_iff, fun f => ofEntries_eq_error_iff, fun d => ofEntries_eq_ok_iff,
    ofEntries_append es, fun fields => ofJson_object⟩

/-- A parameter as an array of parameters writes it. -/
def parameterJson (name type : String) (components : List Json) : Json :=
  .object [("name", .string name), ("type", .string type), ("components", .array components)]

/-- Entries of each kind, a function without a type and two constructors among them. -/
def marketEntries : List Json := [
  .object [("type", .string "constructor"),
    ("inputs", .array [parameterJson "fee" "uint256" []])],
  .object [("name", .string "quote"), ("constant", .bool true),
    ("inputs", .array [parameterJson "path" "tuple[]"
      [parameterJson "hop" "tuple" [parameterJson "pool" "address" []]]])],
  .object [("type", .string "event"), ("name", .string "Traded")],
  .object [("type", .string "fallback")],
  .object [("type", .string "comment"), ("name", .string "Traded")],
  .object [("type", .string "error"), ("name", .string "Halted")],
  .object [("type", .string "constructor")]]

def marketDefinition : AbiDefinition where
  constructor? := some ⟨"constructor", [], [], "nonpayable"⟩
  functions := [⟨"quote", [⟨"path", "tuple[]", none, some [⟨"hop", "tuple", none,
    some [⟨"pool", "address", none, none, false⟩], false⟩], false⟩], [], "view"⟩]
  events := [⟨"Traded", [], false⟩]
  errors := [⟨"Halted", []⟩]
  hasFallback := true

open AbiDefinition in
theorem ofJson_conserves_entries_market :
    Collects marketEntries marketDefinition ∧
    ofJson (.object [("contractName", .string "Market"), ("abi", .array marketEntries)]) =
      .ok { marketDefinition with contractName := some "Market" } ∧
    ofJson (.array (marketEntries ++ [.object [("type", .string "error")]])) =
      .error .unnamedError := by
  obtain ⟨-, -, hok, happend, hobject⟩ := ofJson_conserves_entries marketEntries
  have h : ofJson (.array marketEntries) = .ok marketDefinition := rfl
  refine ⟨(hok _).1 h, ?_, ?_⟩
  · rw [hobject [("contractName", .string "Market"), ("abi", .array marketEntries)] rfl, h]
    rfl
  · rw [happend, h]
    rfl

end AbiBindings
