import AbiBindings.Proofs.Declaration.Coverage
import AbiBindings.Proofs.Declaration.File
import Mathlib.Data.List.Nodup
import Mathlib.Data.List.Pairwise

/-!
# Names of aliases

The aliases of a declaration file are called after structs, events, errors and the contract, each
with an ending.  Events differ from events and errors from errors, and so do the structs of one
owner in one direction; nothing else keeps the names apart: an ending may be part of a name, and the
contract has none.  If the endings of structs are no ends of each other or of the fixed endings,
names clash only with that of the contract.

    the aliases of each scope have distinct names ↔ the names that endings make are distinct
    endings apart → … ↔ the contract is not called like an alias of its own
                                                                (declaredAliases_distinct_iff)
-/

namespace AbiBindings

/-! ## Scopes -/

/-- The name of an alias; a namespace has none. -/
def Statement.aliasName? : Statement → Option String
  | .alias a => some a.name
  | .module _ _ => none

/-- The names of the aliases at the top level. -/
def topLevelNames (statements : List Statement) : List String :=
  statements.filterMap Statement.aliasName?

/-- In each scope, the top level and the namespaces, the aliases have distinct names. -/
structure ScopesApart (statements : List Statement) : Prop where
  topLevel : (topLevelNames statements).Nodup
  namespaces : ∀ owner aliases, .module owner aliases ∈ statements →
    (aliases.map TypeAlias.name).Nodup

/-! ## Names -/

/-- The names of a struct's aliases. -/
def structNames (y : Typing) (s : StructType) : List String :=
  [s.name.identifier ++ y.inputSuffix, s.name.identifier ++ y.outputSuffix]

namespace Contract

/-- The structs of an owner, or those at the top level. -/
def structsOf (c : Contract) (owner? : Option String) : List StructType :=
  c.structs.filter (·.name.owner = owner?)

/-- What the names of events, errors and the maps of entries are put together from. -/
def entryPieces (c : Contract) : List (String × String) :=
  (c.name, "Functions") :: ((c.events.map fun e => (e.identifier, "Event")) ++
    (c.name, "Events") :: ((c.errors.map fun e => (e.identifier, "Error")) ++
      [(c.name, "Errors")]))

/-- The names of the aliases of events and errors, and of the maps of entries. -/
def entryNames (c : Contract) : List String := c.entryPieces.map fun p => p.1 ++ p.2

/-- The names of the aliases of structs at the top level, of events and of errors. -/
def endedNames (y : Typing) (c : Contract) : List String :=
  (c.structsOf none).flatMap (structNames y) ++ c.events.map eventName ++ c.errors.map errorName

/-- The names that endings make are distinct, and none is the contract's. -/
structure AliasesApart (y : Typing) (c : Contract) : Prop where
  structs : ∀ s ∈ c.structs, ∀ u ∈ c.structs, s.name.owner = u.name.owner →
    s.name.identifier ++ y.inputSuffix ≠ u.name.identifier ++ y.outputSuffix
  entries : ∀ s ∈ c.structs, s.name.owner = none → ∀ n ∈ structNames y s, n ∉ c.entryNames
  contract : c.name ∉ c.endedNames y

end Contract

/-! ## Endings -/

/-- Neither text is an end of the other. -/
def EndsApart (s t : String) : Prop := ¬ s.toList <:+ t.toList ∧ ¬ t.toList <:+ s.toList

instance (s t : String) : Decidable (EndsApart s t) := inferInstanceAs (Decidable (_ ∧ _))

/-- The endings of maps, events and errors. -/
def fixedEndings : List String := ["Functions", "Events", "Errors", "Event", "Error"]

/-- The endings of structs are no ends of each other or of the fixed endings. -/
def Typing.EndingsApart (y : Typing) : Prop :=
  EndsApart y.inputSuffix y.outputSuffix ∧
    ∀ ending ∈ fixedEndings, EndsApart y.inputSuffix ending ∧ EndsApart y.outputSuffix ending

instance (y : Typing) : Decidable y.EndingsApart := inferInstanceAs (Decidable (_ ∧ _))

theorem EndsApart.append_ne {s t : String} (h : EndsApart s t) (a b : String) :
    a ++ s ≠ b ++ t := by
  intro he
  have hs : s.toList <:+ (a ++ s).toList := by
    rw [String.toList_append]
    exact List.suffix_append _ _
  have ht : t.toList <:+ (a ++ s).toList := by
    rw [he, String.toList_append]
    exact List.suffix_append _ _
  rcases List.suffix_or_suffix_of_suffix hs ht with hst | hts
  · exact h.1 hst
  · exact h.2 hts

/-! ## Structs -/

variable {y : Typing} {o : DeclarationOptions} {c : Contract}

theorem names_aliasesOfStructs {l : List StructType} {aliases : List TypeAlias}
    (h : aliasesOfStructs y l = .ok aliases) :
    aliases.map TypeAlias.name = l.flatMap (structNames y) := by
  have hboth {s : StructType} {both : List TypeAlias} (hs : structAliases y s = .ok both) :
      both.map TypeAlias.name = structNames y s := by
    simp only [structAliases, structAlias, within_eq_ok_iff, bind_eq_ok_iff, pure_eq_ok_iff] at hs
    obtain ⟨_, ⟨_, -, rfl⟩, _, ⟨_, -, rfl⟩, rfl⟩ := hs
    rfl
  obtain ⟨lists, hl, rfl⟩ := map_eq_ok_iff.1 h
  rw [List.map_flatten, map_of_mapM_eq_ok (fun s both => hboth) hl, List.flatMap_def]

theorem topLevelNames_append (before after : List Statement) :
    topLevelNames (before ++ after) = topLevelNames before ++ topLevelNames after :=
  List.filterMap_append

theorem topLevelNames_alias_cons (a : TypeAlias) (rest : List Statement) :
    topLevelNames (.alias a :: rest) = a.name :: topLevelNames rest := rfl

theorem topLevelNames_aliases (aliases : List TypeAlias) :
    topLevelNames (aliases.map .alias) = aliases.map TypeAlias.name := by
  rw [topLevelNames, List.filterMap_map]
  exact congrFun List.filterMap_eq_map aliases

/-- The statements of structs declare the aliases of those at the top level, and those of each
owner's in a namespace. -/
theorem names_structStatements {structs : List StructType} {statements : List Statement}
    (h : structStatements y structs = .ok statements) :
    topLevelNames statements =
        (NamespaceGroups.ofStructs structs).topLevel.flatMap (structNames y) ∧
      ∀ owner names,
        (∃ aliases, .module owner aliases ∈ statements ∧ aliases.map TypeAlias.name = names) ↔
          ∃ l, (owner, l) ∈ (NamespaceGroups.ofStructs structs).namespaces ∧
            l.flatMap (structNames y) = names := by
  simp only [structStatements, bind_eq_ok_iff, pure_eq_ok_iff] at h
  obtain ⟨topLevel, htop, namespaces, hns, rfl⟩ := h
  have hmodule {statement : Statement} (hm : statement ∈ namespaces) :
      ∃ owner l aliases, (owner, l) ∈ (NamespaceGroups.ofStructs structs).namespaces ∧
        aliasesOfStructs y l = .ok aliases ∧ .module owner aliases = statement := by
    obtain ⟨⟨owner, l⟩, hg, hst⟩ := (mem_iff_of_mapM_eq_ok hns).1 hm
    obtain ⟨aliases, hal, rfl⟩ := map_eq_ok_iff.1 hst
    exact ⟨owner, l, aliases, hg, hal, rfl⟩
  constructor
  · have hnone : topLevelNames namespaces = [] := by
      refine List.filterMap_eq_nil_iff.2 fun statement hm => ?_
      obtain ⟨owner, l, aliases, -, -, rfl⟩ := hmodule hm
      rfl
    rw [topLevelNames_append, topLevelNames_aliases, hnone, List.append_nil,
      names_aliasesOfStructs htop]
  · intro owner names
    constructor
    · rintro ⟨aliases, hm, rfl⟩
      rcases List.mem_append.1 hm with hm | hm
      · obtain ⟨a, -, ha⟩ := List.mem_map.1 hm
        cases ha
      · obtain ⟨_, l, _, hg, hal, he⟩ := hmodule hm
        cases he
        exact ⟨l, hg, (names_aliasesOfStructs hal).symm⟩
    · rintro ⟨l, hg, rfl⟩
      obtain ⟨statement, hm, hst⟩ := mem_of_mapM_eq_ok hns hg
      obtain ⟨aliases, hal, rfl⟩ := map_eq_ok_iff.1 hst
      exact ⟨aliases, List.mem_append_right _ hm, names_aliasesOfStructs hal⟩

/-! ## Files -/

theorem entryNames_eq (c : Contract) :
    c.entryNames = functionsName c :: (c.events.map eventName ++
      eventsName c :: (c.errors.map errorName ++ [errorsName c])) := by
  simp only [Contract.entryNames, Contract.entryPieces, List.map_append, List.map_cons,
    List.map_map, List.map_nil]
  rfl

theorem name_of_functionsAlias {a : TypeAlias} (h : functionsAlias o c = .ok a) :
    a.name = functionsName c := by
  simp only [functionsAlias, bind_eq_ok_iff, pure_eq_ok_iff] at h
  obtain ⟨_, -, rfl⟩ := h
  rfl

theorem name_of_eventAlias {e : ContractEvent} {a : TypeAlias} (h : eventAlias y e = .ok a) :
    a.name = eventName e := by
  simp only [eventAlias, within_eq_ok_iff, bind_eq_ok_iff, pure_eq_ok_iff] at h
  obtain ⟨_, -, _, -, rfl⟩ := h
  rfl

theorem name_of_errorAlias {e : ContractError} {a : TypeAlias} (h : errorAlias y e = .ok a) :
    a.name = errorName e := by
  simp only [errorAlias, within_eq_ok_iff, bind_eq_ok_iff, pure_eq_ok_iff] at h
  obtain ⟨_, -, rfl⟩ := h
  rfl

/-- The aliases of a file are those of structs, then those of entries, then the contract's own. -/
theorem names_declarationSections {sections : List (List Statement)}
    (h : declarationSections o c = .ok sections)
    (hfirst : firstOfEachName [] c.structs = c.structs) :
    topLevelNames sections.flatten =
        (c.structsOf none).flatMap (structNames o.typing) ++ (c.entryNames ++ [c.name]) ∧
      ∀ owner names,
        (∃ aliases, .module owner aliases ∈ sections.flatten ∧
            aliases.map TypeAlias.name = names) ↔
          (∃ s ∈ c.structs, s.name.owner = some owner) ∧
            (c.structsOf (some owner)).flatMap (structNames o.typing) = names := by
  simp only [declarationSections, bind_eq_ok_iff, pure_eq_ok_iff] at h
  obtain ⟨structs, hst, functions, hf, events, he, errors, hr, contract, hc, rfl⟩ := h
  obtain ⟨htop, hns⟩ := names_structStatements hst
  have hev : events.map TypeAlias.name = c.events.map eventName :=
    map_of_mapM_eq_ok (fun _ _ => name_of_eventAlias) he
  have her : errors.map TypeAlias.name = c.errors.map errorName :=
    map_of_mapM_eq_ok (fun _ _ => name_of_errorAlias) hr
  have hnil : topLevelNames [] = [] := rfl
  rw [List.flatten_filter_not_isEmpty]
  constructor
  · rw [topLevel_ofStructs, hfirst] at htop
    simp only [List.flatten_cons, List.flatten_nil, topLevelNames_append, topLevelNames_aliases,
      topLevelNames_alias_cons, hnil, htop, hev, her, name_of_functionsAlias hf,
      name_of_contractAlias hc, eventsAlias, errorsAlias, entryNames_eq, List.append_assoc,
      List.cons_append, List.nil_append, Contract.structsOf]
  · intro owner names
    have hmodule (aliases : List TypeAlias) : .module owner aliases ∈
        [structs, [.alias functions], events.map .alias, [.alias (eventsAlias o c)],
          errors.map .alias, [.alias (errorsAlias c)], [.alias contract]].flatten ↔
        .module owner aliases ∈ structs := by
      simp
    simp only [hmodule, hns, mem_namespaces_ofStructs_iff, hfirst, and_assoc, exists_and_left,
      exists_eq_left, Contract.structsOf]

/-! ## Distinct names -/

/-- Structs of different identifiers clash only across directions. -/
theorem nodup_structNames_iff {l : List StructType}
    (h : (l.map fun s => s.name.identifier).Nodup) :
    (l.flatMap (structNames y)).Nodup ↔
      ∀ s ∈ l, ∀ u ∈ l,
        s.name.identifier ++ y.inputSuffix ≠ u.name.identifier ++ y.outputSuffix := by
  rw [List.nodup_flatMap]
  constructor
  · rintro ⟨hself, hpair⟩ s hs u hu he
    by_cases hsu : s = u
    · subst hsu
      exact (List.nodup_cons.1 (hself s hs)).1 (List.mem_singleton.2 he)
    · have : Std.Symm (Function.onFun List.Disjoint (structNames y)) :=
        ⟨fun _ _ h _ hu hs => h hs hu⟩
      have hdisjoint : List.Disjoint (structNames y s) (structNames y u) := hpair.forall hs hu hsu
      exact hdisjoint List.mem_cons_self (he ▸ List.mem_cons_of_mem _ List.mem_cons_self)
  · intro hne
    refine ⟨fun s hs => by simp [structNames, hne s hs s hs], ?_⟩
    refine (List.pairwise_map.1 h).imp_of_mem fun {s u} hs hu hid n hns hnu => ?_
    simp only [structNames, List.mem_cons, List.not_mem_nil, or_false] at hns hnu
    rcases hns with rfl | rfl <;> rcases hnu with he | he
    · exact hid ((String.append_left_inj _).1 he)
    · exact hne s hs u hu he
    · exact hne u hu s hs he.symm
    · exact hid ((String.append_left_inj _).1 he)

/-- Structs of one owner have different identifiers, as they have different names. -/
theorem nodup_identifiers_structsOf (h : (c.structs.map (·.name)).Nodup) (owner? : Option String) :
    ((c.structsOf owner?).map fun s => s.name.identifier).Nodup := by
  refine List.Nodup.map_on (fun s hs u hu hid => ?_) ((List.Nodup.of_map _ h).filter _)
  obtain ⟨hs, hso⟩ := List.mem_filter.1 hs
  obtain ⟨hu, huo⟩ := List.mem_filter.1 hu
  have howner : s.name.owner = u.name.owner :=
    (of_decide_eq_true hso).trans (of_decide_eq_true huo).symm
  have hname : s.name = u.name := by
    cases hsn : s.name
    cases hun : u.name
    simp_all
  exact List.inj_on_of_nodup_map h hs hu hname

/-- With the fixed endings, a name tells what it is made of. -/
theorem append_inj_of_fixed {s t : String} (hs : s ∈ fixedEndings) (ht : t ∈ fixedEndings)
    {a b : String} (h : a ++ s = b ++ t) : a = b ∧ s = t := by
  have hapart : ∀ s ∈ fixedEndings, ∀ t ∈ fixedEndings, s ≠ t → EndsApart s t := by decide +kernel
  have hst : s = t := by
    by_contra hne
    exact (hapart s hs t ht hne).append_ne a b h
  subst hst
  exact ⟨(String.append_left_inj _).1 h, rfl⟩

theorem fixed_of_mem_entryPieces {p : String × String} (h : p ∈ c.entryPieces) :
    p.2 ∈ fixedEndings := by
  simp only [Contract.entryPieces, List.mem_cons, List.mem_append, List.mem_map, List.not_mem_nil,
    or_false] at h
  rcases h with rfl | ⟨_, -, rfl⟩ | rfl | ⟨_, -, rfl⟩ | rfl <;> simp [fixedEndings]

/-- The names of entries are distinct. -/
theorem nodup_entryNames (hevents : (c.events.map (·.identifier)).Nodup)
    (herrors : (c.errors.map (·.identifier)).Nodup) : c.entryNames.Nodup := by
  have hev : (c.events.map fun e => (e.identifier, "Event")).Nodup :=
    List.Nodup.of_map Prod.fst (by rwa [List.map_map])
  have her : (c.errors.map fun e => (e.identifier, "Error")).Nodup :=
    List.Nodup.of_map Prod.fst (by rwa [List.map_map])
  have hpieces : c.entryPieces.Nodup := by
    refine List.nodup_cons.2 ⟨by simp, List.nodup_append.2 ⟨hev, List.nodup_cons.2
      ⟨by simp, List.nodup_append.2 ⟨her, List.nodup_singleton _, ?_⟩⟩, ?_⟩⟩
    · simp
    · intro p hp q hq
      obtain ⟨e, -, rfl⟩ := List.mem_map.1 hp
      simp only [List.mem_cons, List.mem_append, List.mem_map, List.not_mem_nil, or_false] at hq
      rcases hq with rfl | ⟨_, -, rfl⟩ | rfl <;> simp
  refine List.Nodup.map_on (fun p hp q hq he => ?_) hpieces
  exact Prod.ext_iff.2
    (append_inj_of_fixed (fixed_of_mem_entryPieces hp) (fixed_of_mem_entryPieces hq) he)

theorem mem_entryNames_iff {n : String} :
    n ∈ c.entryNames ↔ n = functionsName c ∨ n ∈ c.events.map eventName ∨ n = eventsName c ∨
      n ∈ c.errors.map errorName ∨ n = errorsName c := by
  simp only [entryNames_eq, List.mem_cons, List.mem_append, List.not_mem_nil, or_false]

/-- No map is called like the contract. -/
theorem name_mem_entryNames_iff :
    c.name ∈ c.entryNames ↔ c.name ∈ c.events.map eventName ++ c.errors.map errorName := by
  have hfunctions : c.name ≠ functionsName c := Ne.symm (by simp [functionsName])
  have hevents : c.name ≠ eventsName c := Ne.symm (by simp [eventsName])
  have herrors : c.name ≠ errorsName c := Ne.symm (by simp [errorsName])
  rw [mem_entryNames_iff, List.mem_append]
  simp only [hfunctions, hevents, herrors, false_or, or_false]

/-! ## Scopes of a contract -/

theorem mem_structNames_topLevel_iff {n : String} :
    n ∈ (c.structsOf none).flatMap (structNames y) ↔
      ∃ s ∈ c.structs, s.name.owner = none ∧ n ∈ structNames y s := by
  simp only [List.mem_flatMap, Contract.structsOf, List.mem_filter, decide_eq_true_eq, and_assoc]

/-- Each owner's structs, the entries and the contract are told apart, and the structs at the top
level from the others there. -/
theorem scopesApart_iff {sections : List (List Statement)}
    (h : declarationSections o c = .ok sections)
    (hfirst : firstOfEachName [] c.structs = c.structs) :
    ScopesApart sections.flatten ↔
      (∀ owner?, ((c.structsOf owner?).flatMap (structNames o.typing)).Nodup) ∧
        (c.entryNames ++ [c.name]).Nodup ∧
        ∀ n ∈ (c.structsOf none).flatMap (structNames o.typing), n ∉ c.entryNames ++ [c.name] := by
  obtain ⟨htop, hns⟩ := names_declarationSections h hfirst
  constructor
  · rintro ⟨hnodup, hnamespaces⟩
    rw [htop, List.nodup_append] at hnodup
    obtain ⟨hstructs, hentries, hne⟩ := hnodup
    refine ⟨fun owner? => ?_, hentries, fun n hn hm => hne n hn n hm rfl⟩
    cases owner? with
    | none => exact hstructs
    | some owner =>
      by_cases hex : ∃ s ∈ c.structs, s.name.owner = some owner
      · obtain ⟨aliases, hm, he⟩ := (hns owner _).2 ⟨hex, rfl⟩
        exact he ▸ hnamespaces owner aliases hm
      · have hnil : c.structsOf (some owner) = [] :=
          List.filter_eq_nil_iff.2 fun s hs ho => hex ⟨s, hs, of_decide_eq_true ho⟩
        rw [hnil]
        exact List.nodup_nil
  · rintro ⟨hstructs, hentries, hne⟩
    constructor
    · rw [htop]
      refine List.nodup_append.2 ⟨hstructs none, hentries, ?_⟩
      rintro n hn _ hm rfl
      exact hne n hn hm
    · intro owner aliases hm
      obtain ⟨-, he⟩ := (hns owner _).1 ⟨aliases, hm, rfl⟩
      rw [← he]
      exact hstructs (some owner)

theorem aliasesApart_iff (hnames : (c.structs.map (·.name)).Nodup)
    (hevents : (c.events.map (·.identifier)).Nodup)
    (herrors : (c.errors.map (·.identifier)).Nodup) :
    c.AliasesApart y ↔
      (∀ owner?, ((c.structsOf owner?).flatMap (structNames y)).Nodup) ∧
        (c.entryNames ++ [c.name]).Nodup ∧
        ∀ n ∈ (c.structsOf none).flatMap (structNames y), n ∉ c.entryNames ++ [c.name] := by
  have hgroup (owner? : Option String) := nodup_structNames_iff (y := y)
    (nodup_identifiers_structsOf hnames owner?)
  have hentries : (c.entryNames ++ [c.name]).Nodup ↔
      c.name ∉ c.events.map eventName ++ c.errors.map errorName := by
    rw [← name_mem_entryNames_iff, List.nodup_append]
    constructor
    · rintro ⟨-, -, hne⟩ hm
      exact hne _ hm _ List.mem_cons_self rfl
    · intro hm
      refine ⟨nodup_entryNames hevents herrors, List.nodup_singleton _, ?_⟩
      rintro n hn _ hc rfl
      exact hm (List.mem_singleton.1 hc ▸ hn)
  constructor
  · rintro ⟨hstructs, htop, hcontract⟩
    rw [Contract.endedNames, List.append_assoc, List.mem_append, not_or] at hcontract
    refine ⟨fun owner? => (hgroup owner?).2 fun s hs u hu => ?_, hentries.2 hcontract.2,
      fun n hn hm => ?_⟩
    · obtain ⟨hs, hso⟩ := List.mem_filter.1 hs
      obtain ⟨hu, huo⟩ := List.mem_filter.1 hu
      exact hstructs s hs u hu ((of_decide_eq_true hso).trans (of_decide_eq_true huo).symm)
    · rcases List.mem_append.1 hm with hm | hm
      · obtain ⟨s, hs, ho, hn⟩ := mem_structNames_topLevel_iff.1 hn
        exact htop s hs ho n hn hm
      · exact hcontract.1 (List.mem_singleton.1 hm ▸ hn)
  · rintro ⟨hstructs, hnodup, htop⟩
    constructor
    · intro s hs u hu ho
      exact (hgroup s.name.owner).1 (hstructs _) s (List.mem_filter.2 ⟨hs, decide_eq_true rfl⟩) u
        (List.mem_filter.2 ⟨hu, decide_eq_true ho.symm⟩)
    · intro s hs ho n hn hm
      exact htop n (mem_structNames_topLevel_iff.2 ⟨s, hs, ho, hn⟩) (List.mem_append_left _ hm)
    · rw [Contract.endedNames, List.append_assoc, List.mem_append, not_or]
      exact ⟨fun hm => htop _ hm (List.mem_append_right _ List.mem_cons_self), hentries.1 hnodup⟩

/-- With endings apart, there is only the contract's own name to clash with. -/
theorem Typing.EndingsApart.aliasesApart_iff (h : y.EndingsApart) :
    c.AliasesApart y ↔ c.name ∉ c.endedNames y := by
  refine ⟨fun ha => ha.contract, fun hc => ⟨fun s _ u _ _ => h.1.append_ne _ _, ?_, hc⟩⟩
  intro s _ _ n hn hm
  obtain ⟨p, hp, rfl⟩ := List.mem_map.1 hm
  obtain ⟨hinput, houtput⟩ := h.2 p.2 (fixed_of_mem_entryPieces hp)
  simp only [structNames, List.mem_cons, List.not_mem_nil, or_false] at hn
  rcases hn with he | he
  · exact hinput.append_ne _ _ he.symm
  · exact houtput.append_ne _ _ he.symm

/-- The endings that a configuration has by default are apart. -/
example : Typing.EndingsApart ⟨ethersV5, "Struct", "StructOutput"⟩ := by decide +kernel

section
variable {name : String} {abi : AbiDefinition}

/-- In a declaration file the aliases of each scope have distinct names exactly if the endings of
structs keep them apart, and the contract is not called like an alias of its own.  Endings that are
no ends of each other always do. -/
theorem declaredAliases_distinct_iff (h : Contract.ofAbi name abi = .ok c) {t : Target}
    {path : String} {f : GeneratedFile} (hf : t.declarationFile c path = .ok f) :
    ∃ sections, declarationSections t.declarations c = .ok sections ∧
      f.contents = fileText (fileSections t.declarations.typing.names.imports
        (sections.map sectionText)) ∧
      (ScopesApart sections.flatten ↔ c.AliasesApart t.declarations.typing) ∧
      (t.declarations.typing.EndingsApart →
        (ScopesApart sections.flatten ↔ c.name ∉ c.endedNames t.declarations.typing)) := by
  obtain ⟨-, -, hi, hs⟩ := ofAbi_eq_ok_iff.1 h
  obtain ⟨text, htext, rfl⟩ := map_eq_ok_iff.1 hf
  obtain ⟨sections, hsections, rfl⟩ := contractFile_eq_ok_iff.1 htext
  have hfirst := firstOfEachName_structs h
  have hnames : (c.structs.map (·.name)).Nodup := hfirst ▸ nodup_firstOfEachName
  have hiff : ScopesApart sections.flatten ↔ c.AliasesApart t.declarations.typing :=
    (scopesApart_iff hsections hfirst).trans (aliasesApart_iff hnames
      (nodup_of_resolveNames hi.events) (nodup_of_resolveNames hi.errors)).symm
  exact ⟨sections, hsections, rfl, hiff, fun hend => hiff.trans hend.aliasesApart_iff⟩

/-- The names of a ledger's aliases are distinct. -/
theorem declaredAliases_distinct_ledger :
    ∃ c f sections, Contract.ofAbi "Ledger" ledgerAbi = .ok c ∧
      (targetWith ethersV5).declarationFile c "Ledger.ts" = .ok f ∧
      declarationSections (targetWith ethersV5).declarations c = .ok sections ∧
      ScopesApart sections.flatten := by
  have h : (match Contract.ofAbi "Ledger" ledgerAbi with
      | .ok c => !(c.endedNames (targetWith ethersV5).declarations.typing).contains c.name
      | .error _ => false) = true := by
    decide +kernel
  split at h
  · rename_i c hc
    have hname : c.name ∉ c.endedNames (targetWith ethersV5).declarations.typing := by
      simpa using h
    obtain ⟨f, hf⟩ := (needs_declarationFile hc (targetWith ethersV5) "Ledger.ts").exists_iff.2
      fun d u hu => covers_of_reaches hc
        (presets_reach (by decide : ("ethers-v5", ethersV5) ∈ presets) rfl) hu
    obtain ⟨sections, hs, -, -, hiff⟩ := declaredAliases_distinct_iff hc hf
    exact ⟨c, f, sections, hc, hf, hs, (hiff (by decide +kernel)).2 hname⟩
  · cases h

/-- The contract `TransferEvent` has an event `Transfer`: one name for both aliases. -/
theorem declaredAliases_clash_transferEvent :
    contractNameOf "TransferEvent.json" = .ok "TransferEvent" ∧ Config.validate {} = .ok () ∧
      ∃ t c f sections, Target.ofConfig {} = .ok t ∧
        Contract.ofAbi "TransferEvent" { events := [⟨"Transfer", [], false⟩] } = .ok c ∧
        t.declarationFile c "TransferEvent.ts" = .ok f ∧
        declarationSections t.declarations c = .ok sections ∧ ¬ ScopesApart sections.flatten := by
  have h : (do
      let t ← Target.ofConfig {}
      let c ← Contract.ofAbi "TransferEvent" { events := [⟨"Transfer", [], false⟩] }
      let sections ← declarationSections t.declarations c
      return topLevelNames sections.flatten) =
        .ok ["TransferEventFunctions", "TransferEvent", "TransferEventEvents",
          "TransferEventErrors", "TransferEvent"] := by
    decide +kernel
  simp only [bind_eq_ok_iff, pure_eq_ok_iff] at h
  obtain ⟨t, ht, c, hc, sections, hs, hnames⟩ := h
  refine ⟨by decide +kernel, by decide +kernel, t, c, _, sections, ht, hc,
    map_eq_ok_iff.2 ⟨_, contractFile_eq_ok_iff.2 ⟨sections, hs, rfl⟩, rfl⟩, hs, fun hapart => ?_⟩
  have hnodup := hapart.topLevel
  rw [hnames] at hnodup
  exact absurd hnodup (by decide)

end

end AbiBindings
