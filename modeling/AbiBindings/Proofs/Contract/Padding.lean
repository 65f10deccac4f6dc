import AbiBindings.Proofs.Abi.Respelling
import AbiBindings.Proofs.Contract.Entries

/-!
# Blanks around types

Blanks around the types of an ABI's parameters, and of their components, do not matter to the
contract, except in front of a tuple: the parameter is then read without its components, and has no
type.

    d.Respells d' → (Contract.ofAbi name d' = .ok c ↔
      Contract.ofAbi name d = .ok c and no parameter of d' hides a tuple)  (ofAbi_respelled_iff)
    if no blanks come in front of a tuple, the same contracts are read     (padded_types_iff)
-/

namespace AbiBindings

open Text

/-! ## Contracts of respelt ABIs -/

section
variable {α β : Type} {S : α → α → Prop} {T : α → β → Prop} {Q : α → Prop}
  (h : ∀ a a', S a a' → ∀ b, T a' b ↔ T a b ∧ Q a')
include h

theorem forall₂_related_iff {as as' : List α} (hS : List.Forall₂ S as as') (bs : List β) :
    List.Forall₂ T as' bs ↔ List.Forall₂ T as bs ∧ ∀ a' ∈ as', Q a' := by
  induction hS generalizing bs with
  | nil => simp
  | cons ha _ ih =>
    cases bs with
    | nil => simp
    | cons b bs =>
      rw [List.forall₂_cons, List.forall₂_cons, h _ _ ha, ih, List.forall_mem_cons]
      exact and_and_and_comm

theorem optionRel_related_iff {x x' : Option α} (hS : Option.Rel S x x') (y : Option β) :
    Option.Rel T x' y ↔ Option.Rel T x y ∧ ∀ a' ∈ x', Q a' := by
  cases hS with
  | none => simp
  | some ha =>
    cases y with
    | none => simp
    | some b => simp [h _ _ ha]

end

theorem RespellAll.forall₂ {ps ps' : List AbiParameter} (h : RespellAll ps ps') :
    List.Forall₂ AbiParameter.Respells ps ps' := by
  induction ps generalizing ps' with
  | nil =>
    cases h
    exact .nil
  | cons p ps ih =>
    cases h with
    | cons hp hrest => exact .cons hp (ih hrest)

section
variable {p p' : AbiParameter} (h : p.Respells p')
include h

theorem AbiParameter.Respells.hasType_iff (t : EvmType) :
    p'.HasType t ↔ p.HasType t ∧ ¬p'.HidesTuple := by
  constructor
  · rintro ⟨ht, hn⟩
    obtain ⟨ht, hhides⟩ := (ofParameter_respelled_iff h).1 ht
    exact ⟨⟨ht, hn⟩, hhides⟩
  · rintro ⟨⟨ht, hn⟩, hhides⟩
    exact ⟨(ofParameter_respelled_iff h).2 ⟨ht, hhides⟩, hn⟩

theorem AbiParameter.Respells.describes_iff (c : Component) :
    p'.Describes c ↔ p.Describes c ∧ ¬p'.HidesTuple := by
  constructor
  · rintro ⟨hn, ht⟩
    obtain ⟨ht, hhides⟩ := (h.hasType_iff c.type).1 ht
    exact ⟨⟨hn.trans h.name, ht⟩, hhides⟩
  · rintro ⟨⟨hn, ht⟩, hhides⟩
    exact ⟨hn.trans h.name.symm, (h.hasType_iff c.type).2 ⟨ht, hhides⟩⟩

theorem AbiParameter.Respells.describesInput_iff (i : EventInput) :
    p'.DescribesInput i ↔ p.DescribesInput i ∧ ¬p'.HidesTuple := by
  constructor
  · rintro ⟨hc, hi⟩
    obtain ⟨hc, hhides⟩ := (h.describes_iff i.component).1 hc
    exact ⟨⟨hc, hi.trans h.indexed⟩, hhides⟩
  · rintro ⟨⟨hc, hi⟩, hhides⟩
    exact ⟨(h.describes_iff i.component).2 ⟨hc, hhides⟩, hi.trans h.indexed.symm⟩

end

/-- A list of parameters with no tuple behind blanks. -/
def TuplesInSight (ps : List AbiParameter) : Prop := ∀ p ∈ ps, ¬p.HidesTuple

section
variable {ps ps' : List AbiParameter} (h : RespellAll ps ps')
include h

theorem RespellAll.describe_iff {cs : List Component} :
    List.Forall₂ AbiParameter.Describes ps' cs ↔
      List.Forall₂ AbiParameter.Describes ps cs ∧ TuplesInSight ps' :=
  forall₂_related_iff (fun _ _ hp => hp.describes_iff) h.forall₂ cs

theorem RespellAll.describeInputs_iff {inputs : List EventInput} :
    List.Forall₂ AbiParameter.DescribesInput ps' inputs ↔
      List.Forall₂ AbiParameter.DescribesInput ps inputs ∧ TuplesInSight ps' :=
  forall₂_related_iff (fun _ _ hp => hp.describesInput_iff) h.forall₂ inputs

end

section
variable {f f' : AbiFunction} (h : f.Respells f')
include h

theorem AbiFunction.Respells.describes_iff (g : ContractFunction) :
    f'.Describes g ↔ f.Describes g ∧ TuplesInSight (f'.inputs ++ f'.outputs) := by
  rw [TuplesInSight, List.forall_mem_append]
  constructor
  · rintro ⟨hn, hm, hi, ho⟩
    obtain ⟨hi, hsi⟩ := h.inputs.describe_iff.1 hi
    obtain ⟨ho, hso⟩ := h.outputs.describe_iff.1 ho
    exact ⟨⟨hn.trans h.name, hm.trans h.stateMutability, hi, ho⟩, hsi, hso⟩
  · rintro ⟨⟨hn, hm, hi, ho⟩, hsi, hso⟩
    exact ⟨hn.trans h.name.symm, hm.trans h.stateMutability.symm,
      h.inputs.describe_iff.2 ⟨hi, hsi⟩, h.outputs.describe_iff.2 ⟨ho, hso⟩⟩

theorem AbiFunction.Respells.describesConstructor_iff (k : ContractConstructor) :
    f'.DescribesConstructor k ↔ f.DescribesConstructor k ∧ TuplesInSight f'.inputs := by
  constructor
  · rintro ⟨hm, hi⟩
    obtain ⟨hi, hs⟩ := h.inputs.describe_iff.1 hi
    exact ⟨⟨hm.trans h.stateMutability, hi⟩, hs⟩
  · rintro ⟨⟨hm, hi⟩, hs⟩
    exact ⟨hm.trans h.stateMutability.symm, h.inputs.describe_iff.2 ⟨hi, hs⟩⟩

end

theorem AbiEvent.Respells.describes_iff {e e' : AbiEvent} (h : e.Respells e') (g : ContractEvent) :
    e'.Describes g ↔ e.Describes g ∧ TuplesInSight e'.inputs := by
  constructor
  · rintro ⟨hn, ha, hi⟩
    obtain ⟨hi, hs⟩ := h.inputs.describeInputs_iff.1 hi
    exact ⟨⟨hn.trans h.name, ha.trans h.anonymous, hi⟩, hs⟩
  · rintro ⟨⟨hn, ha, hi⟩, hs⟩
    exact ⟨hn.trans h.name.symm, ha.trans h.anonymous.symm,
      h.inputs.describeInputs_iff.2 ⟨hi, hs⟩⟩

theorem AbiError.Respells.describes_iff {e e' : AbiError} (h : e.Respells e') (g : ContractError) :
    e'.Describes g ↔ e.Describes g ∧ TuplesInSight e'.inputs := by
  constructor
  · rintro ⟨hn, hi⟩
    obtain ⟨hi, hs⟩ := h.inputs.describe_iff.1 hi
    exact ⟨⟨hn.trans h.name, hi⟩, hs⟩
  · rintro ⟨⟨hn, hi⟩, hs⟩
    exact ⟨hn.trans h.name.symm, h.inputs.describe_iff.2 ⟨hi, hs⟩⟩

section
variable {d d' : AbiDefinition} {c : Contract} (h : d.Respells d')
include h

theorem AbiDefinition.Respells.describes_iff :
    d'.Describes c ↔ d.Describes c ∧ TuplesInSight d'.parameters := by
  have hk := optionRel_related_iff (fun _ _ hf => hf.describesConstructor_iff) h.constructor
    c.constructor?
  have hf := forall₂_related_iff (fun _ _ hf => hf.describes_iff) h.functions c.functions
  have he := forall₂_related_iff (fun _ _ he => he.describes_iff) h.events c.events
  have hr := forall₂_related_iff (fun _ _ he => he.describes_iff) h.errors c.errors
  rw [TuplesInSight, AbiDefinition.forall_mem_parameters]
  constructor
  · rintro ⟨hk', hf', he', hr', hb, hv⟩
    obtain ⟨hk', hks⟩ := hk.1 hk'
    obtain ⟨hf', hfs⟩ := hf.1 hf'
    obtain ⟨he', hes⟩ := he.1 he'
    obtain ⟨hr', hrs⟩ := hr.1 hr'
    exact ⟨⟨hk', hf', he', hr', hb.trans h.hasFallback, hv.trans h.hasReceive⟩, hks, hfs, hes, hrs⟩
  · rintro ⟨⟨hk', hf', he', hr', hb, hv⟩, hks, hfs, hes, hrs⟩
    exact ⟨hk.2 ⟨hk', hks⟩, hf.2 ⟨hf', hfs⟩, he.2 ⟨he', hes⟩, hr.2 ⟨hr', hrs⟩,
      hb.trans h.hasFallback.symm, hv.trans h.hasReceive.symm⟩

theorem AbiDefinition.Respells.identifies_iff : d'.Identifies c ↔ d.Identifies c := by
  have hnames : ∀ {α : Type} {S : α → α → Prop} {name : α → String} {as as' : List α},
      (∀ a a', S a a' → name a' = name a) → List.Forall₂ S as as' →
        as'.map name = as.map name := by
    intro α S name as as' hname hS
    induction hS with
    | nil => rfl
    | cons ha _ ih => rw [List.map_cons, List.map_cons, hname _ _ ha, ih]
  have hf := hnames (fun _ _ hf => AbiFunction.Respells.name hf) h.functions
  have he := hnames (fun _ _ he => AbiEvent.Respells.name he) h.events
  have hr := hnames (fun _ _ he => AbiError.Respells.name he) h.errors
  constructor
  · rintro ⟨hfi, hei, hri⟩
    exact ⟨hf ▸ hfi, he ▸ hei, hr ▸ hri⟩
  · rintro ⟨hfi, hei, hri⟩
    exact ⟨hf.symm ▸ hfi, he.symm ▸ hei, hr.symm ▸ hri⟩

theorem ofAbi_respelled_iff {name : String} :
    Contract.ofAbi name d' = .ok c ↔
      Contract.ofAbi name d = .ok c ∧ TuplesInSight d'.parameters := by
  rw [ofAbi_eq_ok_iff, ofAbi_eq_ok_iff, h.describes_iff, h.identifies_iff]
  constructor
  · rintro ⟨hn, ⟨hd, hs⟩, hi, ht⟩
    exact ⟨⟨hn, hd, hi, ht⟩, hs⟩
  · rintro ⟨⟨hn, hd, hi, ht⟩, hs⟩
    exact ⟨hn, ⟨hd, hs⟩, hi, ht⟩

end

/-! ## Blanks -/

/-- Blanks before and behind a text. -/
def Pads (s s' : String) : Prop :=
  ∃ before after, (∀ c ∈ before, isBlank c = true) ∧ (∀ c ∈ after, isBlank c = true) ∧
    s'.toList = before ++ s.toList ++ after

/-- Blanks before and behind a text, but none in front of a tuple. -/
def PadsInSight (s s' : String) : Prop :=
  ∃ before after, (∀ c ∈ before, isBlank c = true) ∧ (∀ c ∈ after, isBlank c = true) ∧
    s'.toList = before ++ s.toList ++ after ∧ (mayHaveComponents s = true → before = [])

theorem PadsInSight.pads {s s' : String} : PadsInSight s s' → Pads s s'
  | ⟨before, after, hb, ha, hs, _⟩ => ⟨before, after, hb, ha, hs⟩

section
variable {s s' : String}

theorem trim_of_pads (h : Pads s s') : trim s'.toList = trim s.toList := by
  obtain ⟨before, after, hb, ha, hs⟩ := h
  rw [hs]
  exact trim_append_blanks hb ha s.toList

theorem mayHaveComponents_of_pads (h : Pads s s') (hm : mayHaveComponents s' = true) :
    mayHaveComponents s = true := by
  obtain ⟨before, after, hb, ha, hs⟩ := h
  rw [mayHaveComponents_iff] at hm ⊢
  rw [hs] at hm
  cases before with
  | nil => exact tuple_prefix_of_append hm (not_mem_tuple_of_blank_head ha)
  | cons c before =>
    obtain ⟨r, hr⟩ := hm
    exact absurd (hb c List.mem_cons_self) (by rw [← (List.cons.inj hr).1]; decide +kernel)

theorem mayHaveComponents_of_padsInSight (h : PadsInSight s s')
    (hm : mayHaveComponents s = true) : mayHaveComponents s' = true := by
  obtain ⟨before, after, -, -, hs, hsight⟩ := h
  rw [mayHaveComponents_iff, hs, hsight hm]
  exact (mayHaveComponents_iff.1 hm).trans (List.prefix_append _ _)

end

theorem isRespelling_pads : IsRespelling Pads where
  refl _ := ⟨[], [], fun _ h => absurd h List.not_mem_nil, fun _ h => absurd h List.not_mem_nil,
    (List.append_nil _).symm⟩
  trim := trim_of_pads
  tuple := mayHaveComponents_of_pads

theorem isRespelling_flip_padsInSight : IsRespelling (flip PadsInSight) where
  refl _ := ⟨[], [], fun _ h => absurd h List.not_mem_nil, fun _ h => absurd h List.not_mem_nil,
    (List.append_nil _).symm, fun _ => rfl⟩
  trim h := (trim_of_pads h.pads).symm
  tuple := mayHaveComponents_of_padsInSight

/-! ## Main result -/

/-- A contract is read from an ABI in data. -/
def ReadsContract (name : String) (v : Json) (c : Contract) : Prop :=
  ∃ d, AbiDefinition.ofJson v = .ok d ∧ Contract.ofAbi name d = .ok c

/-- Blanks around the types of parameters matter exactly if they hide a tuple of a signature. -/
theorem padded_types_iff {v v' : Json} (h : Retypes Pads v v') :
    (∀ d, AbiDefinition.ofJson v = .ok d → ∃ d', AbiDefinition.ofJson v' = .ok d' ∧
      ∀ name c, Contract.ofAbi name d' = .ok c ↔
        Contract.ofAbi name d = .ok c ∧ TuplesInSight d'.parameters) ∧
    (Retypes PadsInSight v v' → ∀ name c, ReadsContract name v' c ↔ ReadsContract name v c) := by
  refine ⟨fun d hd => ?_, fun hsight name c => ?_⟩
  · obtain ⟨d', hd', hr⟩ := ofJson_of_retypes isRespelling_pads h hd
    exact ⟨d', hd', fun name c => ofAbi_respelled_iff hr⟩
  · constructor
    · rintro ⟨d', hd', hc⟩
      -- Taking the blanks away makes no tuple either, so the ABI without them is read.
      obtain ⟨d, hd, -⟩ := ofJson_of_retypes isRespelling_flip_padsInSight hsight.flip hd'
      obtain ⟨e, he, hr⟩ := ofJson_of_retypes isRespelling_pads h hd
      cases hd'.symm.trans he
      exact ⟨d, hd, ((ofAbi_respelled_iff hr).1 hc).1⟩
    · rintro ⟨d, hd, hc⟩
      obtain ⟨d', hd', -⟩ := ofJson_of_retypes isRespelling_pads h hd
      obtain ⟨e, he, hr⟩ := ofJson_of_retypes isRespelling_flip_padsInSight hsight.flip hd'
      cases hd.symm.trans he
      exact ⟨d', hd', ((ofAbi_respelled_iff hr).1 hc).1⟩

/-- A function that takes a struct with one component, given the types as they are written. -/
def offerAbi (struct amount : String) : Json :=
  .array [.object [("type", .string "function"), ("name", .string "offer"),
    ("inputs", .array [.object [("name", .string "terms"), ("type", .string struct),
      ("components", .array [.object [("name", .string "amount"),
        ("type", .string amount)]])]])]]

theorem retypes_offerAbi {R : String → String → Prop} {struct struct' amount amount' : String}
    (hs : R struct struct') (ha : R amount amount') :
    Retypes R (offerAbi struct amount) (offerAbi struct' amount') := by
  have hcomponent : RetypesParameter R
      (.object [("name", .string "amount"), ("type", .string amount)])
      (.object [("name", .string "amount"), ("type", .string amount')]) :=
    .object (.cons (.same _ _) (.cons (.type rfl ha) .nil))
  have hinput := RetypesParameter.object (.cons (.same "name" (.string "terms"))
    (.cons (.type rfl hs) (.cons (.components rfl (.cons hcomponent .nil)) .nil)))
  exact .array (.cons (.object (.cons ⟨rfl, .same _ _⟩ (.cons ⟨rfl, .same _ _⟩
    (.cons ⟨rfl, .parameters List.mem_cons_self (.cons hinput .nil)⟩ .nil)))) .nil)

/-- The ABI with nothing around its types is accepted. -/
theorem exists_readsContract_offer : ∃ c, ReadsContract "Offer" (offerAbi "tuple" "uint256") c := by
  have h : ((AbiDefinition.ofJson (offerAbi "tuple" "uint256")).toOption.map fun d =>
      (Contract.ofAbi "Offer" d).isOk) = some true := by decide +kernel
  obtain ⟨d, hd, hok⟩ := Option.map_eq_some_iff.1 h
  obtain ⟨c, hc⟩ := exists_of_isOk hok
  exact ⟨c, d, toOption_eq_some_iff.1 hd, hc⟩

theorem padded_types_iff_offer : ∃ c, ReadsContract "Offer" (offerAbi "tuple" "uint256") c ∧
    ReadsContract "Offer" (offerAbi "tuple " "\t uint256 ") c ∧
    ∃ d', AbiDefinition.ofJson (offerAbi "tuple " "\t uint256 ") = .ok d' ∧
      TuplesInSight d'.parameters := by
  have hstruct : PadsInSight "tuple" "tuple " :=
    ⟨[], [' '], by simp, List.all_eq_true.1 (by decide +kernel), rfl, fun _ => rfl⟩
  have hamount : PadsInSight "uint256" "\t uint256 " :=
    ⟨['\t', ' '], [' '], List.all_eq_true.1 (by decide +kernel),
      List.all_eq_true.1 (by decide +kernel), rfl, fun h => absurd h (by decide)⟩
  obtain ⟨hpads, hsight⟩ := padded_types_iff (retypes_offerAbi hstruct.pads hamount.pads)
  obtain ⟨c, hc⟩ := exists_readsContract_offer
  have hc' := (hsight (retypes_offerAbi hstruct hamount) "Offer" c).2 hc
  obtain ⟨d, hd, hcd⟩ := hc
  obtain ⟨d', hd', hiff⟩ := hpads d hd
  obtain ⟨e, he, hce⟩ := hc'
  cases hd'.symm.trans he
  exact ⟨c, ⟨d, hd, hcd⟩, ⟨d', hd', hce⟩, d', hd', ((hiff "Offer" c).1 hce).2⟩

/-- Behind a blank the struct has lost its component, and the ABI is rejected. -/
theorem padded_types_fail_offer :
    Retypes Pads (offerAbi "tuple" "uint256") (offerAbi " tuple" "uint256") ∧
      (∃ c, ReadsContract "Offer" (offerAbi "tuple" "uint256") c) ∧
      ¬∃ c, ReadsContract "Offer" (offerAbi " tuple" "uint256") c := by
  have hstruct : Pads "tuple" " tuple" :=
    ⟨[' '], [], List.all_eq_true.1 (by decide +kernel), by simp, rfl⟩
  refine ⟨retypes_offerAbi hstruct (isRespelling_pads.refl _), exists_readsContract_offer, ?_⟩
  rintro ⟨c, d, hd, hc⟩
  have h : ((AbiDefinition.ofJson (offerAbi " tuple" "uint256")).toOption.map fun d =>
      (Contract.ofAbi "Offer" d).isOk) = some false := by decide +kernel
  rw [hd] at h
  simp [Except.toOption, hc, Except.isOk, Except.toBool] at h

end AbiBindings
