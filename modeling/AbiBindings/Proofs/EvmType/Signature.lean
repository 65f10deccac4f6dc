import AbiBindings.Contract
import AbiBindings.Proofs.EvmType.Shape
import Mathlib.Data.List.Basic

/-!
# What signatures tell apart

Canonical spellings leave out all names, so they are compared with the shapes of types without
names.  Such a shape is the canonical spelling with a blank behind every component, that is, before
every comma and every parenthesis that closes a tuple with components.  As shapes tell types apart,
canonical spellings do.  In a signature, the first parenthesis ends the name of the entry.

    shape t.bare = blanked (canonical t)                                    (blanked_canonical)
    canonical t = canonical u ↔ t.bare = u.bare                             (canonical_eq_iff)
    signatureOf n ts = signatureOf m us ↔ n = m ∧ ts.map bare = us.map bare,
      for names without parentheses                                         (signatureOf_eq_iff)
-/

namespace AbiBindings

namespace EvmType

/-! ## Types without names -/

mutual

/-- A type without names of structs and components, and without spellings. -/
def bare : EvmType → EvmType
  | .leaf kind _ => .leaf kind ""
  | .array element size _ => .array (bare element) size ""
  | .tuple components _ _ => .tuple (bareAll components) none ""

def bareAll : List (Named EvmType) → List (Named EvmType)
  | [] => []
  | ⟨_, t⟩ :: r => ⟨"", bare t⟩ :: bareAll r

end

mutual

theorem hasReadableNames_bare : (t : EvmType) → t.bare.HasReadableNames
  | .leaf _ _ => trivial
  | .array element _ _ => hasReadableNames_bare element
  | .tuple components _ _ => by
    rw [bare, HasReadableNames]
    exact ⟨fun _ hn => absurd hn (Option.some_ne_none _).symm,
      haveReadableNames_bareAll components⟩

theorem haveReadableNames_bareAll : (cs : List (Named EvmType)) → HaveReadableNames (bareAll cs)
  | [] => trivial
  | ⟨_, t⟩ :: cs => by
    rw [bareAll, HaveReadableNames]
    exact ⟨fun _ hc => absurd hc List.not_mem_nil, hasReadableNames_bare t,
      haveReadableNames_bareAll cs⟩

end

mutual

theorem erased_bare : (t : EvmType) → t.bare.erased = t.bare
  | .leaf _ _ => rfl
  | .array element _ _ => by rw [bare, erased, erased_bare element]
  | .tuple components _ _ => by rw [bare, erased, erasedAll_bareAll components]

theorem erasedAll_bareAll : (cs : List (Named EvmType)) → erasedAll (bareAll cs) = bareAll cs
  | [] => rfl
  | ⟨_, t⟩ :: cs => by rw [bareAll, erasedAll, erased_bare t, erasedAll_bareAll cs]

end

mutual

theorem canonical_bare : (t : EvmType) → canonical t.bare = canonical t
  | .leaf _ _ => rfl
  | .array element _ _ => by rw [bare, canonical, canonical, canonical_bare element]
  | .tuple components _ _ => by rw [bare, canonical, canonical, canonicals_bareAll components]

theorem canonicals_bareAll : (cs : List (Named EvmType)) → canonicals (bareAll cs) = canonicals cs
  | [] => rfl
  | ⟨_, t⟩ :: cs => by rw [bareAll, canonicals, canonicals, canonical_bare t, canonicals_bareAll cs]

end

theorem bareAll_eq_map (cs : List (Named EvmType)) :
    bareAll cs = cs.map fun c => ⟨"", bare c.type⟩ := by
  induction cs with
  | nil => rfl
  | cons c r ih => cases c; simp [bareAll, ih]

/-! ## Blanks -/

/-- What ends a component. -/
def endsComponent (c : Char) : Bool := c == ',' || c == ')'

/-- A text with a blank behind every component; `before` is the character in front of it. -/
def blanked (before : Char) : List Char → List Char
  | [] => []
  | c :: r =>
    if endsComponent c ∧ before ≠ '(' then ' ' :: c :: blanked c r else c :: blanked c r

theorem blanked_append (before : Char) (s t : List Char) :
    blanked before (s ++ t) = blanked before s ++ blanked (s.getLastD before) t := by
  induction s generalizing before with
  | nil => rfl
  | cons c s ih =>
    rw [List.cons_append, blanked, blanked, ih c, List.getLastD_cons]
    split <;> rfl

theorem blanked_of_none (before : Char) {s : List Char} (h : ∀ c ∈ s, endsComponent c = false) :
    blanked before s = s := by
  induction s generalizing before with
  | nil => rfl
  | cons c s ih =>
    rw [blanked, if_neg (by simp [h c List.mem_cons_self]),
      ih c fun d hd => h d (List.mem_cons_of_mem c hd)]

theorem blanked_end {before c : Char} (hb : before ≠ '(') (hc : endsComponent c = true)
    (r : List Char) : blanked before (c :: r) = ' ' :: c :: blanked c r :=
  if_pos ⟨hc, hb⟩

theorem endsComponent_of_word {s : List Char} (h : IsShapeWord s) :
    ∀ c ∈ s, endsComponent c = false := by
  intro c hc
  have hd := h c hc
  simp only [isShapeDelimiter, Bool.or_eq_false_iff] at hd
  simp [endsComponent, hd]

theorem endsComponent_of_suffix (n : Option Nat) :
    ∀ c ∈ (arraySuffix n).toList, endsComponent c = false := by
  intro c hc
  rw [arraySuffix_toList, List.mem_cons, List.mem_append, List.mem_singleton] at hc
  rcases hc with rfl | hc | rfl
  · rfl
  · exact endsComponent_of_word (isShapeWord_sizeDigits n) c hc
  · rfl

/-! ## Canonical spellings -/

/-- The canonical spellings of components behind others, and the parenthesis that closes them. -/
def canonicalRest : List (Named EvmType) → List Char
  | [] => [')']
  | ⟨_, t⟩ :: cs => ',' :: ((canonical t).toList ++ canonicalRest cs)

theorem canonical_cons_toList (name : String) (t : EvmType) (cs : List (Named EvmType)) :
    (",".intercalate (canonicals (⟨name, t⟩ :: cs))).toList ++ [')'] =
      (canonical t).toList ++ canonicalRest cs := by
  induction cs generalizing name t with
  | nil => simp [canonicals, canonicalRest]
  | cons c cs ih =>
    rw [canonicalRest, ← ih c.name c.type]
    simp [canonicals]

/-- A canonical spelling ends in no opening parenthesis. -/
theorem getLastD_canonical (t : EvmType) (before : Char) :
    (canonical t).toList.getLastD before ≠ '(' := by
  match t with
  | .leaf k _ =>
    intro h
    rw [List.getLastD_eq_getLast?, canonical, List.getLast?_eq_some_getLast (canonical_ne_nil k),
      Option.getD_some] at h
    have hd := isShapeWord_canonical k _ (List.getLast_mem (canonical_ne_nil k))
    rw [h] at hd
    cases hd
  | .array element n _ =>
    rw [canonical, String.toList_append, arraySuffix_toList, ← List.cons_append,
      ← List.append_assoc, List.getLastD_concat]
    decide
  | .tuple cs _ _ =>
    rw [canonical, String.toList_append, show ")".toList = [')'] from rfl, List.getLastD_concat]
    decide

mutual

/-- With blanks in it, the canonical spelling of a type is the shape that the type has without
names. -/
theorem blanked_canonical : (t : EvmType) → (before : Char) →
    blanked before (canonical t).toList = (shape t.bare).toList
  | .leaf k _, before =>
    blanked_of_none before (endsComponent_of_word (isShapeWord_canonical k))
  | .array element n _, before => by
    rw [canonical, bare, shape, String.toList_append, String.toList_append, blanked_append,
      blanked_canonical element, blanked_of_none _ (endsComponent_of_suffix n)]
  | .tuple [] _ _, before => by
    simp [canonical, canonicals, bare, bareAll, shape, shapes, blanked, endsComponent]
  | .tuple (⟨name, t⟩ :: cs) n spelling, before => by
    have hs : (shape (bare (.tuple (⟨name, t⟩ :: cs) n spelling))).toList =
        '(' :: ((shape t.bare).toList ++ ' ' :: restText (bareAll cs) []) := by
      have := shape_tuple_append (bareAll (⟨name, t⟩ :: cs)) none "" []
      rwa [List.append_nil] at this
    have hc : (canonical (.tuple (⟨name, t⟩ :: cs) n spelling)).toList =
        '(' :: ((canonical t).toList ++ canonicalRest cs) := by
      rw [← canonical_cons_toList name]
      simp [canonical]
    rw [hs, hc, blanked, if_neg (by simp [endsComponent]), blanked_append, blanked_canonical t,
      blanked_canonicalRest cs (getLastD_canonical t '(')]

theorem blanked_canonicalRest : (cs : List (Named EvmType)) → {before : Char} → before ≠ '(' →
    blanked before (canonicalRest cs) = ' ' :: restText (bareAll cs) []
  | [], before, hb => blanked_end hb rfl []
  | ⟨name, t⟩ :: cs, before, hb => by
    rw [canonicalRest, blanked_end hb rfl, blanked_append, blanked_canonical t,
      blanked_canonicalRest cs (getLastD_canonical t ',')]
    rfl

end

theorem canonical_eq_iff {t u : EvmType} : canonical t = canonical u ↔ t.bare = u.bare := by
  constructor
  · intro h
    have hs : shape t.bare = shape u.bare := by
      rw [← String.toList_inj, ← blanked_canonical t ' ', ← blanked_canonical u ' ', h]
    have he := (shape_eq_iff (hasReadableNames_bare t) (hasReadableNames_bare u)).1 hs
    rwa [erased_bare, erased_bare] at he
  · intro h
    rw [← canonical_bare t, h, canonical_bare]

end EvmType

/-! ## Signatures -/

open EvmType

/-- A signature is a name in front of the canonical spelling of a tuple. -/
theorem toList_signatureOf (name : String) (types : List EvmType) :
    (signatureOf name types).toList =
      name.toList ++ (canonical (.tuple (types.map fun t => ⟨"", t⟩) none "")).toList := by
  rw [signatureOf, canonical, canonicals_eq_map, List.map_map]
  simp [Function.comp_def]

theorem signatureOf_eq_iff {n m : String} {ts us : List EvmType} (hn : '(' ∉ n.toList)
    (hm : '(' ∉ m.toList) :
    signatureOf n ts = signatureOf m us ↔ n = m ∧ ts.map bare = us.map bare := by
  have htypes : ts.map bare = us.map bare ↔
      canonical (.tuple (ts.map fun t => ⟨"", t⟩) none "") =
        canonical (.tuple (us.map fun t => ⟨"", t⟩) none "") := by
    have hinj : Function.Injective fun t : EvmType => (⟨"", t⟩ : Component) :=
      fun _ _ h => (Named.mk.inj h).2
    have hbare (l : List EvmType) :
        bareAll (l.map fun t => ⟨"", t⟩) = (l.map bare).map fun t => ⟨"", t⟩ := by
      rw [bareAll_eq_map, List.map_map, List.map_map]
      rfl
    rw [canonical_eq_iff, bare, bare, hbare, hbare]
    constructor
    · intro h
      rw [h]
    · intro h
      exact List.map_injective_iff.2 hinj (EvmType.tuple.inj h).1
  rw [htypes, ← String.toList_inj, toList_signatureOf, toList_signatureOf]
  constructor
  · intro h
    -- The name is the piece in front of the first parenthesis.
    have hopen (l : List Component) : ∃ r, (canonical (.tuple l none "")).toList = '(' :: r :=
      ⟨_, by rw [canonical, String.append_assoc, String.toList_append]; rfl⟩
    obtain ⟨r, hr⟩ := hopen (ts.map fun t => ⟨"", t⟩)
    obtain ⟨r', hr'⟩ := hopen (us.map fun t => ⟨"", t⟩)
    have hp := congrArg (List.splitOn '(') h
    rw [hr, hr', List.splitOn_append_cons_self_of_not_mem hn,
      List.splitOn_append_cons_self_of_not_mem hm] at hp
    have hname : n.toList = m.toList := (List.cons.inj hp).1
    rw [hname] at h
    exact ⟨String.toList_inj.1 hname, String.toList_inj.1 (List.append_cancel_left h)⟩
  · rintro ⟨rfl, h⟩
    rw [h]

/-- Canonical spellings are equal exactly if the types are the same but for names and spellings.
Signatures of functions whose names hold no opening parenthesis are equal exactly if the names are
and the input types are the same but for names and spellings, one by one; so are those of events
and those of errors. -/
theorem signatures_identify :
    (∀ t u : EvmType, t.canonical = u.canonical ↔ t.bare = u.bare) ∧
    (∀ f g : ContractFunction, '(' ∉ f.name.toList → '(' ∉ g.name.toList →
      (f.signature = g.signature ↔
        f.name = g.name ∧ f.inputs.map (·.type.bare) = g.inputs.map (·.type.bare))) ∧
    (∀ e g : ContractEvent, '(' ∉ e.name.toList → '(' ∉ g.name.toList →
      (e.signature = g.signature ↔
        e.name = g.name ∧ e.inputs.map (·.type.bare) = g.inputs.map (·.type.bare))) ∧
    ∀ e g : ContractError, '(' ∉ e.name.toList → '(' ∉ g.name.toList →
      (e.signature = g.signature ↔
        e.name = g.name ∧ e.inputs.map (·.type.bare) = g.inputs.map (·.type.bare)) := by
  refine ⟨fun t u => canonical_eq_iff, fun f g hf hg => ?_, fun e g he hg => ?_,
    fun e g he hg => ?_⟩
  · rw [ContractFunction.signature, ContractFunction.signature, signatureOf_eq_iff hf hg,
      List.map_map, List.map_map]
    rfl
  · rw [ContractEvent.signature, ContractEvent.signature, signatureOf_eq_iff he hg,
      List.map_map, List.map_map]
    rfl
  · rw [ContractError.signature, ContractError.signature, signatureOf_eq_iff he hg,
      List.map_map, List.map_map]
    rfl

/-- Names of parameters and short spellings of types make no overload, sizes of arrays do. -/
theorem signatures_identify_transfer :
    let transfer (inputs : List Component) : ContractFunction :=
      ⟨"transfer", "nonpayable", inputs, [], "transfer"⟩
    let amount : EvmType := .leaf (.uint 256) "uint256"
    '(' ∉ "transfer".toList ∧
      (transfer [⟨"amount", amount⟩]).signature =
        (transfer [⟨"", .leaf (.uint 256) "uint"⟩]).signature ∧
      (transfer [⟨"amounts", .array amount none "uint256[]"⟩]).signature ≠
        (transfer [⟨"amounts", .array amount (some 2) "uint256[2]"⟩]).signature := by
  intro transfer amount
  have hname : '(' ∉ "transfer".toList := by decide
  obtain ⟨-, hfunctions, -⟩ := signatures_identify
  refine ⟨hname, (hfunctions _ _ hname hname).2 ⟨rfl, rfl⟩, fun h => ?_⟩
  have hinputs := ((hfunctions _ _ hname hname).1 h).2
  cases hinputs

end AbiBindings
