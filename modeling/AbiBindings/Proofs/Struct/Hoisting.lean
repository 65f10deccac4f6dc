import AbiBindings.Proofs.Contract.Entries
import AbiBindings.Proofs.EvmType.SourceName
import AbiBindings.Proofs.Struct.Compatibility
import AbiBindings.Proofs.Struct.Declaration
import AbiBindings.Proofs.Typing.Expansion
import AbiBindings.Target

/-!
# Structs by name and structs spelled out

Whatever the signatures of a contract refer to is declared, and so is what the declarations refer
to.  The collection keeps the first struct of a name only, but the others have its shape, so they
have its components; that is why every reference stands for the struct that it was made from, and
replacing references by declarations gives the type with all structs spelled out.

    a struct in a signature is declared as its components               (declaresStruct_of_mem)
    references are declared, and their expansion is the spelled-out type
                                                                        (hoisting_preserves_types)
-/

namespace AbiBindings

open EvmType StructCollection

/-! ## Structs inside structs -/

namespace EvmType

mutual

theorem structsInAll_subset : (t : EvmType) → {s : StructType} → s ∈ t.structsIn →
    ∀ {r : StructType}, r ∈ structsInAll s.components → r ∈ t.structsIn
  | .leaf _ _, _, hs, _, _ => by cases hs
  | .array element _ _, _, hs, _, hr => structsInAll_subset element hs hr
  | .tuple cs none _, _, hs, _, hr => structsInAll_subsets cs hs hr
  | .tuple cs (some n) spelling, _, hs, _, hr => by
    rcases List.mem_cons.1 hs with rfl | hs
    · exact List.mem_cons_of_mem _ hr
    · exact List.mem_cons_of_mem _ (structsInAll_subsets cs hs hr)

theorem structsInAll_subsets : (cs : List (Named EvmType)) → {s : StructType} →
    s ∈ structsInAll cs → ∀ {r : StructType}, r ∈ structsInAll s.components →
    r ∈ structsInAll cs
  | [], _, hs, _, _ => by cases hs
  | ⟨_, t⟩ :: cs, _, hs, _, hr => by
    rcases List.mem_append.1 hs with hs | hs
    · exact List.mem_append_left _ (structsInAll_subset t hs hr)
    · exact List.mem_append_right _ (structsInAll_subsets cs hs hr)

end

end EvmType

/-! ## Contracts -/

/-- All that a type refers to is declared. -/
def RefersToDeclared (y : Typing) (d : Direction) (structs : List StructType) (u : RefType) :
    Prop :=
  ∀ n, .struct n ∈ u.names → ∃ w, declaredType y d structs n = some w

section
variable {y : Typing} {d : Direction} {types : List EvmType} {structs : List StructType}
  {statements : List Statement}

/-- A struct in one of the types is declared as the tuple of its own components. -/
theorem declaresStruct_of_mem (ht : ofTypes types = .ok structs)
    (hn : ∀ t ∈ types, t.HasReadableNames) (hs : structStatements y structs = .ok statements)
    {t : EvmType} (hmem : t ∈ types) {s : StructType} (hst : s ∈ t.structsIn) :
    y.DeclaresStruct d (declaredType y d structs) s := by
  obtain ⟨k, hk, hshape⟩ := knows_of_ofTypes ht hmem hst
  obtain ⟨us, hus, -⟩ := declared_of_firstNamed? hs hk d
  -- The first struct of the name has the same shape, and so the same components.
  have hkn : HaveReadableNames k.components := by
    obtain ⟨t', ht', hkt⟩ := exists_type_of_mem ht (mem_of_firstNamed? hk).1
    exact haveReadableNames_of_mem t' (hn t' ht') hkt
  have hsn := haveReadableNames_of_mem t (hn t hmem) hst
  have he : erasedAll k.components = erasedAll s.components :=
    (shape_struct_eq_iff hkn hsn).1 hshape
  refine ⟨us, ?_, ?_⟩
  · rw [← Typing.refTypesOf_erasedAll, ← he, Typing.refTypesOf_erasedAll]
    exact hus
  · rw [declaredType, hk, Option.bind_some, hus]
    rfl

theorem refersToDeclared_of_structs (ht : ofTypes types = .ok structs)
    (hn : ∀ t ∈ types, t.HasReadableNames) (hs : structStatements y structs = .ok statements)
    {u : RefType}
    (hu : ∀ n, .struct n ∈ u.names → ∃ t ∈ types, ∃ s ∈ t.structsIn, s.name = n) :
    RefersToDeclared y d structs u := by
  intro n hnu
  obtain ⟨t, hmem, s, hst, rfl⟩ := hu n hnu
  obtain ⟨us, -, hd⟩ := declaresStruct_of_mem (d := d) ht hn hs hmem hst
  exact ⟨_, hd⟩

/-- A declaration is among the statements, and refers to declared structs only. -/
theorem declared_of_declaredType (ht : ofTypes types = .ok structs)
    (hn : ∀ t ∈ types, t.HasReadableNames) (hs : structStatements y structs = .ok statements)
    {n : StructName} {u : RefType} (h : declaredType y d structs n = some u) :
    DeclaredAs statements n (y.suffix d) (u.map (Symbol.print (y.suffix d))) ∧
      RefersToDeclared y d structs u := by
  obtain ⟨k, hk, hu⟩ := Option.bind_eq_some_iff.1 h
  obtain ⟨us, hus, hdecl⟩ := declared_of_firstNamed? hs hk d
  obtain ⟨us', hus', rfl⟩ := map_eq_ok_iff.1 (toOption_eq_some_iff.1 hu)
  rw [hus] at hus'
  cases hus'
  refine ⟨hdecl, refersToDeclared_of_structs ht hn hs fun m hm => ?_⟩
  obtain ⟨f, hf, hm⟩ := TsExpr.mem_names_tupleType hm
  obtain ⟨s, hsk, hsm⟩ := Typing.exists_of_mem_namesFields k.components hus hf hm
  obtain ⟨t, hmem, hkt⟩ := exists_type_of_mem ht (mem_of_firstNamed? hk).1
  exact ⟨t, hmem, s, structsInAll_subset t hkt hsk, hsm⟩

end

/-- In each direction, what is declared for a struct stands in the statements under the name that
references to it have, and refers to declared structs only.  So does the type of a signature that
refers to structs by name; it prints as that type, and replacing its references by what is declared,
at every depth, gives the type with all structs spelled out. -/
theorem hoisting_preserves_types {name : String} {abi : AbiDefinition} {c : Contract}
    (hc : Contract.ofAbi name abi = .ok c)
    (hn : ∀ t ∈ c.signatureTypes, t.hasSourceNames = true) {y : Typing}
    {statements : List Statement} (hs : structStatements y c.structs = .ok statements)
    (d : Direction) :
    (∀ n u, declaredType y d c.structs n = some u →
      DeclaredAs statements n (y.suffix d) (u.map (Symbol.print (y.suffix d))) ∧
        RefersToDeclared y d c.structs u) ∧
    ∀ t ∈ c.signatureTypes, ∀ hoisted, y.typeOf d true t = .ok hoisted →
      ∃ u, y.refTypeOf d t = .ok u ∧ hoisted = u.map (Symbol.print (y.suffix d)) ∧
        RefersToDeclared y d c.structs u ∧
        ∃ spelled, y.typeOf d false t = .ok spelled ∧
          Expands (declaredType y d c.structs) u spelled := by
  have ht := ofTypes_of_ofAbi hc
  have hr : ∀ t ∈ c.signatureTypes, t.HasReadableNames :=
    fun t hmem => hasReadableNames_of_source t (hn t hmem)
  refine ⟨fun n u h => declared_of_declaredType ht hr hs h, fun t hmem hoisted h => ?_⟩
  rw [← Typing.print_refTypeOf] at h
  obtain ⟨u, hu, rfl⟩ := map_eq_ok_iff.1 h
  refine ⟨u, hu, rfl, ?_, ?_⟩
  · refine refersToDeclared_of_structs ht hr hs fun n hnu => ?_
    obtain ⟨s, hst, hsn⟩ := Typing.exists_of_mem_names t hu hnu
    exact ⟨t, hmem, s, hst, hsn⟩
  · exact Typing.exists_expansion t (fun s hst => declaresStruct_of_mem ht hr hs hmem hst) hu

/-- A function of a shop that takes an order and returns its lines. -/
def shopAbi : AbiDefinition where
  functions := [⟨"place", [order], [lines], "nonpayable"⟩]
where
  line : List AbiParameter :=
    [⟨"item", "string", none, none, false⟩, ⟨"amounts", "uint256[2]", none, none, false⟩]
  lines : AbiParameter := ⟨"lines", "tuple[]", some "struct Shop.Line[]", some line, false⟩
  order : AbiParameter :=
    ⟨"order", "tuple", some "struct Order", some [⟨"to", "address", none, none, false⟩, lines],
      false⟩

/-- The types of the shop's function, by name and spelled out. -/
theorem hoisting_preserves_types_shop :
    let y : Typing := ⟨ethersV5, "Struct", "StructOutput"⟩
    ∃ c statements, Contract.ofAbi "Shop" shopAbi = .ok c ∧
      structStatements y c.structs = .ok statements ∧
      c.structs.map (·.name) = [⟨"Order", none⟩, ⟨"Line", some "Shop"⟩] ∧
      ∀ t ∈ c.signatureTypes, ∃ u spelled, y.refTypeOf .output t = .ok u ∧
        RefersToDeclared y .output c.structs u ∧ y.typeOf .output false t = .ok spelled ∧
        Expands (declaredType y .output c.structs) u spelled := by
  intro y
  have h : (match Contract.ofAbi "Shop" shopAbi with
      | .ok c => (structStatements y c.structs).toOption.isSome &&
          (c.structs.map (·.name) == [⟨"Order", none⟩, ⟨"Line", some "Shop"⟩] &&
          c.signatureTypes.all fun t =>
            t.hasSourceNames && (y.typeOf .output true t).toOption.isSome)
      | .error _ => false) = true := by
    decide +kernel
  split at h
  · rename_i c hc
    simp only [Bool.and_eq_true, beq_iff_eq, List.all_eq_true, Option.isSome_iff_exists,
      toOption_eq_some_iff] at h
    obtain ⟨⟨statements, hs⟩, hnames, htypes⟩ := h
    refine ⟨c, statements, hc, hs, hnames, fun t ht => ?_⟩
    have hn : ∀ t ∈ c.signatureTypes, t.hasSourceNames = true := fun t ht => (htypes t ht).1
    obtain ⟨hoisted, hh⟩ := (htypes t ht).2
    obtain ⟨-, hpreserved⟩ := hoisting_preserves_types hc hn hs .output
    obtain ⟨u, hu, -, hdecl, spelled, hsp, he⟩ := hpreserved t ht hoisted hh
    exact ⟨u, spelled, hu, hdecl, hsp, he⟩
  · cases h

end AbiBindings
