import AbiBindings.Declaration.Structs
import AbiBindings.Proofs.Struct.Namespaces
import AbiBindings.Proofs.Typing.Reference

/-!
# Declared structs

If a list of structs can be declared, the first struct of each name is declared in both directions:
in the namespace of its owner or at the top level, under its identifier with the suffix of the
direction, as the tuple of its components with references to structs.

    firstNamed? structs n = some k → k is declared                  (declared_of_firstNamed?)
-/

namespace AbiBindings

open StructCollection

/-! ## Aliases -/

/-- Among statements there is the alias of a struct with a suffix, where the struct's owner wants
it, for a type. -/
def DeclaredAs (statements : List Statement) (n : StructName) (suffix : String) (t : TsType) :
    Prop :=
  match n.owner with
  | none => .alias ⟨n.identifier ++ suffix, .type t.text⟩ ∈ statements
  | some owner => ∃ aliases, .module owner aliases ∈ statements ∧
      ⟨n.identifier ++ suffix, .type t.text⟩ ∈ aliases

/-- The type with references that a struct is declared as. -/
def declaredType (y : Typing) (d : Direction) (structs : List StructType) (n : StructName) :
    Option RefType :=
  (firstNamed? structs n).bind fun k => ((y.refTypesOf d k.components).map (tupleType d)).toOption

variable {y : Typing} {d : Direction} {structs : List StructType} {statements : List Statement}

/-! ## Statements -/

/-- The alias of a struct in a direction, given its type with references. -/
theorem structAlias_eq_ok {k : StructType} {a : TypeAlias} (h : structAlias y d k = .ok a) :
    ∃ us, y.refTypesOf d k.components = .ok us ∧
      a = ⟨k.name.identifier ++ y.suffix d,
        .type (TsType.text ((tupleType d us).map (Symbol.print (y.suffix d))))⟩ := by
  simp only [structAlias, Typing.tupleText, Typing.tupleOf, bind_eq_ok_iff, mapError_eq_ok_iff,
    map_eq_ok_iff, ← Typing.print_refTypesOf] at h
  obtain ⟨text, ⟨u, ⟨ts, ⟨us, hus, rfl⟩, rfl⟩, rfl⟩, h⟩ := h
  cases h
  refine ⟨us, hus, ?_⟩
  rw [TsExpr.map_tupleType]

theorem structAlias_mem {k : StructType} {l : List StructType} {aliases : List TypeAlias}
    (h : aliasesOfStructs y l = .ok aliases) (hk : k ∈ l) :
    ∃ a ∈ aliases, structAlias y d k = .ok a := by
  obtain ⟨lists, hl, rfl⟩ := map_eq_ok_iff.1 h
  obtain ⟨both, hb, hk⟩ := mem_of_mapM_eq_ok hl hk
  simp only [structAliases, Checked.within, mapError_eq_ok_iff, bind_eq_ok_iff] at hk
  obtain ⟨input, hin, output, hout, hk⟩ := hk
  cases hk
  cases d with
  | input => exact ⟨input, List.mem_flatten.2 ⟨_, hb, List.mem_cons_self⟩, hin⟩
  | output =>
    refine ⟨output, List.mem_flatten.2 ⟨_, hb, ?_⟩, hout⟩
    exact List.mem_cons_of_mem _ List.mem_cons_self

/-- The first struct of a name is declared in both directions. -/
theorem declared_of_firstNamed? (hs : structStatements y structs = .ok statements)
    {n : StructName} {k : StructType} (h : firstNamed? structs n = some k) (d : Direction) :
    ∃ us, y.refTypesOf d k.components = .ok us ∧
      DeclaredAs statements n (y.suffix d)
        ((tupleType d us).map (Symbol.print (y.suffix d))) := by
  obtain ⟨-, rfl⟩ := mem_of_firstNamed? h
  have hk : k ∈ firstOfEachName [] structs :=
    (mem_of_firstNamed? ((firstNamed?_firstOfEachName List.not_mem_nil).trans h)).1
  simp only [structStatements, bind_eq_ok_iff] at hs
  obtain ⟨topLevel, htop, namespaces, hns, hs⟩ := hs
  cases hs
  unfold DeclaredAs
  cases ho : k.name.owner with
  | none =>
    rw [topLevel_ofStructs] at htop
    obtain ⟨a, ha, hka⟩ := structAlias_mem (d := d) htop
      (List.mem_filter.2 ⟨hk, decide_eq_true ho⟩)
    obtain ⟨us, hus, rfl⟩ := structAlias_eq_ok hka
    refine ⟨us, hus, List.mem_append_left _ ?_⟩
    exact List.mem_map.2 ⟨_, ha, rfl⟩
  | some owner =>
    obtain ⟨statement, hst, hstatement⟩ :=
      mem_of_mapM_eq_ok hns (mem_namespaces_ofStructs_iff.2 ⟨⟨k, hk, ho⟩, rfl⟩)
    obtain ⟨aliases, hal, rfl⟩ := map_eq_ok_iff.1 hstatement
    obtain ⟨a, ha, hka⟩ := structAlias_mem (d := d) hal
      (List.mem_filter.2 ⟨hk, decide_eq_true ho⟩)
    obtain ⟨us, hus, rfl⟩ := structAlias_eq_ok hka
    exact ⟨us, hus, aliases, List.mem_append_right _ hst, ha⟩

end AbiBindings
