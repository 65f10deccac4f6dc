import AbiBindings.Artifact.Path
import AbiBindings.Proofs.Contract.SafeTexts
import AbiBindings.Proofs.Declaration.Coverage
import AbiBindings.Proofs.EvmType.Signature
import AbiBindings.Proofs.TypeScript.Word

/-!
# Balanced declaration files

Where all other names are safe, a declaration file is balanced exactly if the name of its contract
is: each statement is laid out from balanced texts and from this name, and only balanced texts come
before the first place of it.

    every statement is laid out from the name                     (declarationSections_split)
    the file is balanced ↔ its rest is, from the first name on    (contractFile_split)
    the file is balanced ↔ the name is                            (declarationFile_isBalanced_iff)
-/

namespace AbiBindings

open StructCollection

/-! ## Signatures and digests -/

theorem literalBody_toString (n : Nat) : LiteralBody (toString n).toList :=
  (isSafe_of_words (isWordChar_toString n)).literal

theorem literalBody_leaf (k : Leaf) : LiteralBody k.canonical.toList := by
  cases k with
  | address | bool | string | bytes => exact literalBody_of_chars (by decide)
  | uint n | int n | fixedBytes n =>
    rw [Leaf.canonical, String.toList_append]
    exact (literalBody_of_chars (by decide)).append (literalBody_toString n)

theorem literalBody_arraySuffix (n : Option Nat) : LiteralBody (arraySuffix n).toList := by
  cases n with
  | none => exact literalBody_of_chars (by decide)
  | some n =>
    rw [arraySuffix, String.toList_append, String.toList_append]
    exact ((literalBody_of_chars (by decide)).append (literalBody_toString n)).append
      (literalBody_of_chars (by decide))

mutual

theorem literalBody_canonical : (t : EvmType) → LiteralBody t.canonical.toList
  | .leaf k _ => literalBody_leaf k
  | .array element n _ => by
    rw [EvmType.canonical, String.toList_append]
    exact (literalBody_canonical element).append (literalBody_arraySuffix n)
  | .tuple cs _ _ => by
    rw [EvmType.canonical, String.toList_append, String.toList_append]
    have hcomponents : LiteralBody (",".intercalate (EvmType.canonicals cs)).toList :=
      joinKeeps_literalBody.intercalate (literalBody_of_chars (by decide))
        (literalBody_canonicals cs)
    exact ((literalBody_of_chars (by decide)).append hcomponents).append
      (literalBody_of_chars (by decide))

theorem literalBody_canonicals : (cs : List (Named EvmType)) →
    ∀ s ∈ EvmType.canonicals cs, LiteralBody s.toList
  | [], _, hs => by cases hs
  | ⟨_, t⟩ :: cs, s, hs => by
    rcases List.mem_cons.1 hs with rfl | hs
    · exact literalBody_canonical t
    · exact literalBody_canonicals cs s hs

end

theorem literalBody_signatureOf {name : String} (h : LiteralBody name.toList)
    (types : List EvmType) : LiteralBody (signatureOf name types).toList := by
  rw [toList_signatureOf]
  exact h.append (literalBody_canonical _)

theorem literalBody_hexDigest (length : Nat) (text : String) :
    LiteralBody (Keccak.hexDigest length text).toList := by
  have hdigit : ∀ n < 16, isLiteralChar (Nat.digitChar n) = true := by decide
  rw [Keccak.hexDigest, String.toList_append]
  refine (literalBody_of_chars (by decide)).append
    (literalBody_of_chars (List.all_eq_true.2 fun c hc => ?_))
  rw [String.toList_ofList] at hc
  obtain ⟨b, -, hc⟩ := List.mem_flatMap.1 hc
  have hb := b.toNat_lt
  rcases List.mem_cons.1 hc with rfl | hc
  · exact hdigit _ (by omega)
  · rw [List.mem_singleton.1 hc]
    exact hdigit _ (by omega)

/-! ## Members -/

/-- All texts that a member shows are laid out from the parts. -/
structure MemberFromParts (part : List Char → Prop) (m : String × AliasBody) : Prop where
  key : LaidOut part m.1.toList
  body : m.2.FromParts part

section
variable {part : List Char → Prop}

theorem fromParts_block {members : List (String × AliasBody)}
    (h : ∀ m ∈ members, MemberFromParts part m) : (AliasBody.block members).FromParts part :=
  .block (fun m hm => (h m hm).key) fun m hm => (h m hm).body

theorem fromParts_type {key text : String} (hk : IsBalanced key)
    (ht : LaidOut part text.toList) : MemberFromParts part (key, .type text) :=
  ⟨.text hk, .type ht⟩

theorem fromParts_literal {key value : String} (hk : IsBalanced key)
    (hv : LiteralBody value.toList) : MemberFromParts part (literalMember key value) :=
  fromParts_type hk (.text (isBalanced_doubleQuoted hv))

end

/-! ## Structs -/

section
variable {part : List Char → Prop} {y : Typing} {structs : List StructType}

theorem fromParts_structAlias (hy : y.IsBalanced) {d : Direction} {s : StructType}
    (hs : s.toType.HasBalancedNames) {a : TypeAlias} (h : structAlias y d s = .ok a) :
    a.FromParts part := by
  simp only [structAlias, bind_eq_ok_iff] at h
  obtain ⟨text, ht, h⟩ := h
  cases h
  exact ⟨.text ((hs.struct _ List.mem_cons_self).append (hy.suffix d)),
    .type (.text (isBalanced_tupleText hy (fun _ hc => hs.component hc) ht))⟩

theorem fromParts_aliasesOfStructs (hy : y.IsBalanced)
    (hs : ∀ s ∈ structs, s.toType.HasBalancedNames) {aliases : List TypeAlias}
    (h : aliasesOfStructs y structs = .ok aliases) : ∀ a ∈ aliases, a.FromParts part := by
  obtain ⟨lists, hl, rfl⟩ := map_eq_ok_iff.1 h
  intro a ha
  obtain ⟨both, hb, ha⟩ := List.mem_flatten.1 ha
  obtain ⟨s, hmem, hboth⟩ := (mem_iff_of_mapM_eq_ok hl).1 hb
  simp only [structAliases, within_eq_ok_iff, bind_eq_ok_iff] at hboth
  obtain ⟨input, hin, output, hout, hboth⟩ := hboth
  cases hboth
  rcases List.mem_cons.1 ha with rfl | ha
  · exact fromParts_structAlias hy (hs s hmem) hin
  · rw [List.mem_singleton.1 ha]
    exact fromParts_structAlias hy (hs s hmem) hout

theorem fromParts_structStatements (hy : y.IsBalanced)
    (hs : ∀ s ∈ structs, s.toType.HasBalancedNames) {statements : List Statement}
    (h : structStatements y structs = .ok statements) : ∀ s ∈ statements, s.FromParts part := by
  have hfirst : ∀ s ∈ firstOfEachName [] structs, s.toType.HasBalancedNames :=
    fun s hmem => hs s (of_mem_firstOfEachName hmem).1
  simp only [structStatements, bind_eq_ok_iff] at h
  obtain ⟨topLevel, htop, namespaces, hns, h⟩ := h
  cases h
  intro s hmem
  rcases List.mem_append.1 hmem with hmem | hmem
  · obtain ⟨a, ha, rfl⟩ := List.mem_map.1 hmem
    refine .single (fromParts_aliasesOfStructs hy (fun s hst => ?_) htop a ha)
    exact hfirst s (mem_ofStructs_iff.1 (.inl hst))
  · obtain ⟨⟨owner, g⟩, hg, hst⟩ := (mem_iff_of_mapM_eq_ok hns).1 hmem
    obtain ⟨aliases, hal, rfl⟩ := map_eq_ok_iff.1 hst
    have hgroup : ∀ s ∈ g, s.toType.HasBalancedNames :=
      fun s hst => hfirst s (mem_ofStructs_iff.1 (.inr ⟨_, hg, hst⟩))
    obtain ⟨⟨k, hk, ho⟩, -⟩ := mem_namespaces_ofStructs_iff.1 hg
    refine .scope ?_ (fromParts_aliasesOfStructs hy hgroup hal)
    exact .text ((hfirst k hk).struct owner (List.mem_cons_of_mem _ (by simp [ho])))

end

/-! ## Entries -/

theorem isBalanced_flag (b : Bool) : IsBalanced (toString b) := by
  cases b <;> decide

section
variable {part : List Char → Prop} {y : Typing}

theorem fromParts_functionEntry (hy : y.IsBalanced) {f : ContractFunction} (hf : f.HasSafeTexts)
    (hid : IsSafe f.identifier) {m : String × AliasBody} (h : functionEntry y f = .ok m) :
    MemberFromParts part m := by
  simp only [functionEntry, within_eq_ok_iff, bind_eq_ok_iff] at h
  obtain ⟨inputs, hi, outputs, ho, h⟩ := h
  cases h
  refine ⟨.text hid.balanced, fromParts_block ?_⟩
  simp only [List.forall_mem_cons]
  exact ⟨fromParts_literal (by decide) (literalBody_signatureOf hf.name.literal _),
    fromParts_literal (by decide) (literalBody_hexDigest _ _),
    fromParts_literal (by decide) hf.stateMutability,
    fromParts_type (by decide) (.text (isBalanced_argumentsText hy hf.inputs hi)),
    fromParts_type (by decide) (.text (isBalanced_resultText hy hf.outputs ho)),
    List.forall_mem_nil _⟩

theorem isBalanced_filterText (hy : y.IsBalanced) {inputs : List EventInput}
    (hin : ∀ i ∈ inputs, IsBalancedComponent i.component) {text : String}
    (h : filterText y inputs = .ok text) : IsBalanced text := by
  simp only [filterText, bind_eq_ok_iff] at h
  obtain ⟨items, hitems, h⟩ := h
  cases h
  refine isBalanced_bracketed fun s hs => ?_
  obtain ⟨⟨i, index⟩, hmem, hs⟩ := (mem_iff_of_mapM_eq_ok hitems).1 hs
  obtain ⟨t, ht, hs⟩ := bind_eq_ok_iff.1 hs
  cases hs
  have hi := hin i (List.fst_mem_of_mem_zipIdx (List.mem_of_mem_filter hmem))
  exact isBalanced_memberText ((isBalanced_argumentLabel hi.name index).append (by decide))
    ((isBalanced_typeText hy hi.type ht).append (by decide))

theorem fromParts_eventAlias (hy : y.IsBalanced) {e : ContractEvent} (he : e.HasSafeTexts)
    (hid : IsSafe e.identifier) {a : TypeAlias} (h : eventAlias y e = .ok a) :
    a.FromParts part := by
  simp only [eventAlias, within_eq_ok_iff, bind_eq_ok_iff] at h
  obtain ⟨filter, hf, args, ha, h⟩ := h
  cases h
  refine ⟨.text (hid.balanced.append (by decide)), fromParts_block ?_⟩
  have hargs : IsBalanced args := isBalanced_tupleText hy (fun c hc => by
    obtain ⟨i, hi, rfl⟩ := List.mem_map.1 hc
    exact he.inputs i hi) ha
  simp only [List.forall_mem_cons]
  exact ⟨fromParts_literal (by decide) (literalBody_signatureOf he.name.literal _),
    fromParts_literal (by decide) (literalBody_hexDigest _ _),
    fromParts_type (by decide) (.text (isBalanced_flag _)),
    fromParts_type (by decide) (.text hargs),
    fromParts_type (by decide) (.text (isBalanced_filterText hy he.inputs hf)),
    List.forall_mem_nil _⟩

theorem fromParts_errorAlias (hy : y.IsBalanced) {e : ContractError} (he : e.HasSafeTexts)
    (hid : IsSafe e.identifier) {a : TypeAlias} (h : errorAlias y e = .ok a) :
    a.FromParts part := by
  simp only [errorAlias, within_eq_ok_iff, bind_eq_ok_iff] at h
  obtain ⟨args, ha, h⟩ := h
  cases h
  refine ⟨.text (hid.balanced.append (by decide)), fromParts_block ?_⟩
  simp only [List.forall_mem_cons]
  exact ⟨fromParts_literal (by decide) (literalBody_signatureOf he.name.literal _),
    fromParts_literal (by decide) (literalBody_hexDigest _ _),
    fromParts_type (by decide) (.text (isBalanced_tupleText hy he.inputs ha)),
    List.forall_mem_nil _⟩

end

/-! ## Maps -/

/-- The texts of a typing, and the modules of its imports, can stand where they are written. -/
structure DeclarationOptions.HasSafeTexts (o : DeclarationOptions) : Prop where
  typing : o.typing.IsBalanced
  modules : ∀ i ∈ o.typing.names.imports, LiteralBody i.module.toList

/-- How the name of a contract is shown. -/
inductive ShownName (o : DeclarationOptions) (c : Contract) : List Char → Prop where
  | plain : ShownName o c c.name.toList
  | quoted (h : o.tellsContractName = true) : ShownName o c (doubleQuoted c.name).toList

section
variable {o : DeclarationOptions} {c : Contract}

theorem laidOut_name : LaidOut (ShownName o c) c.name.toList := .part .plain

theorem fromParts_functionsAlias (hy : o.typing.IsBalanced) (hc : c.HasSafeTexts)
    (hid : c.HasSafeIdentifiers) {a : TypeAlias} (h : functionsAlias o c = .ok a) :
    a.FromParts (ShownName o c) := by
  have hmap : LaidOut (ShownName o c) (functionsName c).toList :=
    laidOut_name.join (.text (by decide))
  simp only [functionsAlias, bind_eq_ok_iff] at h
  obtain ⟨entries, he, h⟩ := h
  cases h
  refine ⟨hmap, fromParts_block fun m hm => ?_⟩
  rcases List.mem_append.1 hm with hm | hm
  · obtain ⟨f, hf, hm⟩ := (mem_iff_of_mapM_eq_ok he).1 hm
    exact fromParts_functionEntry hy (hc.functions f hf) (hid.functions f hf) hm
  · obtain ⟨f, hf, rfl⟩ := List.mem_map.1 hm
    have hf := List.mem_of_mem_filter hf
    have hsignature := literalBody_signatureOf (hc.functions f hf).name.literal
      (f.inputs.map (·.type))
    have hindex : IsBalanced ("[" ++ doubleQuoted f.identifier ++ "]") :=
      (isBalanced_doubleQuoted (hid.functions f hf).literal).enclosed encloses_square
    have hreference := hmap.join (.text hindex)
    rw [← String.append_assoc, ← String.append_assoc] at hreference
    exact fromParts_type (isBalanced_doubleQuoted hsignature) hreference

theorem unquotedLine_blockText (members : List String) (s : List Char) :
    UnquotedLine ((blockText members).toList ++ ';' :: '\n' :: s) := by
  unfold blockText
  split
  · exact ⟨['{', '}', ';'], s, by decide, by simp⟩
  · exact ⟨['{'], _, by decide, by simp; rfl⟩

/-- The map of functions shows the contract's name first, and no quote on the same line. -/
theorem functionsAlias_split (hy : o.typing.IsBalanced) (hc : c.HasSafeTexts)
    (hid : c.HasSafeIdentifiers) {a : TypeAlias} (h : functionsAlias o c = .ok a) :
    ∃ rest, a.text.toList = "export type ".toList ++ (c.name.toList ++ rest) ∧
      LaidOut (ShownName o c) rest ∧ ∀ s, UnquotedLine (rest ++ '\n' :: s) := by
  have hparts := fromParts_functionsAlias hy hc hid h
  simp only [functionsAlias, bind_eq_ok_iff] at h
  obtain ⟨entries, -, h⟩ := h
  cases h
  generalize entries ++ _ = members at hparts ⊢
  refine ⟨("Functions = " ++ blockText (AliasBody.memberTexts members) ++ ";").toList, ?_,
    (LaidOut.join (.text (by decide)) (laidOut_body hparts.body)).join (.text (by decide)),
    fun s => ?_⟩
  · simp [TypeAlias.text, AliasBody.text, functionsName]
  · have hline := unquotedLine_blockText (AliasBody.memberTexts members) s
    simpa using hline.behind (by decide : '"' ∉ "Functions = ".toList)

theorem fromParts_eventsAlias (hc : c.HasSafeTexts) (hid : c.HasSafeIdentifiers) :
    (eventsAlias o c).FromParts (ShownName o c) := by
  refine ⟨laidOut_name.join (.text (by decide)), fromParts_block fun m hm => ?_⟩
  rcases List.mem_append.1 hm with hm | hm
  · obtain ⟨e, he, rfl⟩ := List.mem_map.1 hm
    have hide := (hid.events e he).balanced
    exact fromParts_type hide (.text (hide.append (by decide)))
  · obtain ⟨e, he, rfl⟩ := List.mem_map.1 hm
    have he := List.mem_of_mem_filter he
    exact fromParts_type
      (isBalanced_doubleQuoted (literalBody_signatureOf (hc.events e he).name.literal _))
      (.text ((hid.events e he).balanced.append (by decide)))

theorem fromParts_errorsAlias (hid : c.HasSafeIdentifiers) :
    (errorsAlias c).FromParts (ShownName o c) := by
  refine ⟨laidOut_name.join (.text (by decide)), fromParts_block fun m hm => ?_⟩
  obtain ⟨e, he, rfl⟩ := List.mem_map.1 hm
  have hide := (hid.errors e he).balanced
  exact fromParts_type hide (.text (hide.append (by decide)))

theorem safe_of_deployment {y : Typing} (hy : y.IsBalanced) (hc : c.HasSafeTexts)
    {mutability inputs : String} (h : deployment y c = .ok (mutability, inputs)) :
    LiteralBody mutability.toList ∧ IsBalanced inputs := by
  unfold deployment at h
  split at h
  · cases h
    exact ⟨literalBody_of_chars (by decide), by decide⟩
  · rename_i k hk
    obtain ⟨text, ht, he⟩ := map_eq_ok_iff.1 h
    cases he
    have hsafe := hc.constructor k hk
    rw [within_eq_ok_iff] at ht
    exact ⟨hsafe.stateMutability, isBalanced_argumentsText hy hsafe.inputs ht⟩

theorem fromParts_contractAlias (hy : o.typing.IsBalanced) (hc : c.HasSafeTexts) {a : TypeAlias}
    (h : contractAlias o c = .ok a) : a.FromParts (ShownName o c) := by
  simp only [contractAlias, bind_eq_ok_iff] at h
  obtain ⟨⟨mutability, inputs⟩, hd, h⟩ := h
  cases h
  obtain ⟨hmutability, hinputs⟩ := safe_of_deployment hy hc hd
  have hdeploy : MemberFromParts (ShownName o c) ("deploy", .block
      [literalMember "stateMutability" mutability, ("inputs", .type inputs)]) := by
    refine ⟨.text (by decide : IsBalanced "deploy"), fromParts_block ?_⟩
    simp only [List.forall_mem_cons]
    exact ⟨fromParts_literal (by decide) hmutability,
      fromParts_type (by decide) (.text hinputs), List.forall_mem_nil _⟩
  have hmap {key suffix : String} (hk : IsBalanced key) (hs : IsBalanced suffix) :
      MemberFromParts (ShownName o c) (key, .type (c.name ++ suffix)) :=
    fromParts_type hk (laidOut_name.join (.text hs))
  have hflag {key : String} (hk : IsBalanced key) (b : Bool) :
      MemberFromParts (ShownName o c) (key, .type (toString b)) :=
    fromParts_type hk (.text (isBalanced_flag b))
  refine ⟨laidOut_name, fromParts_block (List.forall_mem_append.2 ⟨fun m hm => ?_, ?_⟩)⟩
  · split at hm
    · rename_i ht
      rw [List.mem_singleton.1 hm]
      exact fromParts_type (by decide) (.part (.quoted ht))
    · cases hm
  · simp only [List.forall_mem_cons]
    exact ⟨hdeploy, hmap (by decide) (by decide), hmap (by decide) (by decide),
      hmap (by decide) (by decide), hflag (by decide) _, hflag (by decide) _,
      List.forall_mem_nil _⟩

end

/-! ## Imports -/

/-- What is imported is used, and so it is a word. -/
theorem isBalanced_importLines {imports : List TypeImport}
    (h : ∀ i ∈ imports, LiteralBody i.module.toList) (sections : List String) :
    ∀ line ∈ importLines imports sections, IsBalanced line := by
  intro line hline
  obtain ⟨i, hi, hline⟩ := List.mem_filterMap.1 hline
  unfold TypeImport.line? at hline
  dsimp only at hline
  split at hline
  · cases hline
  · cases hline
    have hnames : ∀ n ∈ i.names.filter (sections.flatMap wordsOf).contains, IsBalanced n := by
      intro n hn
      obtain ⟨text, -, hn⟩ := List.mem_flatMap.1 (List.contains_iff_mem.1 (List.mem_filter.1 hn).2)
      exact (isSafe_of_words (mem_wordsOf_iff.1 hn).chars).balanced
    exact ((((by decide : IsBalanced "import type ").append (isBalanced_braced hnames)).append
      (by decide)).append (isBalanced_doubleQuoted (h i hi))).append (by decide)

/-! ## Files -/

section
variable {o : DeclarationOptions} {name : String} {abi : AbiDefinition} {c : Contract}

/-- The map of functions is the first statement to show the contract's name. -/
theorem declarationSections_split (ho : o.HasSafeTexts) (habi : Contract.ofAbi name abi = .ok c)
    (hc : c.HasSafeTexts) {sections : List (List Statement)}
    (h : declarationSections o c = .ok sections) :
    ∃ before functions after, functionsAlias o c = .ok functions ∧
      sections = before ++ [.alias functions] :: after ∧
      (∀ statements ∈ before, IsBalanced (sectionText statements)) ∧
      ∀ statements ∈ after, LaidOut (ShownName o c) (sectionText statements).toList := by
  have hy := ho.typing
  have hid := hc.identifiers habi
  simp only [declarationSections, bind_eq_ok_iff] at h
  obtain ⟨structs, hstructs, functions, hfunctions, events, hevents, errors, herrors, contract,
    hcontract, h⟩ := h
  cases h
  refine ⟨[structs].filter (!·.isEmpty), functions, [events.map .alias, [.alias (eventsAlias o c)],
    errors.map .alias, [.alias (errorsAlias c)], [.alias contract]].filter (!·.isEmpty),
    hfunctions, List.filter_append [structs] ([.alias functions] :: _),
    fun statements hmem => ?_, fun statements hmem => ?_⟩
  · rw [List.mem_singleton.1 (List.mem_of_mem_filter hmem)]
    exact isBalanced_sectionText fun _ => fromParts_structStatements hy (hc.structs habi) hstructs
  · have hall : ∀ statements ∈ [events.map Statement.alias, [.alias (eventsAlias o c)],
        errors.map .alias, [.alias (errorsAlias c)], [.alias contract]],
        ∀ s ∈ statements, s.FromParts (ShownName o c) := by
      simp only [List.forall_mem_cons, List.forall_mem_map]
      refine ⟨fun a ha => ?_, ⟨.single (fromParts_eventsAlias hc hid), by simp⟩, fun a ha => ?_,
        ⟨.single (fromParts_errorsAlias hid), by simp⟩,
        ⟨.single (fromParts_contractAlias hy hc hcontract), by simp⟩, by simp⟩
      · obtain ⟨e, he, ha⟩ := (mem_iff_of_mapM_eq_ok hevents).1 ha
        exact .single (fromParts_eventAlias hy (hc.events e he) (hid.events e he) ha)
      · obtain ⟨e, he, ha⟩ := (mem_iff_of_mapM_eq_ok herrors).1 ha
        exact .single (fromParts_errorAlias hy (hc.errors e he) (hid.errors e he) ha)
    exact laidOut_sectionText (hall statements (List.mem_of_mem_filter hmem))

theorem fileSections_split {imports : List TypeImport}
    (hmodules : ∀ i ∈ imports, LiteralBody i.module.toList) (body : List String) :
    ∃ lines, fileSections imports body = lines ++ body ∧ ∀ t ∈ lines, IsBalanced t := by
  have hlines := isBalanced_importLines hmodules body
  unfold fileSections
  split
  · exact ⟨[], rfl, by simp⟩
  · exact ⟨[_], rfl, List.forall_mem_singleton.2 (isBalanced_intercalate (by decide) hlines)⟩

/-- The file of a contract is balanced if it is from the first place of the contract's name on. -/
theorem contractFile_split (ho : o.HasSafeTexts) (habi : Contract.ofAbi name abi = .ok c)
    (hc : c.HasSafeTexts) {text : String} (h : contractFile o c = .ok text) :
    ∃ rest, LaidOut (ShownName o c) rest ∧ UnquotedLine rest ∧
      (IsBalanced text ↔ Balanced (c.name.toList ++ rest)) := by
  obtain ⟨sections, hsections, rfl⟩ := contractFile_eq_ok_iff.1 h
  obtain ⟨before, functions, after, hfunctions, rfl, hbefore, hafter⟩ :=
    declarationSections_split ho habi hc hsections
  obtain ⟨rest, htext, hrest, hline⟩ :=
    functionsAlias_split ho.typing hc (hc.identifiers habi) hfunctions
  obtain ⟨lines, hlines, himports⟩ :=
    fileSections_split ho.modules ((before ++ [.alias functions] :: after).map sectionText)
  have hfront : ∀ t ∈ lines ++ before.map sectionText, IsBalanced t :=
    List.forall_mem_append.2 ⟨himports, List.forall_mem_map.2 hbefore⟩
  have hback : LaidOut (ShownName o c) (markedText "\n\n" (after.map sectionText)) :=
    joinKeeps_laidOut.flatMap (List.forall_mem_map.2 fun statements hst =>
      (hafter statements hst).append (.balanced (by decide)))
  have hfeeds : LaidOut (ShownName o c) ['\n', '\n'] := .balanced (by decide)
  refine ⟨rest ++ '\n' :: '\n' :: markedText "\n\n" (after.map sectionText),
    hrest.append (hfeeds.append hback), hline _, ?_⟩
  rw [hlines, List.map_append, List.map_cons, sectionText_alias, ← List.append_assoc,
    isBalanced_fileText_append_iff hfront, htext, List.append_assoc, List.append_assoc,
    balanced_append_iff (by decide : IsBalanced "export type ")]

/-- A balanced name makes a balanced file, if it may stand between quotes where it does. -/
theorem isBalanced_contractFile (ho : o.HasSafeTexts) (habi : Contract.ofAbi name abi = .ok c)
    (hc : c.HasSafeTexts) (hname : IsBalanced c.name)
    (hquoted : o.tellsContractName = true → IsBalanced (doubleQuoted c.name)) {text : String}
    (h : contractFile o c = .ok text) : IsBalanced text := by
  obtain ⟨rest, hrest, -, hiff⟩ := contractFile_split ho habi hc h
  refine hiff.2 (Balanced.append hname (hrest.isBalanced fun p hp => ?_))
  cases hp with
  | plain => exact hname
  | quoted ht => exact hquoted ht

/-- Only a balanced name makes a balanced file: what the name leaves open at its first place stays
open, as the same name at other places closes nothing of it. -/
theorem isBalanced_name_of_contractFile (ho : o.HasSafeTexts)
    (habi : Contract.ofAbi name abi = .ok c) (hc : c.HasSafeTexts)
    (ht : o.tellsContractName = false) {text : String} (h : contractFile o c = .ok text)
    (hb : IsBalanced text) : IsBalanced c.name := by
  obtain ⟨rest, hrest, hline, hiff⟩ := contractFile_split ho habi hc h
  refine (hiff.1 hb).of_append hline fun hname => hrest.keepsDepth fun p hp => ?_
  cases hp with
  | plain => exact hname
  | quoted hq =>
    rw [ht] at hq
    cases hq

end

/-! ## Configurations -/

/-- The texts of a table can stand where they are written: names in code, modules in literals. -/
structure TypeNames.HasSafeTexts (table : TypeNames) : Prop where
  input : ∀ n ∈ table.input.all, IsBalanced n
  output : ∀ n ∈ table.output.all, IsBalanced n
  modules : ∀ i ∈ table.imports, LiteralBody i.module.toList

structure Config.HasSafeTexts (config : Config) : Prop where
  typeNames : ∀ table, config.typeNames = some table → table.HasSafeTexts
  inputSuffix : IsBalanced config.structInputSuffix
  outputSuffix : IsBalanced config.structOutputSuffix

theorem hasSafeTexts_of_preset {n : String} {table : TypeNames} (h : preset? n = some table) :
    table.HasSafeTexts := by
  have hall : ∀ p ∈ presets, (∀ n ∈ p.2.input.all, IsBalanced n) ∧
      (∀ n ∈ p.2.output.all, IsBalanced n) ∧
      ∀ i ∈ p.2.imports, i.module.toList.all isLiteralChar = true := by decide +kernel
  obtain ⟨before, after, hsplit, -⟩ := List.lookup_eq_some_iff.1 h
  have hmem : (n, table) ∈ presets := by
    rw [hsplit]
    exact List.mem_append_right _ List.mem_cons_self
  obtain ⟨hin, hout, hmodules⟩ := hall _ hmem
  exact ⟨hin, hout, fun i hi => literalBody_of_chars (hmodules i hi)⟩

theorem Config.HasSafeTexts.declarations {config : Config} (h : config.HasSafeTexts) {t : Target}
    (ht : Target.ofConfig config = .ok t) : t.declarations.HasSafeTexts ∧
      t.declarations.tellsContractName = config.discriminateUnionsByType := by
  unfold Target.ofConfig at ht
  split at ht
  · cases ht
  · rename_i table hp
    have hnames : (config.typeNames.getD table).HasSafeTexts := by
      cases hn : config.typeNames with
      | none => exact hasSafeTexts_of_preset hp
      | some names => exact h.typeNames names hn
    simp only [bind_eq_ok_iff] at ht
    obtain ⟨-, -, ht⟩ := ht
    cases ht
    refine ⟨⟨⟨fun d => ?_, fun d => ?_⟩, hnames.modules⟩, rfl⟩
    · cases d with
      | input => exact hnames.input
      | output => exact hnames.output
    · cases d with
      | input => exact h.inputSuffix
      | output => exact h.outputSuffix

theorem hasSafeTexts_default : Config.HasSafeTexts {} :=
  ⟨fun _ h => absurd h (Option.some_ne_none _).symm, by decide, by decide⟩

/-- Any contract has a file in the default configuration. -/
theorem exists_file_of_default {name : String} {abi : AbiDefinition} {c : Contract}
    (hc : Contract.ofAbi name abi = .ok c) (path : String) :
    ∃ t f, Target.ofConfig {} = .ok t ∧ t.declarationFile c path = .ok f := by
  have h : (Target.ofConfig {}).map (·.declarations.typing.names) = .ok ethersV5 := by
    decide +kernel
  obtain ⟨t, ht, hnames⟩ := map_eq_ok_iff.1 h
  obtain ⟨f, hf⟩ := (needs_declarationFile hc t path).exists_iff.2 fun d u hu =>
    covers_of_reaches hc (presets_reach (by decide : ("ethers-v5", ethersV5) ∈ presets) hnames) hu
  exact ⟨t, f, ht, hf⟩

/-! ## Declaration files -/

section
variable {config : Config} {t : Target} {name path : String} {abi : AbiDefinition} {c : Contract}
  {f : GeneratedFile}

theorem isBalanced_name_of_declarationFile (ht : Target.ofConfig config = .ok t)
    (hconfig : config.HasSafeTexts) (hd : config.discriminateUnionsByType = false)
    (hc : Contract.ofAbi name abi = .ok c) (htexts : c.HasSafeTexts)
    (hf : t.declarationFile c path = .ok f) (hb : IsBalanced f.contents) : IsBalanced name := by
  obtain ⟨ho, htells⟩ := hconfig.declarations ht
  obtain ⟨text, htext, rfl⟩ := map_eq_ok_iff.1 hf
  have hname := isBalanced_name_of_contractFile ho hc htexts (htells.trans hd) htext hb
  rwa [name_ofAbi hc] at hname

/-- In the file of a contract every literal is closed on its own line, and outside of literals the
brackets are balanced, exactly if this holds of the contract's name; where the file tells the name
in a literal too, then if the name also fits into one.  All other names, in the configuration and
in the ABI, are taken to be balanced, and to fit into literals where they are quoted. -/
theorem declarationFile_isBalanced_iff (ht : Target.ofConfig config = .ok t)
    (hconfig : config.HasSafeTexts) (hc : Contract.ofAbi name abi = .ok c)
    (htexts : c.HasSafeTexts) (hf : t.declarationFile c path = .ok f) :
    (config.discriminateUnionsByType = false → (IsBalanced f.contents ↔ IsBalanced name)) ∧
      (IsSafe name → IsBalanced f.contents) := by
  have hfile (hname : IsBalanced name)
      (hquoted : config.discriminateUnionsByType = true → IsBalanced (doubleQuoted name)) :
      IsBalanced f.contents := by
    obtain ⟨ho, htells⟩ := hconfig.declarations ht
    obtain ⟨text, htext, rfl⟩ := map_eq_ok_iff.1 hf
    rw [← htells] at hquoted
    rw [← name_ofAbi hc] at hname hquoted
    exact isBalanced_contractFile ho hc htexts hname hquoted htext
  constructor
  · intro hd
    refine ⟨isBalanced_name_of_declarationFile ht hconfig hd hc htexts hf, fun hname => ?_⟩
    refine hfile hname fun hq => ?_
    rw [hd] at hq
    cases hq
  · intro hsafe
    exact hfile hsafe.balanced fun _ => isBalanced_doubleQuoted hsafe.literal

end

/-- The declarations of a ledger, with names of a source throughout. -/
theorem declarationFile_isBalanced_iff_ledger :
    ∃ t c f, Target.ofConfig {} = .ok t ∧ Contract.ofAbi "Ledger" ledgerAbi = .ok c ∧
      t.declarationFile c "Ledger.ts" = .ok f ∧ IsBalanced f.contents := by
  have h : (Contract.ofAbi "Ledger" ledgerAbi).map Contract.hasSourceTexts = .ok true := by
    decide +kernel
  obtain ⟨c, hc, hsource⟩ := map_eq_ok_iff.1 h
  obtain ⟨t, f, ht, hf⟩ := exists_file_of_default hc "Ledger.ts"
  have hledger := declarationFile_isBalanced_iff ht hasSafeTexts_default hc
    (hasSafeTexts_of_source hsource) hf
  exact ⟨t, c, f, ht, hc, hf, (hledger.1 rfl).2 (by decide)⟩

/-- A file may be called `Vault{.json`, and its contract is called like it: the brace opens in
every alias and is closed in none. -/
theorem declarationFile_isBalanced_fails_vault :
    contractNameOf r"Vault{.json" = .ok r"Vault{" ∧ Config.validate {} = .ok () ∧
      (∀ p ∈ presets, ∀ n ∈ p.2.input.all ++ p.2.output.all, IsBalanced n) ∧
      ∃ abi t c f, AbiDefinition.ofJson (.array []) = .ok abi ∧ Target.ofConfig {} = .ok t ∧
        Contract.ofAbi r"Vault{" abi = .ok c ∧ t.declarationFile c r"Vault{.ts" = .ok f ∧
        ¬ IsBalanced f.contents := by
  have h : (Contract.ofAbi r"Vault{" {}).map Contract.hasSourceTexts = .ok true := by
    decide +kernel
  obtain ⟨c, hc, hsource⟩ := map_eq_ok_iff.1 h
  obtain ⟨t, f, ht, hf⟩ := exists_file_of_default hc r"Vault{.ts"
  refine ⟨by decide +kernel, by decide +kernel, by decide +kernel, {}, t, c, f, rfl, ht, hc, hf,
    fun hb => ?_⟩
  have hname := isBalanced_name_of_declarationFile ht hasSafeTexts_default rfl hc
    (hasSafeTexts_of_source hsource) hf hb
  exact absurd hname (by decide)

end AbiBindings
