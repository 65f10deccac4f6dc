import AbiBindings.Proofs.Declaration.Coverage
import AbiBindings.Proofs.Typing.LeafName

/-!
# Imports and their use

The imports of a declaration file are looked up among the words of its body.  Every type that a
contract carries is written in the body, and the name of each of its leaves with it, so no import
that is needed is missing, and no other one is there.

    a file is its header, the lines of the used imports, its body   (contractFile_eq_imports)
    c.Carries d u → o.typing.Writes d u body                        (writes_declarationSections)
    the words of a leaf's name are words of the body, and imported  (imports_what_is_used)
-/

namespace AbiBindings

/-! ## Import lines -/

/-- The import of the names that are words of a text. -/
def TypeImport.usedIn (body : String) (i : TypeImport) : TypeImport :=
  { i with names := i.names.filter fun n => IsWordIn n body }

/-- The line of an import. -/
def TypeImport.line (i : TypeImport) : String :=
  "import type " ++ braced i.names ++ " from " ++ doubleQuoted i.module ++ ";"

/-- The imports that a text uses, in the order of the table. -/
def usedImports (imports : List TypeImport) (body : String) : List TypeImport :=
  (imports.map (·.usedIn body)).filter (!·.names.isEmpty)

/-- The section of imports; there is none without imports. -/
def importsText (imports : List TypeImport) : String :=
  if imports.isEmpty then "" else "\n".intercalate (imports.map TypeImport.line) ++ "\n\n"

section
variable {imports : List TypeImport} {i : TypeImport} {body w : String}

/-- What a text uses is imported if a table has it. -/
theorem exists_usedImport (hi : i ∈ imports) (hw : w ∈ i.names) (hbody : IsWordIn w body) :
    ∃ j ∈ usedImports imports body, j.module = i.module ∧ w ∈ j.names := by
  have hmem : w ∈ (i.usedIn body).names := List.mem_filter.2 ⟨hw, decide_eq_true hbody⟩
  refine ⟨i.usedIn body, List.mem_filter.2 ⟨List.mem_map_of_mem hi, ?_⟩, rfl, hmem⟩
  simpa using List.ne_nil_of_mem hmem

/-- Words do not run through an empty line. -/
theorem wordsOf_paragraphs (texts : List String) :
    wordsOf (paragraphs texts) = texts.flatMap wordsOf := by
  have hjoin (s t : String) : wordsOf (s ++ "\n\n" ++ t) = wordsOf s ++ wordsOf t := by
    have hlist : (s ++ "\n\n" ++ t).toList = s.toList ++ '\n' :: ([] ++ '\n' :: t.toList) := by
      simp
    have hwords (s : String) : wordsOf s = (wordsIn s.toList).map String.ofList := rfl
    rw [hwords, hlist, wordsIn_append (by decide), wordsIn_append (by decide), List.map_append]
    rfl
  unfold paragraphs
  induction texts with
  | nil => rfl
  | cons s rest ih =>
    cases rest with
    | nil => rw [String.intercalate_singleton, List.flatMap_singleton]
    | cons t rest =>
      rw [String.intercalate_cons_cons, hjoin, ih]
      rfl

/-- The lines are those of the imports that the sections use together. -/
theorem importLines_eq (imports : List TypeImport) (texts : List String) :
    importLines imports texts = (usedImports imports (paragraphs texts)).map TypeImport.line := by
  have hused (i : TypeImport) : i.names.filter (texts.flatMap wordsOf).contains =
      (i.usedIn (paragraphs texts)).names := by
    refine List.filter_congr fun n _ => ?_
    rw [List.contains_eq_mem, ← wordsOf_paragraphs]
    exact decide_eq_decide.2 mem_wordsOf_iff
  unfold importLines usedImports
  induction imports with
  | nil => rfl
  | cons i rest ih =>
    rw [List.filterMap_cons, TypeImport.line?, hused, ih, List.map_cons, List.filter_cons]
    by_cases hi : (i.usedIn (paragraphs texts)).names.isEmpty
    · rw [hi]
      rfl
    · rw [Bool.eq_false_iff.2 hi]
      rfl

theorem importsText_cons (i : TypeImport) (rest : List TypeImport) :
    importsText (i :: rest) = "\n".intercalate ((i :: rest).map TypeImport.line) ++ "\n\n" := rfl

/-- Imports come in front of the body. -/
theorem paragraphs_fileSections (imports : List TypeImport) {texts : List String}
    (h : texts ≠ []) :
    paragraphs (fileSections imports texts) =
      importsText (usedImports imports (paragraphs texts)) ++ paragraphs texts := by
  unfold fileSections
  rw [importLines_eq]
  cases usedImports imports (paragraphs texts) with
  | nil => exact (String.empty_append).symm
  | cons i rest =>
    obtain ⟨t, texts, rfl⟩ := List.exists_cons_of_ne_nil h
    rw [importsText_cons, List.map_cons]
    exact String.intercalate_cons_cons

end

/-! ## Statements -/

section
variable {y : Typing}

/-! ### Structs -/

theorem writes_structAlias {d : Direction} {s : StructType} {a : TypeAlias}
    (h : structAlias y d s = .ok a) : ∀ i ∈ s.components, y.Writes d i.type a.text := by
  intro i hi
  obtain ⟨text, htext, h⟩ := bind_eq_ok_iff.1 h
  cases h
  exact (Typing.writes_tupleText htext hi).trans (keepsWords_alias _ (.type text))

theorem writes_aliasesOfStructs {structs : List StructType} {aliases : List TypeAlias}
    (h : aliasesOfStructs y structs = .ok aliases) (d : Direction) {s : StructType}
    (hs : s ∈ structs) : ∃ a ∈ aliases, ∀ i ∈ s.components, y.Writes d i.type a.text := by
  obtain ⟨a, ha, hsa⟩ := structAlias_mem h hs
  exact ⟨a, ha, writes_structAlias hsa⟩

/-- A struct stands at the top level or in a namespace. -/
theorem writes_structStatements {structs : List StructType} {statements : List Statement}
    (h : structStatements y structs = .ok statements) (d : Direction) {s : StructType}
    (hs : s ∈ firstOfEachName [] structs) :
    ∃ t ∈ statements, ∀ i ∈ s.components, y.Writes d i.type t.text := by
  simp only [structStatements, bind_eq_ok_iff] at h
  obtain ⟨topLevel, htop, namespaces, hnamespaces, h⟩ := h
  cases h
  rcases mem_ofStructs_iff.2 hs with hs | ⟨g, hg, hs⟩
  · obtain ⟨a, ha, hwrites⟩ := writes_aliasesOfStructs htop d hs
    exact ⟨.alias a, List.mem_append_left _ (List.mem_map_of_mem ha), hwrites⟩
  · obtain ⟨t, ht, hgt⟩ := mem_of_mapM_eq_ok hnamespaces hg
    obtain ⟨aliases, haliases, rfl⟩ := map_eq_ok_iff.1 hgt
    obtain ⟨a, ha, hwrites⟩ := writes_aliasesOfStructs haliases d hs
    exact ⟨_, List.mem_append_right _ ht,
      fun i hi => (hwrites i hi).trans (keepsWords_module ha)⟩

/-! ### Entries -/

theorem writes_functionEntry {f : ContractFunction} {m : String × AliasBody}
    (h : functionEntry y f = .ok m) :
    (∀ i ∈ f.inputs, y.Writes .input i.type m.2.text) ∧
      ∀ i ∈ f.outputs, y.Writes .output i.type m.2.text := by
  simp only [functionEntry, within_eq_ok_iff, bind_eq_ok_iff] at h
  obtain ⟨inputs, hin, outputs, hout, h⟩ := h
  cases h
  constructor
  · intro i hi
    exact (Typing.writes_argumentsText hin i hi).trans
      (keepsWords_member "inputs" (.type inputs) (by simp))
  · intro i hi
    exact (Typing.writes_resultText hout i hi).trans
      (keepsWords_member "outputs" (.type outputs) (by simp))

theorem writes_functionsAlias {o : DeclarationOptions} {c : Contract} {a : TypeAlias}
    (h : functionsAlias o c = .ok a) {f : ContractFunction} (hf : f ∈ c.functions) :
    (∀ i ∈ f.inputs, o.typing.Writes .input i.type a.text) ∧
      ∀ i ∈ f.outputs, o.typing.Writes .output i.type a.text := by
  obtain ⟨entries, hentries, h⟩ := bind_eq_ok_iff.1 h
  cases h
  obtain ⟨m, hm, hfm⟩ := mem_of_mapM_eq_ok hentries hf
  obtain ⟨hin, hout⟩ := writes_functionEntry hfm
  have hentry {references : List (String × AliasBody)} :
      KeepsWords m.2.text (TypeAlias.text ⟨functionsName c, .block (entries ++ references)⟩) :=
    keepsWords_aliasMember m.1 m.2 (List.mem_append_left _ hm)
  exact ⟨fun i hi => (hin i hi).trans hentry, fun i hi => (hout i hi).trans hentry⟩

theorem writes_filterText {inputs : List EventInput} {text : String}
    (h : filterText y inputs = .ok text) :
    ∀ i ∈ inputs, i.indexed = true → y.Writes .input i.type text := by
  obtain ⟨items, hitems, h⟩ := bind_eq_ok_iff.1 h
  cases h
  refine Typing.forall_mem_zipIdx_iff.1 fun x hx hindexed => ?_
  obtain ⟨item, hitem, hx⟩ := mem_of_mapM_eq_ok hitems (List.mem_filter.2 ⟨hx, hindexed⟩)
  obtain ⟨t, ht, hx⟩ := bind_eq_ok_iff.1 hx
  cases hx
  exact (((Typing.writes_typeText ht).trans (keepsWords_before (by decide) t)).trans
    (keepsWords_memberText _ _)).trans (keepsWords_bracketed hitem)

theorem writes_eventAlias {e : ContractEvent} {a : TypeAlias} (h : eventAlias y e = .ok a) :
    (∀ i ∈ e.inputs, i.indexed = true → y.Writes .input i.type a.text) ∧
      ∀ i ∈ e.inputs, y.Writes .output i.type a.text := by
  simp only [eventAlias, within_eq_ok_iff, bind_eq_ok_iff] at h
  obtain ⟨filter, hfilter, args, hargs, h⟩ := h
  cases h
  constructor
  · intro i hi hindexed
    exact (writes_filterText hfilter i hi hindexed).trans
      (keepsWords_aliasMember "filter" (.type filter) (by simp))
  · intro i hi
    exact (Typing.writes_tupleText hargs (List.mem_map_of_mem hi)).trans
      (keepsWords_aliasMember "args" (.type args) (by simp))

theorem writes_errorAlias {e : ContractError} {a : TypeAlias} (h : errorAlias y e = .ok a) :
    ∀ i ∈ e.inputs, y.Writes .output i.type a.text := by
  simp only [errorAlias, within_eq_ok_iff, bind_eq_ok_iff] at h
  obtain ⟨args, hargs, h⟩ := h
  cases h
  intro i hi
  exact (Typing.writes_tupleText hargs hi).trans
    (keepsWords_aliasMember "args" (.type args) (by simp))

theorem writes_contractAlias {o : DeclarationOptions} {c : Contract} {a : TypeAlias}
    (h : contractAlias o c = .ok a) {k : ContractConstructor} (hk : c.constructor? = some k) :
    ∀ i ∈ k.inputs, o.typing.Writes .input i.type a.text := by
  obtain ⟨⟨mutability, inputs⟩, hdeployment, h⟩ := bind_eq_ok_iff.1 h
  cases h
  rw [deployment, hk] at hdeployment
  obtain ⟨text, htext, he⟩ := map_eq_ok_iff.1 hdeployment
  cases he
  intro i hi
  refine (Typing.writes_argumentsText (within_eq_ok_iff.1 htext) i hi).trans ?_
  have hdeploy : KeepsWords inputs (AliasBody.block
      [literalMember "stateMutability" k.stateMutability, ("inputs", .type inputs)]).text :=
    keepsWords_member "inputs" (.type inputs) (by simp)
  exact hdeploy.trans (keepsWords_aliasMember "deploy" _ (by simp))

end

/-! ## Bodies -/

/-- Only sections without statements are left out. -/
theorem keepsWords_sections {lists : List (List Statement)} {statements : List Statement}
    (h : statements ∈ lists) {s : Statement} (hs : s ∈ statements) :
    KeepsWords s.text (paragraphs ((lists.filter (!·.isEmpty)).map sectionText)) := by
  have hkept : statements ∈ lists.filter (!·.isEmpty) := by
    refine List.mem_filter.2 ⟨h, ?_⟩
    simpa using List.ne_nil_of_mem hs
  exact (keepsWords_sectionText hs).trans
    (keepsWords_intercalate (by decide) (List.mem_map_of_mem hkept))

section
variable {o : DeclarationOptions} {c : Contract}

/-- Every type of the contract stands in the body. -/
theorem writes_declarationSections (hstructs : firstOfEachName [] c.structs = c.structs)
    {sections : List (List Statement)} (h : declarationSections o c = .ok sections)
    {d : Direction} {u : EvmType} (hu : c.Carries d u) :
    o.typing.Writes d u (paragraphs (sections.map sectionText)) := by
  simp only [declarationSections, bind_eq_ok_iff] at h
  obtain ⟨structs, hst, functions, hfun, events, hev, errors, herr, contract, hcon, h⟩ := h
  cases h
  -- Each type is written in one statement, and the section of a statement is not left out.
  have hwrites {lists : List (List Statement)} (statements : List Statement) {s : Statement}
      (hmem : statements ∈ lists) (hs : s ∈ statements) (h : o.typing.Writes d u s.text) :
      o.typing.Writes d u (paragraphs ((lists.filter (!·.isEmpty)).map sectionText)) :=
    h.trans (keepsWords_sections hmem hs)
  cases hu with
  | constructorInput hk hi =>
    exact hwrites [.alias contract] (by simp) List.mem_cons_self
      (writes_contractAlias hcon hk _ hi)
  | functionInput hf hi =>
    exact hwrites [.alias functions] (by simp) List.mem_cons_self
      ((writes_functionsAlias hfun hf).1 _ hi)
  | functionOutput hf ho =>
    exact hwrites [.alias functions] (by simp) List.mem_cons_self
      ((writes_functionsAlias hfun hf).2 _ ho)
  | indexedInput he hi hindexed =>
    obtain ⟨a, ha, hea⟩ := mem_of_mapM_eq_ok hev he
    exact hwrites (events.map .alias) (by simp) (List.mem_map_of_mem ha)
      ((writes_eventAlias hea).1 _ hi hindexed)
  | eventInput he hi =>
    obtain ⟨a, ha, hea⟩ := mem_of_mapM_eq_ok hev he
    exact hwrites (events.map .alias) (by simp) (List.mem_map_of_mem ha)
      ((writes_eventAlias hea).2 _ hi)
  | errorInput he hi =>
    obtain ⟨a, ha, hea⟩ := mem_of_mapM_eq_ok herr he
    exact hwrites (errors.map .alias) (by simp) (List.mem_map_of_mem ha)
      (writes_errorAlias hea _ hi)
  | structComponent d hs hi =>
    rw [← hstructs] at hs
    obtain ⟨t, ht, hwritten⟩ := writes_structStatements hst d hs
    exact hwrites structs List.mem_cons_self ht (hwritten _ hi)

/-! ## Files -/

theorem contractFile_eq_imports {text : String} (h : contractFile o c = .ok text) :
    ∃ sections body, declarationSections o c = .ok sections ∧
      body = paragraphs (sections.map sectionText) ∧
      text = fileHeader ++ importsText (usedImports o.typing.names.imports body) ++ body ++
        "\n" := by
  obtain ⟨sections, hs, rfl⟩ := contractFile_eq_ok_iff.1 h
  obtain ⟨before, a, rfl, -⟩ := declarationSections_eq_ok hs
  refine ⟨_, _, hs, rfl, ?_⟩
  rw [fileText, paragraphs_fileSections _ (by simp), ← String.append_assoc]

/-- A file imports what its body uses.  In front of the body there is a line for each import of the
table with a name that is a word of the body, in the order of the table, and it lists all names of
the import that are.  Each leaf that is written, in a position of the contract and outside of the
structs that are referred to, has a name; the words of the name are words of the body, so a word of
it is imported if the table has it. -/
theorem imports_what_is_used {name : String} {abi : AbiDefinition} {text : String}
    (habi : Contract.ofAbi name abi = .ok c) (h : contractFile o c = .ok text) :
    ∃ sections body, declarationSections o c = .ok sections ∧
      body = paragraphs (sections.map sectionText) ∧
      text = fileHeader ++ importsText (usedImports o.typing.names.imports body) ++ body ++ "\n" ∧
      ∀ d u k spelling, c.Carries d u → u.ShowsLeaf k spelling →
        ∃ n, (o.typing.leafNames d).nameOf spelling k = .ok n ∧
          ∀ w, IsWordIn w n → IsWordIn w body ∧
            ∀ i ∈ o.typing.names.imports, w ∈ i.names →
              ∃ j ∈ usedImports o.typing.names.imports body,
                j.module = i.module ∧ w ∈ j.names := by
  obtain ⟨sections, body, hs, rfl, htext⟩ := contractFile_eq_imports h
  refine ⟨sections, _, hs, rfl, htext, fun d u k spelling hu hleaf => ?_⟩
  obtain ⟨n, hn, hkeeps⟩ := Typing.exists_name_of_writes hleaf
    (fun v hv => hasValidSize_of_carries habi hu hv)
    (writes_declarationSections (firstOfEachName_structs habi) hs hu)
  refine ⟨n, hn, fun w hw => ⟨hkeeps w hw, fun i hi hwi => ?_⟩⟩
  exact exists_usedImport hi hwi (hkeeps w hw)

end

/-- The amounts of a ledger come back as big numbers, and these are imported. -/
theorem imports_what_is_used_ledger :
    ∃ c text body, Contract.ofAbi "Ledger" ledgerAbi = .ok c ∧
      contractFile (targetWith ethersV5).declarations c = .ok text ∧
      text = fileHeader ++ importsText (usedImports ethersV5.imports body) ++ body ++ "\n" ∧
      IsWordIn "BigNumber" body ∧
      ∃ j ∈ usedImports ethersV5.imports body, j.module = "ethers" ∧ "BigNumber" ∈ j.names := by
  obtain ⟨c, hc, hcarries⟩ := exists_carries_ledger
  obtain ⟨text, htext⟩ := (needs_contractFile (o := (targetWith ethersV5).declarations)
    (firstOfEachName_structs hc)).exists_iff.2 fun _ _ hu =>
      covers_of_reaches hc (presets_reach (n := "ethers-v5") (by decide) rfl) hu
  obtain ⟨_, body, -, -, hparts, hleaves⟩ := imports_what_is_used hc htext
  obtain ⟨n, hn, hwords⟩ := hleaves .output _ _ _ hcarries .here
  cases hn
  obtain ⟨hbody, himported⟩ := hwords "BigNumber" (by decide)
  exact ⟨c, text, body, hc, htext, hparts, hbody,
    himported ⟨"ethers", ["BigNumber", "BigNumberish", "BytesLike"]⟩ (by decide) (by decide)⟩

end AbiBindings
