import AbiBindings.Generation.Artifact
import AbiBindings.Proofs.Artifact.Place
import AbiBindings.Proofs.Contract.Entries

/-!
# What a declaration file declares

A declaration file holds, on a line of its own, an exported type with the name of its contract, and
its path ends in the same name.  Two spellings of one path give the same file if they are read
alike.

    contractFile o c = .ok text → DeclaresType text c.name              (declaresType_contractFile)
    declareArtifact t root read path = .ok f →
      placeArtifact root path = .ok f.path                              (placeArtifact_of_declared)
-/

namespace AbiBindings

/-! ## Types in a file -/

/-- A line of a text opens the exported type with this name. -/
def DeclaresType (text name : String) : Prop :=
  ∃ before after, text = before ++ "\n" ++ ("export type " ++ name ++ " = ") ++ after

/-- The last paragraph of a text starts a line. -/
theorem exists_before_last (header : String) (texts : List String) (last : String) :
    ∃ before, header ++ "\n" ++ paragraphs (texts ++ [last]) = before ++ "\n" ++ last := by
  unfold paragraphs
  by_cases ht : texts = []
  · refine ⟨header, ?_⟩
    rw [ht, List.nil_append, String.intercalate_singleton]
  · refine ⟨header ++ "\n" ++ "\n\n".intercalate texts ++ "\n", ?_⟩
    rw [String.intercalate_append_of_ne_nil ht (by simp), String.intercalate_singleton]
    have : "\n\n" = "\n" ++ "\n" := rfl
    simp only [this, String.append_assoc]

theorem name_of_contractAlias {o : DeclarationOptions} {c : Contract} {a : TypeAlias}
    (h : contractAlias o c = .ok a) : a.name = c.name := by
  simp only [contractAlias, bind_eq_ok_iff] at h
  obtain ⟨_, -, h⟩ := h
  cases h
  rfl

/-- The contract's own type stands in the last section. -/
theorem declarationSections_eq_ok {o : DeclarationOptions} {c : Contract}
    {sections : List (List Statement)} (h : declarationSections o c = .ok sections) :
    ∃ before a, sections = before ++ [[.alias a]] ∧ a.name = c.name := by
  simp only [declarationSections, bind_eq_ok_iff] at h
  obtain ⟨structs, -, functions, -, events, -, errors, -, contract, hc, h⟩ := h
  cases h
  refine ⟨[structs, [.alias functions], events.map .alias, [.alias (eventsAlias o c)],
    errors.map .alias, [.alias (errorsAlias c)]].filter (!·.isEmpty), contract, ?_,
    name_of_contractAlias hc⟩
  have : [[Statement.alias contract]] = [[Statement.alias contract]].filter (!·.isEmpty) := rfl
  rw [this, ← List.filter_append]
  rfl

theorem sectionText_alias (a : TypeAlias) : sectionText [.alias a] = a.text := by
  show "\n\n".intercalate [a.text] = a.text
  rw [String.intercalate_singleton]

theorem fileSections_concat (imports : List TypeImport) (body : List String) (last : String) :
    ∃ before, fileSections imports (body ++ [last]) = before ++ [last] := by
  unfold fileSections
  split
  · exact ⟨body, rfl⟩
  · exact ⟨_ :: body, rfl⟩

theorem fillLayout_contract (sections : List String) :
    fillLayout contractLayout (some sections) = .ok (fileText sections) := by
  unfold fillLayout layouts
  rw [if_pos List.mem_cons_self]

theorem fileHeader_ends_line : ∃ before, fileHeader = before ++ "\n" := by
  refine ⟨"/* Autogenerated file. Do not edit manually. */\n/* tslint:disable */\n" ++
    "/* eslint-disable */", ?_⟩
  decide +kernel

theorem contractFile_eq_ok_iff {o : DeclarationOptions} {c : Contract} {text : String} :
    contractFile o c = .ok text ↔
      ∃ sections, declarationSections o c = .ok sections ∧
        text = fileText (fileSections o.typing.names.imports (sections.map sectionText)) := by
  simp only [contractFile, contractSections, bind_eq_ok_iff, within_eq_ok_iff, pure_eq_ok_iff,
    fillLayout_contract, Except.ok.injEq]
  constructor
  · rintro ⟨_, ⟨sections, hs, rfl⟩, rfl⟩
    exact ⟨sections, hs, rfl⟩
  · rintro ⟨sections, hs, rfl⟩
    exact ⟨_, ⟨sections, hs, rfl⟩, rfl⟩

theorem declaresType_contractFile {o : DeclarationOptions} {c : Contract} {text : String}
    (h : contractFile o c = .ok text) : DeclaresType text c.name := by
  obtain ⟨sections, hs, rfl⟩ := contractFile_eq_ok_iff.1 h
  obtain ⟨before, a, rfl, ha⟩ := declarationSections_eq_ok hs
  obtain ⟨body, hb⟩ := fileSections_concat o.typing.names.imports (before.map sectionText)
    (sectionText [.alias a])
  obtain ⟨header, hh⟩ := fileHeader_ends_line
  obtain ⟨front, hp⟩ := exists_before_last header body (sectionText [.alias a])
  rw [List.map_append, List.map_singleton, hb, fileText, hh, hp]
  refine ⟨front, a.body.text ++ ";" ++ "\n", ?_⟩
  rw [sectionText_alias, TypeAlias.text, ha]
  simp only [String.append_assoc]

/-! ## Artifacts -/

variable {t : Target} {root : List PathPart} {read : Contents} {path : String} {f : GeneratedFile}

theorem declareArtifact_eq_ok_iff :
    declareArtifact t root read path = .ok f ↔
      ∃ content name abi c d text, read path = .ok content ∧ contractNameOf path = .ok name ∧
        artifactAbi name content = .ok abi ∧ Contract.ofAbi name abi = .ok c ∧
        outputDirectoryOf root path = .ok d ∧ contractFile t.declarations c = .ok text ∧
        f = ⟨declarationPath d name, text⟩ := by
  simp only [declareArtifact, Target.declarationFile, readArtifact, bind_eq_ok_iff, map_eq_ok_iff,
    mapError_eq_ok_iff]
  constructor
  · rintro ⟨content, hr, name, hn, abi, ha, c, hc, d, hd, text, ht, rfl⟩
    exact ⟨content, name, abi, c, d, text, hr, hn, ha, hc, hd, ht, rfl⟩
  · rintro ⟨content, name, abi, c, d, text, hr, hn, ha, hc, hd, ht, rfl⟩
    exact ⟨content, hr, name, hn, abi, ha, c, hc, d, hd, text, ht, rfl⟩

theorem placeArtifact_of_declared (h : declareArtifact t root read path = .ok f) :
    placeArtifact root path = .ok f.path := by
  obtain ⟨_, name, _, _, d, _, -, hn, -, -, hd, -, rfl⟩ := declareArtifact_eq_ok_iff.1 h
  exact placeArtifact_eq_ok_iff.2 ⟨name, d, hn, hd, rfl⟩

theorem path_of_declared (h : declareArtifact t root read path = .ok f) {text : String}
    (ht : placeArtifact root path = .ok text) : f.path = text :=
  Except.ok.inj ((placeArtifact_of_declared h).symm.trans ht)

theorem exists_place_of_declared (h : declareArtifact t root read path = .ok f) :
    ∃ p : Place, f.path = p.path ∧ DeclaresType f.contents p.name := by
  obtain ⟨p, hp, hpn⟩ := exists_place (placeArtifact_of_declared h)
  obtain ⟨_, name, _, c, d, _, -, hn, -, hc, -, ht, rfl⟩ := declareArtifact_eq_ok_iff.1 h
  refine ⟨p, hp, ?_⟩
  have hname : c.name = p.name := by
    rw [name_ofAbi hc]
    exact Except.ok.inj (hn.symm.trans hpn)
  rw [← hname]
  exact declaresType_contractFile ht

/-! ### Spellings of a path -/

theorem contractNameOf_eq_of_parts {path path' name : String}
    (hp : pathParts path = pathParts path') (h : contractNameOf path = .ok name) :
    contractNameOf path' = .ok name := by
  unfold contractNameOf artifactStem? at h ⊢
  rw [← hp]
  split at h
  · exact h
  · cases h

theorem outputDirectoryOf_eq_of_parts {path path' : String} {d : DirectoryPath}
    (hp : pathParts path = pathParts path') (h : outputDirectoryOf root path = .ok d) :
    outputDirectoryOf root path' = .ok d := by
  unfold outputDirectoryOf directoryBelow? at h ⊢
  rw [← hp]
  split at h
  · exact h
  · cases h

/-- Spellings of one path are declared at one place, whatever they are read as. -/
theorem path_eq_of_parts {path' : String} {read' : Contents} {g : GeneratedFile}
    (hp : pathParts path = pathParts path') (hf : declareArtifact t root read path = .ok f)
    (hg : declareArtifact t root read' path' = .ok g) : f.path = g.path := by
  obtain ⟨name, d, hn, hd, ht⟩ := placeArtifact_eq_ok_iff.1 (placeArtifact_of_declared hf)
  have hplace : placeArtifact root path' = .ok f.path := placeArtifact_eq_ok_iff.2
    ⟨name, d, contractNameOf_eq_of_parts hp hn, outputDirectoryOf_eq_of_parts hp hd, ht⟩
  exact (path_of_declared hg hplace).symm

/-- Only the reading of an artifact depends on how its path is written. -/
theorem declareArtifact_eq_of_parts {path' : String} (hp : pathParts path = pathParts path')
    (hr : read path = read path') (h : declareArtifact t root read path = .ok f) :
    declareArtifact t root read path' = .ok f := by
  obtain ⟨content, name, abi, c, d, text, hc, hn, ha, ho, hd, ht, rfl⟩ :=
    declareArtifact_eq_ok_iff.1 h
  exact declareArtifact_eq_ok_iff.2 ⟨content, name, abi, c, d, text, hr ▸ hc,
    contractNameOf_eq_of_parts hp hn, ha, ho, outputDirectoryOf_eq_of_parts hp hd, ht, rfl⟩

end AbiBindings
