import AbiBindings.Proofs.Generation.Recording

/-!
# The module tree of a full rebuild

Every entry of an index file leads to a file of the same run.  Every declaration is re-exported, and
nothing else is, unless an artifact is left out: one that is declared while another spelling of its
path fails, so that the failure stands for both.

    every entry of an index file leads to a written file                (LeadsToWritten)
    all declarations are re-exported ↔ none is left out                 (ReExportsAll, NoneLeftOut)
    the file entries are the declarations ↔ none is left out            (ListsDeclared, NoneLeftOut)
    spellings of one path read alike → none is left out                 (noneLeftOut_of_readAlike)
-/

namespace AbiBindings

/-! ## Consistency -/

/-- A run wrote a file, and it is there afterwards. -/
def Wrote (c : Config) (run : RunReport × Output) (f : GeneratedFile) : Prop :=
  f.path ∈ run.1.written ∧ run.2 (pathBelow c.outputDirectory f.path) = some f.contents

/-- Every entry of an index file leads to a file that was written. -/
def LeadsToWritten (indexes : List IndexFile) (written : List String) : Prop :=
  ∀ i ∈ indexes, ∀ e ∈ i.entries, e.target i.directory ∈ written

section
variable (c : Config) (t : Target) (r : Request) (read : Contents)

/-- Every declaration file is re-exported under its own name by the index file of its directory,
declares a type of this name, and lies in a directory that is reached from the root. -/
def ReExportsAll (indexes : List IndexFile) : Prop :=
  ∀ path f, Declares c t r read path f → ∃ d name, f.path = declarationPath d name ∧
    DeclaresType f.contents name ∧ (∃ i ∈ indexes, i.directory = d ∧ .file name ∈ i.entries) ∧
    Reached indexes d

/-- The files that index files re-export are those of the artifacts that did not fail. -/
def ListsDeclared (indexes : List IndexFile) : Prop :=
  ∀ text, (∃ i ∈ indexes, ∃ name, .file name ∈ i.entries ∧
    declarationPath i.directory name = text) ↔ ∃ path f, Declares c t r read path f ∧ f.path = text

/-- At the path of every declaration there is one of an artifact that no spelling fails of. -/
def NoneLeftOut : Prop :=
  ∀ path f, Declares c t r read path f →
    ∃ path' f', Declares c t r read path' f' ∧ f'.path = f.path ∧ ¬ FailsAlike c t r read path'

end

/-! ## Places -/

variable {c : Config} {t : Target} {r : Request} {read : Contents} {out : Output}

/-- What is placed in a full rebuild is declared. -/
theorem placed_iff_declares (hr : r.fullRebuild = true) {text : String} :
    (∃ path ∈ r.everyArtifact c, ¬ FailsAlike c t r read path ∧
        placeArtifact (r.root c) path = .ok text) ↔
      ∃ path f, Declares c t r read path f ∧ f.path = text ∧ ¬ FailsAlike c t r read path := by
  constructor
  · rintro ⟨path, hp, hn, ht⟩
    have ha : path ∈ r.attempted c t := by rwa [attempted_fullRebuild hr]
    rcases declares_or_failsAt read ha with ⟨f, hd⟩ | hf
    · exact ⟨path, f, hd, path_of_declared hd.2 ht, hn⟩
    · exact absurd ⟨path, hf, rfl⟩ hn
  · rintro ⟨path, f, hd, rfl, hn⟩
    refine ⟨path, ?_, hn, placeArtifact_of_declared hd.2⟩
    rw [← attempted_fullRebuild (t := t) hr]
    exact hd.1

/-! ## Re-exports -/

section
variable {places : List Place}
  (hp : ∀ p : Place, p ∈ places ↔
    ∃ path f, Declares c t r read path f ∧ f.path = p.path ∧ ¬ FailsAlike c t r read path)
include hp

theorem mem_places_of_noneLeftOut (h : NoneLeftOut c t r read) {path : String} {f : GeneratedFile}
    (hd : Declares c t r read path f) :
    ∃ p ∈ places, f.path = p.path ∧ DeclaresType f.contents p.name := by
  obtain ⟨p, hpath, htype⟩ := exists_place_of_declared hd.2
  obtain ⟨path', f', hd', he, hn⟩ := h path f hd
  exact ⟨p, (hp p).2 ⟨path', f', hd', he.trans hpath, hn⟩, hpath, htype⟩

theorem exists_declares_of_entry {i : IndexFile} (hi : i ∈ indexesOf places) {name : String}
    (he : .file name ∈ i.entries) :
    ∃ path f, Declares c t r read path f ∧ f.path = declarationPath i.directory name ∧
      ¬ FailsAlike c t r read path := by
  rw [(mem_indexesOf.1 hi).2] at he
  obtain ⟨p, hmem, hd, rfl⟩ := file_mem_entriesOf.1 he
  rw [← hd]
  exact (hp p).1 hmem

theorem reExportsAll_iff : ReExportsAll c t r read (indexesOf places) ↔ NoneLeftOut c t r read := by
  constructor
  · intro h path f hd
    obtain ⟨d, name, hpath, -, ⟨i, hi, rfl, he⟩, -⟩ := h path f hd
    obtain ⟨path', f', hd', hpath', hn⟩ := exists_declares_of_entry hp hi he
    exact ⟨path', f', hd', hpath'.trans hpath.symm, hn⟩
  · intro h path f hd
    obtain ⟨p, hmem, hpath, htype⟩ := mem_places_of_noneLeftOut hp h hd
    refine ⟨p.directory, p.name, hpath, htype, exists_entry_of_mem hmem, ?_⟩
    exact reached_of_mem_directoriesOf (mem_directoriesOf.2 ⟨p, hmem, List.prefix_rfl⟩)

theorem listsDeclared_iff :
    ListsDeclared c t r read (indexesOf places) ↔ NoneLeftOut c t r read := by
  constructor
  · intro h path f hd
    obtain ⟨i, hi, name, he, hpath⟩ := (h f.path).2 ⟨path, f, hd, rfl⟩
    obtain ⟨path', f', hd', hpath', hn⟩ := exists_declares_of_entry hp hi he
    exact ⟨path', f', hd', hpath'.trans hpath, hn⟩
  · intro h text
    constructor
    · rintro ⟨i, hi, name, he, rfl⟩
      obtain ⟨path, f, hd, hpath, -⟩ := exists_declares_of_entry hp hi he
      exact ⟨path, f, hd, hpath⟩
    · rintro ⟨path, f, hd, rfl⟩
      obtain ⟨p, hmem, hpath, -⟩ := mem_places_of_noneLeftOut hp h hd
      obtain ⟨i, hi, hdir, he⟩ := exists_entry_of_mem hmem
      refine ⟨i, hi, p.name, he, ?_⟩
      rw [hpath, hdir]
      rfl

end

/-! ## Runs -/

/-- What a run wrote are the files of its draft. -/
theorem wrote_iff {files : List GeneratedFile} (hn : r.isNeeded c = true)
    (h : (Draft.make c t r read).files = .ok files) (f : GeneratedFile) :
    Wrote c (record (generate c t r) read out) f ↔ f ∈ files := by
  obtain ⟨-, hw, hs⟩ := record_generate_ok out hn h
  have ho := Draft.oneFilePerPath_files h
  rw [Wrote, hw, hs]
  constructor
  · rintro ⟨hpath, hc⟩
    obtain ⟨g, hg, he⟩ := List.mem_map.1 hpath
    rw [← he, store_of_mem ho hg] at hc
    rwa [← file_eq_of_eq he (Option.some.inj hc)]
  · intro hf
    exact ⟨List.mem_map.2 ⟨f, hf, rfl⟩, store_of_mem ho hf⟩

/-- If spellings of one path are read alike, no artifact is left out. -/
theorem noneLeftOut_of_readAlike
    (h : ∀ p ∈ r.attempted c t, ∀ q ∈ r.attempted c t,
      pathParts p = pathParts q → read p = read q) : NoneLeftOut c t r read := by
  intro path f hd
  refine ⟨path, f, hd, rfl, ?_⟩
  rintro ⟨q, ⟨hq, e, he⟩, hpq⟩
  rw [declareArtifact_eq_of_parts hpq.symm (h path hd.1 q hq hpq.symm) hd.2] at he
  cases he

/-- A full rebuild that ends well wrote the index files and the declaration files.  Every entry of an
index file leads to a file that was written.  Each declaration is re-exported under the name that it
declares, within reach of the root, and nothing else is, exactly if no declaration is left out: if at
its path there is one of an artifact that no spelling of the artifact's path fails of. -/
theorem fullRebuild_consistent_iff {o : Outcome} (ht : Target.ofConfig c = .ok t)
    (hr : r.fullRebuild = true)
    (h : (record (generate c t r) read out).1.result = .ok o) :
    ∃ indexes : List IndexFile,
      (∀ f, Wrote c (record (generate c t r) read out) f ↔
        (∃ i ∈ indexes, i.file t.index = f) ∨ ∃ path, Declares c t r read path f) ∧
      LeadsToWritten indexes (record (generate c t r) read out).1.written ∧
      (ReExportsAll c t r read indexes ↔ NoneLeftOut c t r read) ∧
      (ListsDeclared c t r read indexes ↔ NoneLeftOut c t r read) := by
  have hn : r.isNeeded c = true := isNeeded_fullRebuild hr
  obtain ⟨files, hf⟩ := exists_files_of_result hn h
  obtain ⟨places, hi, hp⟩ := Draft.exists_places_make ht r read
  simp only [placed_iff_declares hr] at hp
  have hw : ∀ f, Wrote c (record (generate c t r) read out) f ↔
      (∃ i ∈ indexesOf places, i.file t.index = f) ∨ ∃ path, Declares c t r read path f := by
    intro f
    rw [wrote_iff hn hf, Draft.mem_files hf hi, Draft.mem_declared_make, List.mem_map, or_comm]
  refine ⟨indexesOf places, hw, ?_, reExportsAll_iff hp, listsDeclared_iff hp⟩
  intro i hmem e he
  rcases target_cases hmem he with ⟨p, hpl, hpath⟩ | ⟨j, hj, hpath⟩
  · obtain ⟨path, f, hd, hfp, -⟩ := (hp p).1 hpl
    rw [hpath, ← hfp]
    exact ((hw f).2 (Or.inr ⟨path, hd⟩)).1
  · rw [hpath]
    exact ((hw (j.file t.index)).2 (Or.inl ⟨j, hj, rfl⟩)).1

/-- Settings for version 6 of ethers, with an artifact from outside of the project. -/
def nested : Config where
  outputDirectory := "out"
  targetIdentifier := "ethers-v6"
  fileSuffix := ".js"
  typeOnlyBarrels := false
  externalArtifactPaths := ["lib/feeds/Oracle.json"]

def nestedTarget : Target where
  name := "ethers-v6"
  declarations := {
    typing := ⟨ethersV6, "Struct", "StructOutput"⟩
    alwaysBySignature := false
    tellsContractName := false }
  index := { typeOnly := false, moduleSuffix := ".js" }
  isIncremental := true

/-- Artifacts in two directories, of which one is named twice. -/
def nestedRequest : Request where
  allArtifacts := ["contracts/tokens/Token.json", "contracts/Vault.json",
    "contracts/tokens/Token.json", "contracts/Broken.json"]
  changedArtifacts := []
  fullRebuild := true

/-- One artifact holds no ABI, and one has a member. -/
def nestedContents : Contents := fun path =>
  if path = "contracts/Broken.json" then .ok "["
  else if path = "contracts/tokens/Token.json" then
    .ok r#"[{"type": "receive", "stateMutability": "payable"}]"#
  else .ok "[]"

/-- The artifact that fails leaves the module tree of the other ones consistent. -/
theorem fullRebuild_consistent_nested :
    (record (generate nested nestedTarget nestedRequest) nestedContents Output.empty).1.result =
        .ok ⟨8, [⟨"contracts/Broken.json",
          (Diagnostic.malformedAbi "invalid JSON").within "Broken"⟩]⟩ ∧
      ∃ indexes : List IndexFile,
        (∀ f, Wrote nested
            (record (generate nested nestedTarget nestedRequest) nestedContents Output.empty) f ↔
          (∃ i ∈ indexes, i.file nestedTarget.index = f) ∨
            ∃ path, Declares nested nestedTarget nestedRequest nestedContents path f) ∧
        LeadsToWritten indexes ["contracts/Vault.ts", "contracts/index.ts",
          "contracts/tokens/Token.ts", "contracts/tokens/index.ts", "index.ts",
          "lib/feeds/Oracle.ts", "lib/feeds/index.ts", "lib/index.ts"] ∧
        ReExportsAll nested nestedTarget nestedRequest nestedContents indexes ∧
        ListsDeclared nested nestedTarget nestedRequest nestedContents indexes := by
  have h : (record (generate nested nestedTarget nestedRequest) nestedContents
        Output.empty).1.result = .ok ⟨8, [⟨"contracts/Broken.json",
          (Diagnostic.malformedAbi "invalid JSON").within "Broken"⟩]⟩ ∧
      (record (generate nested nestedTarget nestedRequest) nestedContents
        Output.empty).1.written = ["contracts/Vault.ts", "contracts/index.ts",
          "contracts/tokens/Token.ts", "contracts/tokens/index.ts", "index.ts",
          "lib/feeds/Oracle.ts", "lib/feeds/index.ts", "lib/index.ts"] ∧
      ∀ p ∈ nestedRequest.attempted nested nestedTarget,
        ∀ q ∈ nestedRequest.attempted nested nestedTarget,
          pathParts p = pathParts q → nestedContents p = nestedContents q := by
    decide +kernel
  obtain ⟨hresult, hwritten, hread⟩ := h
  have ht : Target.ofConfig nested = .ok nestedTarget := rfl
  obtain ⟨indexes, hw, ha, hb, hc⟩ := fullRebuild_consistent_iff ht rfl hresult
  have hn : NoneLeftOut nested nestedTarget nestedRequest nestedContents :=
    noneLeftOut_of_readAlike hread
  rw [hwritten] at ha
  exact ⟨hresult, indexes, hw, ha, hb.2 hn, hc.2 hn⟩

/-- The contents of one file under the path `T.json`, which is no directory. -/
def onlyT : Contents := fun path =>
  if path = "T.json" then .ok "[]"
  else if path = "T.json/" then .error .notDirectory
  else .error .notFound

/-- A run declares `T`, but writes no index file: the second spelling of its path fails. -/
theorem fullRebuild_leaves_out_of_spelling :
    (record (generate {} .standard ⟨["T.json", "T.json/"], [], true⟩) onlyT
        Output.empty).1.result =
      .ok ⟨1, [⟨"T.json/", .io "Failed to read T.json/: Not a directory (os error 20)"⟩]⟩ ∧
    (record (generate {} .standard ⟨["T.json", "T.json/"], [], true⟩) onlyT
        Output.empty).1.written = ["T.ts"] := by
  decide +kernel

end AbiBindings
