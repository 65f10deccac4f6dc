import AbiBindings.Proofs.Artifact.CommonRoot
import AbiBindings.Proofs.Generation.FullRebuild
import AbiBindings.Proofs.ModuleTree.Build
import AbiBindings.Proofs.Ordered

/-!
# Order and repetition of artifacts

What comes of a run depends on which artifacts there are, not on how their lists are ordered or on
what they repeat: the common root is that of the artifacts, the module tree that of the places, and
files are drawn up in order of paths.

    distinctFiles gives the same for the same files                     (distinctFiles_of_mem_iff)
    indexFilesOf gives the same for the same paths                      (indexFilesOf_of_mem_iff)
    runs on the same artifacts have the same outcome                    (generate_of_namesSame)
-/

namespace AbiBindings

/-! ## Files -/

theorem fileLt_trans (f g h : GeneratedFile) (hfg : fileLt f g = true) (hgh : fileLt g h = true) :
    fileLt f h = true :=
  isOrder_textLt.trans f.path g.path h.path hfg hgh

/-- Files are merged in order of paths. -/
theorem inOrder_mergeFiles {known files merged : List GeneratedFile} (hk : InOrder fileLt known)
    (h : mergeFiles known files = .ok merged) : InOrder fileLt merged := by
  induction files generalizing known with
  | nil =>
    cases h
    exact hk
  | cons f rest ih =>
    unfold mergeFiles at h
    split at h
    · split at h
      · exact ih hk h
      · cases h
    · rename_i hnone
      refine ih (inOrder_insertDistinct_of_total fileLt_trans (fun g hg _ hlt => ?_) hk) h
      -- Nothing that is known lies at the path of the new file.
      have hne : f.path ≠ g.path :=
        fun he => List.find?_eq_none.1 hnone g hg (beq_iff_eq.2 he.symm)
      exact isOrder_textLt.total f.path g.path hne hlt

/-- The same files are drawn up alike, or collide both times. -/
theorem distinctFiles_of_mem_iff {files files' : List GeneratedFile}
    (h : ∀ f, f ∈ files' ↔ f ∈ files) :
    (∃ merged, distinctFiles files = .ok merged ∧ distinctFiles files' = .ok merged) ∨
      ∃ text text', distinctFiles files = .error (.pathCollision text) ∧
        distinctFiles files' = .error (.pathCollision text') := by
  rcases distinctFiles_cases files with ⟨merged, hm, ho⟩ | ⟨text, he, hc⟩
  · have ho' : OneFilePerPath files' :=
      ho.subset fun f hf => (mem_of_distinctFiles hm f).2 ((h f).1 hf)
    obtain ⟨merged', hm'⟩ := exists_distinctFiles ho'
    have hsame : merged' = merged := by
      refine (inOrder_mergeFiles List.Pairwise.nil hm').eq_of_mem_iff_of_irrefl
        (fun f => isOrder_textLt.irrefl f.path) fileLt_trans
        (inOrder_mergeFiles List.Pairwise.nil hm) fun f => ?_
      rw [mem_of_distinctFiles hm', mem_of_distinctFiles hm, h]
    exact Or.inl ⟨merged, hm, hsame ▸ hm'⟩
  · rcases distinctFiles_cases files' with ⟨merged', hm', ho'⟩ | ⟨text', he', -⟩
    · refine absurd (hc.subset fun f hf => ?_) (oneFilePerPath_iff.1 ho' text)
      exact (mem_of_distinctFiles hm' f).2 ((h f).2 hf)
    · exact Or.inr ⟨text, text', he, he'⟩

/-! ## Index files -/

section
variable {o : IndexOptions} {paths paths' : List String}

/-- The same paths have the same index files. -/
theorem indexFilesOf_of_mem_iff (hp : ∀ path ∈ paths, ¬ IsMalformedPath path)
    (h : ∀ path, path ∈ paths' ↔ path ∈ paths) : indexFilesOf o paths' = indexFilesOf o paths := by
  obtain ⟨t, ht⟩ : ∃ t, ModuleTree.ofPaths o.indexFile paths = .ok t := exists_ofPaths hp
  obtain ⟨t', ht'⟩ : ∃ t, ModuleTree.ofPaths o.indexFile paths' = .ok t :=
    exists_ofPaths fun path hm => hp path ((h path).1 hm)
  rw [indexFilesOf, indexFilesOf, ht, ht']
  exact (alike_of_shows (shows_of_ofPaths ht) (shows_of_ofPaths ht') h).indexFiles

theorem not_isMalformedPath_path (p : Place) : ¬ IsMalformedPath p.path :=
  (parse_eq_ok_iff.1 p.parse_path).1

/-- Places have index files, whatever these are called and add to names. -/
theorem exists_indexFilesOf (o : IndexOptions) (places : List Place) :
    ∃ files, indexFilesOf o (places.map Place.path) = .ok files := by
  have hok : ∀ path ∈ places.map Place.path, ¬ IsMalformedPath path :=
    List.forall_mem_map.2 fun p _ => not_isMalformedPath_path p
  obtain ⟨t, ht⟩ : ∃ t, ModuleTree.ofPaths o.indexFile (places.map Place.path) = .ok t :=
    exists_ofPaths hok
  rw [indexFilesOf, ht]
  refine exists_mapM_eq_ok_iff.2 fun d _ => ?_
  -- The stem of a place is the name of a type, so it can be re-exported.
  have hfiles : ∀ stem ∈ t.childFiles d, ∃ e, ModuleTree.fileReExport o stem = .ok e := by
    intro stem hs
    obtain ⟨path, hm, name, hseg, -, rfl⟩ := ((shows_of_ofPaths ht).childFiles d stem).1 hs
    obtain ⟨p, -, rfl⟩ := List.mem_map.1 hm
    rw [p.pathSegments_path] at hseg
    obtain ⟨-, hname⟩ := List.append_inj' hseg rfl
    rw [← (List.cons.inj hname).1, p.fileStem_fileName, ModuleTree.fileReExport,
      typeName_of_isTypeName p.isTypeName]
    exact ⟨_, rfl⟩
  obtain ⟨entries, he⟩ := exists_mapM_eq_ok_iff.2 hfiles
  rw [ModuleTree.indexOf, ModuleTree.reExports, he]
  exact ⟨_, rfl⟩

end

/-! ## Requests -/

/-- Settings and requests that name the same artifacts, in whatever order and however often. -/
structure NamesSame (c c' : Config) (r r' : Request) : Prop where
  settings : c' = { c with externalArtifactPaths := c'.externalArtifactPaths }
  fullRebuild : r'.fullRebuild = r.fullRebuild
  all : ∀ path, path ∈ r'.allArtifacts ↔ path ∈ r.allArtifacts
  changed : ∀ path, path ∈ r'.changedArtifacts ↔ path ∈ r.changedArtifacts
  external : ∀ path, path ∈ c'.externalArtifactPaths ↔ path ∈ c.externalArtifactPaths

theorem isEmpty_of_mem_iff {α : Type} {l l' : List α} (h : ∀ a, a ∈ l' ↔ a ∈ l) :
    l'.isEmpty = l.isEmpty := by
  rw [Bool.eq_iff_iff, List.isEmpty_iff, List.isEmpty_iff, List.eq_nil_iff_forall_not_mem,
    List.eq_nil_iff_forall_not_mem]
  simp only [h]

variable {c c' : Config} {r r' : Request}

theorem mem_attempted_all {t : Target} (h : (r.fullRebuild || !t.isIncremental) = true)
    {path : String} : path ∈ r.attempted c t ↔ path ∈ r.everyArtifact c := by
  simp [Request.attempted, Request.passes, h]

namespace NamesSame
variable (h : NamesSame c c' r r')
include h

theorem outputDirectory : c'.outputDirectory = c.outputDirectory := by
  rw [h.settings]

/-- The settings select the same target. -/
theorem target : Target.ofConfig c' = Target.ofConfig c := by
  rw [h.settings]
  rfl

theorem mem_everyArtifact {path : String} :
    path ∈ r'.everyArtifact c' ↔ path ∈ r.everyArtifact c := by
  rw [Request.everyArtifact, Request.everyArtifact, List.mem_append, List.mem_append, h.all,
    h.external]

theorem root : r'.root c' = r.root c :=
  commonRoot_eq_of_mem_iff fun _ => h.mem_everyArtifact

theorem isNeeded : r'.isNeeded c' = r.isNeeded c := by
  rw [Request.isNeeded, Request.isNeeded, h.fullRebuild, isEmpty_of_mem_iff h.changed,
    isEmpty_of_mem_iff h.external]

theorem mem_attempted {t : Target} {path : String} :
    path ∈ r'.attempted c' t ↔ path ∈ r.attempted c t := by
  cases hall : r.fullRebuild || !t.isIncremental with
  | true =>
    rw [mem_attempted_all hall, mem_attempted_all (h.fullRebuild ▸ hall), h.mem_everyArtifact]
  | false =>
    rw [Bool.or_eq_false_iff, Bool.not_eq_false'] at hall
    rw [mem_attempted_incremental hall.2 hall.1,
      mem_attempted_incremental hall.2 (h.fullRebuild.trans hall.1), h.changed, h.external]

variable {t : Target} {read : Contents}

theorem declares_iff {path : String} {f : GeneratedFile} :
    Declares c' t r' read path f ↔ Declares c t r read path f := by
  rw [Declares, Declares, h.mem_attempted, h.root]

theorem failsAt_iff {path : String} : FailsAt c' t r' read path ↔ FailsAt c t r read path := by
  rw [FailsAt, FailsAt, h.mem_attempted, h.root]

theorem failsAlike_iff {path : String} :
    FailsAlike c' t r' read path ↔ FailsAlike c t r read path := by
  simp only [FailsAlike, h.failsAt_iff]

/-! ### Drafts -/

theorem mem_failures {x : Failure} :
    x ∈ (Draft.make c' t r' read).failures ↔ x ∈ (Draft.make c t r read).failures := by
  rw [Draft.mem_failures_make, Draft.mem_failures_make, h.mem_attempted, h.root]

theorem mem_declared {f : GeneratedFile} :
    f ∈ (Draft.make c' t r' read).declared ↔ f ∈ (Draft.make c t r read).declared := by
  rw [Draft.mem_declared_make, Draft.mem_declared_make]
  simp only [h.declares_iff]

theorem mem_placedPaths {text : String} :
    text ∈ (Draft.make c' t r' read).placedPaths ↔
      text ∈ (Draft.make c t r read).placedPaths := by
  rw [Draft.mem_placedPaths_make, Draft.mem_placedPaths_make]
  simp only [h.mem_everyArtifact, h.failsAlike_iff, h.root]

/-- The index files are drawn up, and are the same. -/
theorem exists_index (t : Target) (read : Contents) :
    ∃ index, (Draft.make c t r read).index = .ok index ∧
      (Draft.make c' t r' read).index = .ok index := by
  obtain ⟨places, hp⟩ := Draft.exists_placedPaths_make c t r read
  obtain ⟨index, hi⟩ := exists_indexFilesOf t.index places
  have hok : ∀ path ∈ (Draft.make c t r read).placedPaths, ¬ IsMalformedPath path := by
    rw [← hp]
    exact List.forall_mem_map.2 fun p _ => not_isMalformedPath_path p
  have hindex : (Draft.make c t r read).index = .ok index := by
    rw [← hi, hp]
    rfl
  refine ⟨index, hindex, ?_⟩
  rw [← hindex]
  exact indexFilesOf_of_mem_iff hok fun _ => h.mem_placedPaths

/-- The files are drawn up, and are the same, or they collide both times. -/
theorem files_cases (t : Target) (read : Contents) :
    (∃ files, (Draft.make c t r read).files = .ok files ∧
        (Draft.make c' t r' read).files = .ok files) ∨
      ∃ text text', (Draft.make c t r read).files = .error (.pathCollision text) ∧
        (Draft.make c' t r' read).files = .error (.pathCollision text') := by
  obtain ⟨index, hi, hi'⟩ := h.exists_index t read
  have hfiles : (Draft.make c t r read).files =
      distinctFiles ((Draft.make c t r read).declared ++ index) := by
    rw [Draft.files, hi]
    rfl
  have hfiles' : (Draft.make c' t r' read).files =
      distinctFiles ((Draft.make c' t r' read).declared ++ index) := by
    rw [Draft.files, hi']
    rfl
  rw [hfiles, hfiles']
  refine distinctFiles_of_mem_iff fun f => ?_
  rw [List.mem_append, List.mem_append, h.mem_declared]

end NamesSame

/-! ## Runs -/

/-- Two runs both end at a collision, or both succeed with as many files and the same failures. -/
inductive SameResult : Checked Outcome → Checked Outcome → Prop where
  | collision (text text' : String) :
    SameResult (.error (.pathCollision text)) (.error (.pathCollision text'))
  | success {o o' : Outcome} (hfiles : o'.filesGenerated = o.filesGenerated)
    (hfailures : ∀ x, x ∈ o'.failures ↔ x ∈ o.failures) : SameResult (.ok o) (.ok o')

/-- Runs on the same artifacts have the same result and write the same files, whatever the order
and repetition of the artifacts. -/
theorem generate_of_namesSame (h : NamesSame c c' r r') (t : Target) (read : Contents)
    (out : Output) :
    Target.ofConfig c' = Target.ofConfig c ∧
      SameResult (record (generate c t r) read out).1.result
        (record (generate c' t r') read out).1.result ∧
      (record (generate c' t r') read out).1.written =
        (record (generate c t r) read out).1.written ∧
      (record (generate c' t r') read out).2 = (record (generate c t r) read out).2 ∧
      ∀ f, Wrote c' (record (generate c' t r') read out) f ↔
        Wrote c (record (generate c t r) read out) f := by
  have hsame : SameResult (record (generate c t r) read out).1.result
        (record (generate c' t r') read out).1.result ∧
      (record (generate c' t r') read out).1.written =
        (record (generate c t r) read out).1.written ∧
      (record (generate c' t r') read out).2 = (record (generate c t r) read out).2 := by
    cases hn : r.isNeeded c with
    | false =>
      obtain ⟨hr, hw, ho⟩ := record_generate_idle (t := t) read out hn
      obtain ⟨hr', hw', ho'⟩ := record_generate_idle (t := t) read out (h.isNeeded.trans hn)
      rw [hr, hr', hw, hw', ho, ho']
      exact ⟨.success rfl fun _ => Iff.rfl, rfl, rfl⟩
    | true =>
      have hn' : r'.isNeeded c' = true := h.isNeeded.trans hn
      rcases h.files_cases t read with ⟨files, hf, hf'⟩ | ⟨text, text', he, he'⟩
      · obtain ⟨hr, hw, ho⟩ := record_generate_ok out hn hf
        obtain ⟨hr', hw', ho'⟩ := record_generate_ok out hn' hf'
        rw [hr, hr', hw, hw', ho, ho', h.outputDirectory]
        exact ⟨.success rfl fun _ => h.mem_failures, rfl, rfl⟩
      · obtain ⟨hr, hw, ho⟩ := record_generate_error out hn he
        obtain ⟨hr', hw', ho'⟩ := record_generate_error out hn' he'
        rw [hr, hr', hw, hw', ho, ho']
        exact ⟨.collision text text', rfl, rfl⟩
  obtain ⟨hr, hw, ho⟩ := hsame
  refine ⟨h.target, hr, hw, ho, fun f => ?_⟩
  rw [Wrote, Wrote, hw, ho, h.outputDirectory]

/-- Contents of artifacts of which one does not hold an ABI. -/
def malformedU : Contents := fun path => if path = "b/U.json" then .ok "[" else .ok "[]"

/-- The same files come of three artifacts and of a longer list of them in another order. -/
theorem generate_of_namesSame_reordered :
    (record (generate { externalArtifactPaths := ["E.json"] } .standard
        ⟨["a/T.json", "b/U.json"], [], true⟩) malformedU Output.empty).1.written =
      ["E.ts", "a/T.ts", "a/index.ts", "index.ts"] ∧
    (record (generate { externalArtifactPaths := ["E.json", "E.json"] } .standard
        ⟨["b/U.json", "a/T.json", "b/U.json"], [], true⟩) malformedU Output.empty).1.written =
      ["E.ts", "a/T.ts", "a/index.ts", "index.ts"] := by
  have h : NamesSame { externalArtifactPaths := ["E.json"] }
      { externalArtifactPaths := ["E.json", "E.json"] } ⟨["a/T.json", "b/U.json"], [], true⟩
      ⟨["b/U.json", "a/T.json", "b/U.json"], [], true⟩ := by
    refine ⟨rfl, rfl, fun path => ?_, fun path => Iff.rfl, fun path => ?_⟩
    · simp only [List.mem_cons, List.not_mem_nil, or_false]
      tauto
    · simp only [List.mem_cons, List.not_mem_nil, or_false, or_self]
  have hw : (record (generate { externalArtifactPaths := ["E.json"] } .standard
      ⟨["a/T.json", "b/U.json"], [], true⟩) malformedU Output.empty).1.written =
        ["E.ts", "a/T.ts", "a/index.ts", "index.ts"] := by
    decide +kernel
  exact ⟨hw, (generate_of_namesSame h .standard malformedU Output.empty).2.2.1.trans hw⟩

end AbiBindings
