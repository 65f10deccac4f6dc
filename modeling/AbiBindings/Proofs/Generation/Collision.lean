import AbiBindings.Proofs.Generation.FullRebuild
import AbiBindings.Proofs.ModuleTree.Build

/-!
# Runs that fail

Declaring an artifact fails at the first of its steps that does.  A run as a whole only fails if two
of its declarations differ at one path: index files are always drawn up, differ from one another in
their paths, and lie at no declaration's path.  A run that fails writes nothing, and one that does
not fail reports the artifacts that do, in their order, and writes the declarations of the others.

    declareArtifact … = .error e ↔ FirstFault … e          (declareArtifact_eq_error_iff)
    index files lie at no declaration's path               (index_apart)
    what can come of a run, collisions or not              (record_generate_cases)
-/

namespace AbiBindings

variable {c : Config} {t : Target} {r : Request} {read : Contents}

/-! ## Failing artifacts -/

/-- Why an artifact is not declared: the failure of the first step that fails, the others before it
having succeeded. -/
inductive FirstFault (t : Target) (root : List PathPart) (read : Contents) (path : String) :
    Diagnostic → Prop where
  | reading {e : Diagnostic} (h : readArtifact read path = .error e) : FirstFault t root read path e
  | naming {content : String} {e : Diagnostic} (hr : readArtifact read path = .ok content)
    (h : contractNameOf path = .error e) : FirstFault t root read path e
  | parsing {content name : String} {e : Diagnostic} (hr : readArtifact read path = .ok content)
    (hn : contractNameOf path = .ok name) (h : artifactAbi name content = .error e) :
    FirstFault t root read path e
  | building {content name : String} {abi : AbiDefinition} {e : Diagnostic}
    (hr : readArtifact read path = .ok content) (hn : contractNameOf path = .ok name)
    (ha : artifactAbi name content = .ok abi) (h : Contract.ofAbi name abi = .error e) :
    FirstFault t root read path e
  | placing {content name : String} {abi : AbiDefinition} {contract : Contract} {e : Diagnostic}
    (hr : readArtifact read path = .ok content) (hn : contractNameOf path = .ok name)
    (ha : artifactAbi name content = .ok abi) (hc : Contract.ofAbi name abi = .ok contract)
    (h : outputDirectoryOf root path = .error e) : FirstFault t root read path e
  | rendering {content name : String} {abi : AbiDefinition} {contract : Contract}
    {d : DirectoryPath} {e : Diagnostic} (hr : readArtifact read path = .ok content)
    (hn : contractNameOf path = .ok name) (ha : artifactAbi name content = .ok abi)
    (hc : Contract.ofAbi name abi = .ok contract) (hd : outputDirectoryOf root path = .ok d)
    (h : t.declarationFile contract (declarationPath d name) = .error e) :
    FirstFault t root read path e

theorem declareArtifact_eq_error_iff {root : List PathPart} {path : String} {e : Diagnostic} :
    declareArtifact t root read path = .error e ↔ FirstFault t root read path e := by
  simp only [declareArtifact, bind_eq_error_iff]
  constructor
  · rintro (h | ⟨content, hr, h | ⟨name, hn, h | ⟨abi, ha, h | ⟨contract, hc, h | ⟨d, hd, h⟩⟩⟩⟩⟩)
    · exact .reading h
    · exact .naming hr h
    · exact .parsing hr hn h
    · exact .building hr hn ha h
    · exact .placing hr hn ha hc h
    · exact .rendering hr hn ha hc hd h
  · intro h
    cases h with
    | reading h => exact Or.inl h
    | naming hr h => exact Or.inr ⟨_, hr, Or.inl h⟩
    | parsing hr hn h => exact Or.inr ⟨_, hr, Or.inr ⟨_, hn, Or.inl h⟩⟩
    | building hr hn ha h =>
      exact Or.inr ⟨_, hr, Or.inr ⟨_, hn, Or.inr ⟨_, ha, Or.inl h⟩⟩⟩
    | placing hr hn ha hc h =>
      exact Or.inr ⟨_, hr, Or.inr ⟨_, hn, Or.inr ⟨_, ha, Or.inr ⟨_, hc, Or.inl h⟩⟩⟩⟩
    | rendering hr hn ha hc hd h =>
      exact Or.inr ⟨_, hr, Or.inr ⟨_, hn, Or.inr ⟨_, ha, Or.inr ⟨_, hc, Or.inr ⟨_, hd, h⟩⟩⟩⟩⟩

/-- The failure at an artifact, if it fails. -/
def failureAt? (t : Target) (root : List PathPart) (read : Contents) (path : String) :
    Option Failure :=
  match declareArtifact t root read path with
  | .ok _ => none
  | .error e => some ⟨path, e⟩

theorem failureAt?_eq_some_iff {root : List PathPart} {path : String} {x : Failure} :
    failureAt? t root read path = some x ↔
      x.artifact = path ∧ FirstFault t root read path x.error := by
  rw [← declareArtifact_eq_error_iff]
  unfold failureAt?
  obtain ⟨artifact, error⟩ := x
  cases declareArtifact t root read path with
  | ok f => simp
  | error e => simp [eq_comm]

/-- A draft's failures are those of the artifacts it attempts, in their order. -/
theorem Draft.failures_make :
    (make c t r read).failures = (r.attempted c t).filterMap (failureAt? t (r.root c) read) := by
  have hpass (p : Pass) : (p.run t (r.root c) read).failures =
      p.artifacts.filterMap (failureAt? t (r.root c) read) := by
    rw [PassResult.failures, Pass.run, List.filterMap_map]
    rfl
  show ((r.passes c t).map (Pass.run t (r.root c) read)).flatMap PassResult.failures = _
  rw [List.flatMap_map, Request.attempted, List.filterMap_flatMap]
  simp only [hpass]

/-! ## Collisions -/

/-- Two declarations of a run differ at a path. -/
def Collides (c : Config) (t : Target) (r : Request) (read : Contents) (text : String) : Prop :=
  ∃ path path' f f', Declares c t r read path f ∧ Declares c t r read path' f' ∧
    f.path = text ∧ f'.path = text ∧ f.contents ≠ f'.contents

theorem collideAt_declared_iff {text : String} :
    CollideAt (Draft.make c t r read).declared text ↔ Collides c t r read text := by
  simp only [CollideAt, Draft.mem_declared_make]
  constructor
  · rintro ⟨f, ⟨path, hf⟩, g, ⟨path', hg⟩, h⟩
    exact ⟨path, path', f, g, hf, hg, h⟩
  · rintro ⟨path, path', f, g, hf, hg, h⟩
    exact ⟨f, ⟨path, hf⟩, g, ⟨path', hg⟩, h⟩

/-! ### Index files -/

variable {places : List Place} {o : IndexOptions}

theorem directory_eq_of_path {i j : IndexFile} (hi : i ∈ indexesOf places)
    (hj : j ∈ indexesOf places) (h : (i.file o).path = (j.file o).path) :
    i.directory = j.directory :=
  file_injective (noSlash_of_mem_directoriesOf (mem_indexesOf.1 hi).1)
    (noSlash_of_mem_directoriesOf (mem_indexesOf.1 hj).1) h

/-- No two index files differ at one path. -/
theorem oneFilePerPath_indexesOf : OneFilePerPath ((indexesOf places).map (IndexFile.file o)) := by
  intro f hf g hg hp
  obtain ⟨i, hi, rfl⟩ := List.mem_map.1 hf
  obtain ⟨j, hj, rfl⟩ := List.mem_map.1 hg
  have hd := directory_eq_of_path hi hj hp
  have he : i.entries = j.entries := by
    rw [(mem_indexesOf.1 hi).2, (mem_indexesOf.1 hj).2, hd]
  unfold IndexFile.file
  rw [hd, he]

/-- No index file lies at the path of a declaration. -/
theorem index_apart {root : List PathPart} {path : String} {f : GeneratedFile}
    (hf : declareArtifact t root read path = .ok f) {i : IndexFile} (hi : i ∈ indexesOf places) :
    (i.file o).path ≠ f.path := by
  obtain ⟨p, hp, -⟩ := exists_place_of_declared hf
  rw [hp]
  exact (p.path_ne_index
    fun _ hs => isSegment_of_mem_directoriesOf (mem_indexesOf.1 hi).1 hs).symm

/-- If files of a run differ at a path, declarations do. -/
theorem collides_of_collideAt {text : String}
    (h : CollideAt ((Draft.make c t r read).declared ++ (indexesOf places).map (IndexFile.file o))
      text) : Collides c t r read text := by
  rw [← collideAt_declared_iff]
  -- A declaration and an index file do not share a path.
  have hapart {f g : GeneratedFile} (hf : f ∈ (Draft.make c t r read).declared)
      (hg : g ∈ (indexesOf places).map (IndexFile.file o)) : g.path ≠ f.path := by
    obtain ⟨_, hd⟩ := Draft.mem_declared_make.1 hf
    obtain ⟨i, hi, rfl⟩ := List.mem_map.1 hg
    exact index_apart hd.2 hi
  obtain ⟨f, hf, g, hg, hfp, hgp, hne⟩ := h
  rcases List.mem_append.1 hf with hf | hf
  · rcases List.mem_append.1 hg with hg | hg
    · exact ⟨f, hf, g, hg, hfp, hgp, hne⟩
    · exact absurd (hgp.trans hfp.symm) (hapart hf hg)
  · rcases List.mem_append.1 hg with hg | hg
    · exact absurd (hfp.trans hgp.symm) (hapart hg hf)
    · have := oneFilePerPath_indexesOf f hf g hg (hfp.trans hgp.symm)
      exact absurd (congrArg GeneratedFile.contents this) hne

/-- The files of a run are drawn up, or two of its declarations differ at a path. -/
theorem files_make_cases (ht : Target.ofConfig c = .ok t) (r : Request) (read : Contents) :
    (∃ files, (Draft.make c t r read).files = .ok files ∧ ∀ text, ¬ Collides c t r read text) ∨
      ∃ text, (Draft.make c t r read).files = .error (.pathCollision text) ∧
        Collides c t r read text := by
  obtain ⟨places, hi, -⟩ := Draft.exists_places_make ht r read
  have hfiles : (Draft.make c t r read).files = distinctFiles
      ((Draft.make c t r read).declared ++ (indexesOf places).map (IndexFile.file t.index)) := by
    rw [Draft.files, hi]
    rfl
  rw [hfiles]
  rcases distinctFiles_cases _ with ⟨files, hf, ho⟩ | ⟨text, he, hc⟩
  · refine Or.inl ⟨files, hf, fun text hc => ?_⟩
    refine oneFilePerPath_iff.1 ho text ((collideAt_declared_iff.2 hc).subset fun f hm => ?_)
    exact (mem_of_distinctFiles hf f).2 (List.mem_append_left _ hm)
  · exact Or.inr ⟨text, he, collides_of_collideAt hc⟩

/-! ## Runs -/

theorem attempted_of_not_isNeeded (ht : t.isIncremental = true) (hn : r.isNeeded c = false) :
    r.attempted c t = [] := by
  rw [List.eq_nil_iff_forall_not_mem]
  intro path hp
  rw [isNeeded_of_mem_attempted ht hp] at hn
  cases hn

/-- The index files of a run are drawn up, apart from its declarations. -/
theorem exists_index_apart (ht : Target.ofConfig c = .ok t) (r : Request) (read : Contents) :
    ∃ index, (Draft.make c t r read).index = .ok index ∧
      ∀ i ∈ index, ∀ path f, Declares c t r read path f → i.path ≠ f.path := by
  obtain ⟨places, hi, -⟩ := Draft.exists_places_make ht r read
  refine ⟨_, hi, fun i hm path f hd => ?_⟩
  obtain ⟨j, hj, rfl⟩ := List.mem_map.1 hm
  exact index_apart hd.2 hj

/-- What can come of a run: it fails at a collision, with nothing written, or there is none, and it
reports the artifacts that fail and writes the declarations of the others. -/
theorem record_generate_cases (ht : Target.ofConfig c = .ok t) (r : Request) (read : Contents)
    (out : Output) :
    (∃ text, (record (generate c t r) read out).1.result = .error (.pathCollision text) ∧
      Collides c t r read text ∧ (record (generate c t r) read out).1.written = [] ∧
      (record (generate c t r) read out).2 = out) ∨
    ∃ o, (record (generate c t r) read out).1.result = .ok o ∧
      (∀ text, ¬ Collides c t r read text) ∧
      o.failures = (r.attempted c t).filterMap (failureAt? t (r.root c) read) ∧
      ∀ path f, Declares c t r read path f → Wrote c (record (generate c t r) read out) f := by
  cases hn : r.isNeeded c with
  | false =>
    -- Nothing is attempted.
    have hnone := attempted_of_not_isNeeded (isIncremental_ofConfig ht) hn
    have hd : ∀ path f, ¬ Declares c t r read path f := by
      intro path f hd
      have := hd.1
      rw [hnone] at this
      cases this
    refine Or.inr ⟨_, (record_generate_idle read out hn).1, ?_, ?_, ?_⟩
    · rintro text ⟨path, _, f, _, hf, _⟩
      exact hd path f hf
    · rw [hnone]
      rfl
    · exact fun path f hf => absurd hf (hd path f)
  | true =>
    rcases files_make_cases ht r read with ⟨files, hf, hnone⟩ | ⟨text, he, hc⟩
    · obtain ⟨index, hi, -⟩ := exists_index_apart ht r read
      refine Or.inr ⟨_, (record_generate_ok out hn hf).1, hnone, Draft.failures_make, ?_⟩
      intro path f hd
      rw [wrote_iff hn hf, Draft.mem_files hf hi]
      exact Or.inl (Draft.mem_declared_make.2 ⟨path, hd⟩)
    · obtain ⟨hres, hw, hs⟩ := record_generate_error out hn he
      exact Or.inl ⟨text, hres, hc, hw, hs⟩

/-- A run fails exactly if two of its declarations differ at a path, which it reports; then nothing
is written.  Otherwise its failures are those of the artifacts that it attempts, in their order, and
the declarations of the others are written.  Index files can always be drawn up, away from the
declarations. -/
theorem generate_fails_iff_collides (ht : Target.ofConfig c = .ok t) (r : Request)
    (read : Contents) (out : Output) :
    ((∃ e, (record (generate c t r) read out).1.result = .error e) ↔
      ∃ text, Collides c t r read text) ∧
    (∀ e, (record (generate c t r) read out).1.result = .error e →
      (∃ text, e = .pathCollision text ∧ Collides c t r read text) ∧
        (record (generate c t r) read out).1.written = [] ∧
        (record (generate c t r) read out).2 = out) ∧
    (∀ o, (record (generate c t r) read out).1.result = .ok o →
      o.failures = (r.attempted c t).filterMap (failureAt? t (r.root c) read) ∧
      (∀ path x, failureAt? t (r.root c) read path = some x ↔
        x.artifact = path ∧ FirstFault t (r.root c) read path x.error) ∧
      ∀ path ∈ r.attempted c t, (∀ e, ¬ FirstFault t (r.root c) read path e) →
        ∃ f, Declares c t r read path f ∧ Wrote c (record (generate c t r) read out) f) ∧
    ∃ index, (Draft.make c t r read).index = .ok index ∧
      ∀ i ∈ index, ∀ path f, Declares c t r read path f → i.path ≠ f.path := by
  rcases record_generate_cases ht r read out with
    ⟨text, hres, hc, hw, hs⟩ | ⟨o, hres, hnone, hfail, hwrote⟩
  · refine ⟨⟨fun _ => ⟨text, hc⟩, fun _ => ⟨_, hres⟩⟩, ?_, ?_, exists_index_apart ht r read⟩
    · intro e he
      cases hres.symm.trans he
      exact ⟨⟨text, rfl, hc⟩, hw, hs⟩
    · intro o ho
      cases hres.symm.trans ho
  · refine ⟨⟨?_, ?_⟩, ?_, ?_, exists_index_apart ht r read⟩
    · rintro ⟨e, he⟩
      cases hres.symm.trans he
    · rintro ⟨text, hc⟩
      exact absurd hc (hnone text)
    · intro e he
      cases hres.symm.trans he
    · intro o' ho
      cases hres.symm.trans ho
      refine ⟨hfail, fun path x => failureAt?_eq_some_iff, fun path hp hno => ?_⟩
      rcases declares_or_failsAt read hp with ⟨f, hd⟩ | ⟨-, e, he⟩
      · exact ⟨f, hd, hwrote path f hd⟩
      · exact absurd (declareArtifact_eq_error_iff.1 he) (hno e)

/-- Contents of two artifacts of one name, and of one that does not hold an ABI. -/
def clashing : Contents := fun path =>
  if path = "a b.json" then .ok r#"[{"type": "receive"}]"#
  else if path = "AB.json" then .ok "[]"
  else .ok "["

/-- `a b.json` and `AB.json` collide, which ends a run of both; a malformed artifact does not. -/
theorem generate_fails_clashing :
    (∃ text, Collides {} .standard ⟨["a b.json", "AB.json"], [], true⟩ clashing text) ∧
    ∃ f, Declares {} .standard ⟨["AB.json", "C.json"], [], true⟩ clashing "AB.json" f ∧
      Wrote {} (record (generate {} .standard ⟨["AB.json", "C.json"], [], true⟩) clashing
        Output.empty) f := by
  constructor
  · have h : (record (generate {} .standard ⟨["a b.json", "AB.json"], [], true⟩) clashing
        Output.empty).1.result = .error (.pathCollision "AB.ts") := by
      decide +kernel
    exact (generate_fails_iff_collides ofConfig_standard _ _ _).1.1 ⟨_, h⟩
  · obtain ⟨o, ho⟩ := exists_of_isOk (x := (record (generate {} .standard
      ⟨["AB.json", "C.json"], [], true⟩) clashing Output.empty).1.result) (by decide +kernel)
    have hno : ∀ e, ¬ FirstFault .standard (Request.root {} ⟨["AB.json", "C.json"], [], true⟩)
        clashing "AB.json" e := by
      intro e he
      have hok : (declareArtifact .standard (Request.root {} ⟨["AB.json", "C.json"], [], true⟩)
          clashing "AB.json").isOk = true := by
        decide +kernel
      rw [declareArtifact_eq_error_iff.2 he] at hok
      cases hok
    obtain ⟨-, -, hw⟩ := (generate_fails_iff_collides ofConfig_standard
      ⟨["AB.json", "C.json"], [], true⟩ clashing Output.empty).2.2.1 o ho
    exact hw "AB.json" (by decide) hno

end AbiBindings
