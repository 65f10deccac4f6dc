import AbiBindings.Generation.Plan
import AbiBindings.Proofs.Declaration.File
import AbiBindings.Proofs.ModuleTree.IndexFile
import Mathlib.Data.Set.List

/-!
# What a draft holds

A draft attempts some artifacts.  Its declarations are those of the attempts that succeed, its index
files those of the places of all artifacts without a failed attempt, and files are drawn up unless
two of them differ at one path.

    f ∈ declared ↔ an attempted artifact is declared as f               (mem_declared_make)
    (make c t r read).index = .ok (index files of places)               (exists_places_make)
    OneFilePerPath fs → distinctFiles fs = .ok …                        (exists_distinctFiles)
-/

namespace AbiBindings

/-! ## Targets -/

theorem index_ofConfig {c : Config} {t : Target} (h : Target.ofConfig c = .ok t) :
    t.index.indexFile = "index.ts" ∧ t.index.nameSuffix = "" := by
  unfold Target.ofConfig at h
  split at h
  · cases h
  · obtain ⟨_, -, h⟩ := bind_eq_ok_iff.1 h
    cases h
    exact ⟨rfl, rfl⟩

theorem isIncremental_ofConfig {c : Config} {t : Target} (h : Target.ofConfig c = .ok t) :
    t.isIncremental = true := by
  unfold Target.ofConfig at h
  split at h
  · cases h
  · obtain ⟨_, -, h⟩ := bind_eq_ok_iff.1 h
    cases h
    rfl

/-- The target of settings without changes. -/
def Target.standard : Target where
  name := "ethers-v5"
  declarations := ⟨⟨ethersV5, "Struct", "StructOutput"⟩, false, false⟩
  index := { typeOnly := true }
  isIncremental := true

theorem ofConfig_standard : Target.ofConfig {} = .ok Target.standard := rfl

/-! ## Attempts -/

/-- The artifacts that a run generates declarations of, pass by pass. -/
def Request.attempted (c : Config) (t : Target) (r : Request) : List String :=
  (r.passes c t).flatMap Pass.artifacts

/-- The root that the artifacts of a run are placed below. -/
def Request.root (c : Config) (r : Request) : List PathPart := commonRoot (r.everyArtifact c)

/-- A run declares an artifact as a file. -/
def Declares (c : Config) (t : Target) (r : Request) (read : Contents) (path : String)
    (f : GeneratedFile) : Prop :=
  path ∈ r.attempted c t ∧ declareArtifact t (r.root c) read path = .ok f

/-- A run fails at an artifact. -/
def FailsAt (c : Config) (t : Target) (r : Request) (read : Contents) (path : String) : Prop :=
  path ∈ r.attempted c t ∧ ∃ e, declareArtifact t (r.root c) read path = .error e

/-- A run fails at an artifact, or at another spelling of its path. -/
def FailsAlike (c : Config) (t : Target) (r : Request) (read : Contents) (path : String) : Prop :=
  ∃ q, FailsAt c t r read q ∧ pathParts q = pathParts path

variable {c : Config} {t : Target} {r : Request} {read : Contents}

theorem attempted_fullRebuild (h : r.fullRebuild = true) :
    r.attempted c t = r.everyArtifact c := by
  simp [Request.attempted, Request.passes, h]

theorem mem_attempted_incremental (ht : t.isIncremental = true) (h : r.fullRebuild = false)
    {path : String} :
    path ∈ r.attempted c t ↔ path ∈ r.changedArtifacts ∨ path ∈ c.externalArtifactPaths := by
  by_cases he : c.externalArtifactPaths = []
  · simp [Request.attempted, Request.passes, h, ht, he]
  · simp [Request.attempted, Request.passes, h, ht, he]

theorem isNeeded_fullRebuild (h : r.fullRebuild = true) : r.isNeeded c = true := by
  simp [Request.isNeeded, h]

theorem isNeeded_of_mem_attempted (ht : t.isIncremental = true) {path : String}
    (h : path ∈ r.attempted c t) : r.isNeeded c = true := by
  cases hf : r.fullRebuild with
  | true => exact isNeeded_fullRebuild hf
  | false =>
    rcases (mem_attempted_incremental ht hf).1 h with hm | hm
    · simp [Request.isNeeded, List.ne_nil_of_mem hm]
    · simp [Request.isNeeded, List.ne_nil_of_mem hm]

theorem declares_or_failsAt (read : Contents) {path : String} (h : path ∈ r.attempted c t) :
    (∃ f, Declares c t r read path f) ∨ FailsAt c t r read path := by
  cases hd : declareArtifact t (r.root c) read path with
  | ok f => exact Or.inl ⟨f, h, hd⟩
  | error e => exact Or.inr ⟨h, e, hd⟩

/-! ## Passes -/

theorem mem_files_run {root : List PathPart} {p : Pass} {f : GeneratedFile} :
    f ∈ (p.run t root read).files ↔
      ∃ path ∈ p.artifacts, declareArtifact t root read path = .ok f := by
  rw [PassResult.files, Pass.run, List.filterMap_map, List.mem_filterMap]
  simp only [Function.comp_apply, toOption_eq_some_iff]

theorem mem_failures_run {root : List PathPart} {p : Pass} {x : Failure} :
    x ∈ (p.run t root read).failures ↔
      x.artifact ∈ p.artifacts ∧ declareArtifact t root read x.artifact = .error x.error := by
  rw [PassResult.failures, Pass.run, List.filterMap_map, List.mem_filterMap]
  simp only [Function.comp_apply]
  constructor
  · rintro ⟨path, hpath, hx⟩
    split at hx
    · cases hx
    · rename_i e he
      cases hx
      exact ⟨hpath, he⟩
  · rintro ⟨hpath, he⟩
    refine ⟨x.artifact, hpath, ?_⟩
    rw [he]

/-! ## Declarations -/

namespace Draft

/-- The declarations of a draft. -/
def declared (d : Draft) : List GeneratedFile := d.results.flatMap PassResult.files

theorem mem_declared_make {f : GeneratedFile} :
    f ∈ (make c t r read).declared ↔ ∃ path, Declares c t r read path f := by
  show f ∈ ((r.passes c t).map (Pass.run t (r.root c) read)).flatMap PassResult.files ↔ _
  rw [List.flatMap_map, List.mem_flatMap]
  simp only [mem_files_run, Declares, Request.attempted, List.mem_flatMap]
  constructor
  · rintro ⟨p, hp, path, hpath, hf⟩
    exact ⟨path, ⟨p, hp, hpath⟩, hf⟩
  · rintro ⟨path, ⟨p, hp, hpath⟩, hf⟩
    exact ⟨p, hp, path, hpath, hf⟩

theorem mem_failures_make {x : Failure} :
    x ∈ (make c t r read).failures ↔
      x.artifact ∈ r.attempted c t ∧
        declareArtifact t (r.root c) read x.artifact = .error x.error := by
  show x ∈ ((r.passes c t).map (Pass.run t (r.root c) read)).flatMap PassResult.failures ↔ _
  rw [List.flatMap_map, List.mem_flatMap]
  simp only [mem_failures_run, Request.attempted, List.mem_flatMap]
  constructor
  · rintro ⟨p, hp, hpath, he⟩
    exact ⟨⟨p, hp, hpath⟩, he⟩
  · rintro ⟨⟨p, hp, hpath⟩, he⟩
    exact ⟨p, hp, hpath, he⟩

theorem failures_make_eq_nil_iff :
    (make c t r read).failures = [] ↔ ∀ path, ¬ FailsAt c t r read path := by
  rw [List.eq_nil_iff_forall_not_mem]
  constructor
  · rintro h path ⟨hp, e, he⟩
    exact h ⟨path, e⟩ (mem_failures_make.2 ⟨hp, he⟩)
  · intro h x hx
    obtain ⟨hp, he⟩ := mem_failures_make.1 hx
    exact h x.artifact ⟨hp, x.error, he⟩

/-! ## Places -/

/-- The places of the artifacts that no failure leaves out. -/
def placedPaths (d : Draft) : List String := d.placed.filterMap fun p => p.2.toOption

theorem mem_placedPaths_make {text : String} :
    text ∈ (make c t r read).placedPaths ↔
      ∃ path ∈ r.everyArtifact c, ¬ FailsAlike c t r read path ∧
        placeArtifact (r.root c) path = .ok text := by
  have hfail (path : String) :
      (∃ x ∈ (make c t r read).failures, pathParts x.artifact = pathParts path) ↔
        FailsAlike c t r read path := by
    constructor
    · rintro ⟨x, hx, hp⟩
      obtain ⟨ha, he⟩ := mem_failures_make.1 hx
      exact ⟨x.artifact, ⟨ha, x.error, he⟩, hp⟩
    · rintro ⟨q, ⟨ha, e, he⟩, hp⟩
      exact ⟨⟨q, e⟩, mem_failures_make.2 ⟨ha, he⟩, hp⟩
  show text ∈ ((((r.everyArtifact c).filter fun path =>
    !((make c t r read).failures.map fun x => pathParts x.artifact).contains (pathParts path)).map
      fun path => (path, placeArtifact (r.root c) path)).filterMap fun p => p.2.toOption) ↔ _
  simp only [List.mem_filterMap, List.mem_map, List.mem_filter, Bool.not_eq_true',
    List.contains_eq_mem, decide_eq_false_iff_not]
  constructor
  · rintro ⟨_, ⟨path, ⟨hp, hn⟩, rfl⟩, ht⟩
    exact ⟨path, hp, fun h => hn ((hfail path).2 h), toOption_eq_some_iff.1 ht⟩
  · rintro ⟨path, hp, hn, ht⟩
    exact ⟨_, ⟨path, ⟨hp, fun h => hn ((hfail path).1 h)⟩, rfl⟩, toOption_eq_some_iff.2 ht⟩

theorem exists_placedPaths_make (c : Config) (t : Target) (r : Request) (read : Contents) :
    ∃ places : List Place, places.map Place.path = (make c t r read).placedPaths := by
  have hplace : ∀ text ∈ (make c t r read).placedPaths, ∃ p : Place, p.path = text := by
    intro text h
    obtain ⟨path, -, -, hp⟩ := mem_placedPaths_make.1 h
    obtain ⟨p, rfl, -⟩ := exists_place hp
    exact ⟨p, rfl⟩
  obtain ⟨places, hpl⟩ : (make c t r read).placedPaths ∈ Set.range (List.map Place.path) := by
    rw [Set.range_list_map]
    exact hplace
  exact ⟨places, hpl⟩

/-- The index files of a draft are those of places, one for each artifact that is left. -/
theorem exists_places_make (ht : Target.ofConfig c = .ok t) (r : Request) (read : Contents) :
    ∃ places : List Place,
      (make c t r read).index = .ok ((indexesOf places).map (IndexFile.file t.index)) ∧
      ∀ p, p ∈ places ↔ ∃ path ∈ r.everyArtifact c, ¬ FailsAlike c t r read path ∧
        placeArtifact (r.root c) path = .ok p.path := by
  obtain ⟨places, hpl⟩ := exists_placedPaths_make c t r read
  refine ⟨places, ?_, fun p => ?_⟩
  · show indexFilesOf t.index (make c t r read).placedPaths = _
    rw [← hpl]
    exact indexFilesOf_places (index_ofConfig ht).1 (index_ofConfig ht).2
  · rw [← mem_placedPaths_make, ← hpl, List.mem_map]
    constructor
    · exact fun h => ⟨p, h, rfl⟩
    · rintro ⟨q, hq, he⟩
      rwa [← Place.path_injective he]

/-! ## Equal contents -/

theorem declareArtifact_congr {root : List PathPart} {read' : Contents} {path : String}
    (h : read path = read' path) :
    declareArtifact t root read path = declareArtifact t root read' path := by
  simp only [declareArtifact, readArtifact, h]

theorem make_congr {read' : Contents} (h : ∀ path ∈ r.attempted c t, read path = read' path) :
    make c t r read = make c t r read' := by
  have hr : (r.passes c t).map (Pass.run t (commonRoot (r.everyArtifact c)) read) =
      (r.passes c t).map (Pass.run t (commonRoot (r.everyArtifact c)) read') := by
    apply List.map_congr_left
    intro p hp
    rw [Pass.run, Pass.run]
    congr 1
    apply List.map_congr_left
    intro path hpath
    rw [declareArtifact_congr (h path (List.mem_flatMap.2 ⟨p, hp, hpath⟩))]
  simp only [make, hr]

end Draft

/-! ## Files -/

/-- No two files differ at one path. -/
def OneFilePerPath (files : List GeneratedFile) : Prop :=
  ∀ f ∈ files, ∀ g ∈ files, f.path = g.path → f = g

theorem OneFilePerPath.subset {files some : List GeneratedFile} (h : OneFilePerPath files)
    (hs : ∀ f ∈ some, f ∈ files) : OneFilePerPath some :=
  fun f hf g hg => h f (hs f hf) g (hs g hg)

theorem file_eq_of_eq {f g : GeneratedFile} (hp : f.path = g.path)
    (hc : f.contents = g.contents) : f = g := by
  cases f
  cases g
  cases hp
  cases hc
  rfl

theorem oneFilePerPath_insert {files : List GeneratedFile} {f : GeneratedFile}
    (h : OneFilePerPath files) (hf : ∀ g ∈ files, g.path ≠ f.path) :
    OneFilePerPath (insertDistinct fileLt f files) := by
  intro a ha b hb hab
  rw [mem_insertDistinct] at ha hb
  rcases ha with rfl | ha
  · rcases hb with rfl | hb
    · rfl
    · exact absurd hab.symm (hf b hb)
  · rcases hb with rfl | hb
    · exact absurd hab (hf a ha)
    · exact h a ha b hb hab

/-- Two files differ at a path. -/
def CollideAt (files : List GeneratedFile) (path : String) : Prop :=
  ∃ f ∈ files, ∃ g ∈ files, f.path = path ∧ g.path = path ∧ f.contents ≠ g.contents

theorem CollideAt.subset {files more : List GeneratedFile} {path : String}
    (h : CollideAt files path) (hs : ∀ f ∈ files, f ∈ more) : CollideAt more path := by
  obtain ⟨f, hf, g, hg, hfp, hgp, hne⟩ := h
  exact ⟨f, hs f hf, g, hs g hg, hfp, hgp, hne⟩

theorem oneFilePerPath_iff {files : List GeneratedFile} :
    OneFilePerPath files ↔ ∀ path, ¬ CollideAt files path := by
  constructor
  · rintro h path ⟨f, hf, g, hg, hfp, hgp, hne⟩
    exact hne (congrArg GeneratedFile.contents (h f hf g hg (hfp.trans hgp.symm)))
  · intro h f hf g hg hp
    refine file_eq_of_eq hp (Decidable.byContradiction fun hne => ?_)
    exact h g.path ⟨f, hf, g, hg, hp, rfl, hne⟩

theorem mergeFiles_cases (known files : List GeneratedFile) (h : OneFilePerPath known) :
    (∃ merged, mergeFiles known files = .ok merged ∧ OneFilePerPath merged) ∨
      ∃ path, mergeFiles known files = .error (.pathCollision path) ∧
        CollideAt (known ++ files) path := by
  induction files generalizing known with
  | nil => exact Or.inl ⟨known, rfl, h⟩
  | cons f rest ih =>
    unfold mergeFiles
    split
    · rename_i k hk
      have hmem := List.mem_of_find?_eq_some hk
      have hpath := List.find?_some hk
      rw [beq_iff_eq] at hpath
      split
      · rcases ih known h with hm | ⟨path, he, hc⟩
        · exact Or.inl hm
        · refine Or.inr ⟨path, he, hc.subset fun g hg => ?_⟩
          rw [List.mem_append] at hg ⊢
          rcases hg with hg | hg
          · exact Or.inl hg
          · exact Or.inr (List.mem_cons_of_mem _ hg)
      · rename_i hc
        exact Or.inr ⟨f.path, rfl, k, List.mem_append_left _ hmem, f,
          List.mem_append_right _ List.mem_cons_self, hpath, rfl, hc⟩
    · rename_i hk
      have hf : ∀ g ∈ known, g.path ≠ f.path := by
        intro g hg he
        exact absurd (beq_iff_eq.2 he) (List.find?_eq_none.1 hk g hg)
      rcases ih _ (oneFilePerPath_insert h hf) with hm | ⟨path, he, hc⟩
      · exact Or.inl hm
      · refine Or.inr ⟨path, he, hc.subset fun g hg => ?_⟩
        rw [List.mem_append, mem_insertDistinct] at hg
        rw [List.mem_append, List.mem_cons]
        rcases hg with (hg | hg) | hg
        · exact Or.inr (Or.inl hg)
        · exact Or.inl hg
        · exact Or.inr (Or.inr hg)

theorem oneFilePerPath_nil : OneFilePerPath [] := by
  intro f hf
  cases hf

/-- Files are drawn up, or two of them differ at a path, which is reported. -/
theorem distinctFiles_cases (files : List GeneratedFile) :
    (∃ merged, distinctFiles files = .ok merged ∧ OneFilePerPath merged) ∨
      ∃ path, distinctFiles files = .error (.pathCollision path) ∧ CollideAt files path :=
  mergeFiles_cases [] files oneFilePerPath_nil

theorem oneFilePerPath_of_distinctFiles {files merged : List GeneratedFile}
    (h : distinctFiles files = .ok merged) : OneFilePerPath merged := by
  rcases distinctFiles_cases files with ⟨m, hm, ho⟩ | ⟨path, he, -⟩
  · rwa [Except.ok.inj (h.symm.trans hm)]
  · cases he.symm.trans h

theorem exists_distinctFiles {files : List GeneratedFile} (h : OneFilePerPath files) :
    ∃ merged, distinctFiles files = .ok merged := by
  rcases distinctFiles_cases files with ⟨m, hm, -⟩ | ⟨path, -, hc⟩
  · exact ⟨m, hm⟩
  · exact absurd hc (oneFilePerPath_iff.1 h path)

theorem mem_of_distinctFiles {files merged : List GeneratedFile}
    (h : distinctFiles files = .ok merged) (f : GeneratedFile) : f ∈ merged ↔ f ∈ files := by
  rw [mem_of_mergeFiles h]
  simp

/-- The files of a draft are its declarations and its index files. -/
theorem Draft.mem_files {d : Draft} {files : List GeneratedFile} (h : d.files = .ok files)
    {index : List GeneratedFile} (hi : d.index = .ok index) (f : GeneratedFile) :
    f ∈ files ↔ f ∈ d.declared ∨ f ∈ index := by
  rw [Draft.files, hi] at h
  rw [mem_of_distinctFiles h, List.mem_append]
  rfl

theorem Draft.oneFilePerPath_files {d : Draft} {files : List GeneratedFile}
    (h : d.files = .ok files) : OneFilePerPath files := by
  obtain ⟨index, -, hd⟩ := bind_eq_ok_iff.1 h
  exact oneFilePerPath_of_distinctFiles hd

end AbiBindings
