import AbiBindings.Proofs.Generation.Recording

/-!
# Incremental runs

An incremental run after a full rebuild leaves what another full rebuild would leave, if it is told
of every artifact that holds something else: the files that it does not store are there already.

    all runs without failures have the same index files                 (index_make_of_noFailure)
    the rest of a rebuild is unchanged → it is there already            (regenerated_or_there)
    an incremental run leaves what a full rebuild leaves                (incremental_eq_fullRebuild)
-/

namespace AbiBindings

variable {c : Config} {t : Target} {r : Request} {read : Contents} {out : Output}

/-! ## Runs without failures -/

/-- A run stores the files of a draft without failures, on top of what is there. -/
structure RunsClean (c : Config) (t : Target) (r : Request) (read : Contents)
    (files : List GeneratedFile) : Prop where
  drawn : (Draft.make c t r read).files = .ok files
  noFailure : ∀ path, ¬ FailsAt c t r read path

theorem exists_runsClean {n : Nat} (hn : r.isNeeded c = true)
    (h : (record (generate c t r) read out).1.result = .ok ⟨n, []⟩) :
    ∃ files, RunsClean c t r read files ∧
      (record (generate c t r) read out).2 = store c.outputDirectory files out := by
  obtain ⟨files, hf⟩ := exists_files_of_result hn h
  obtain ⟨hr, -, hs⟩ := record_generate_ok out hn hf
  have ho : (⟨files.length, (Draft.make c t r read).failures⟩ : Outcome) = ⟨n, []⟩ :=
    Except.ok.inj (hr.symm.trans h)
  exact ⟨files, ⟨hf, Draft.failures_make_eq_nil_iff.1 (Outcome.mk.inj ho).2⟩, hs⟩

theorem RunsClean.declares {files : List GeneratedFile} (h : RunsClean c t r read files)
    {path : String} (hp : path ∈ r.attempted c t) : ∃ f, Declares c t r read path f :=
  (declares_or_failsAt read hp).resolve_right (h.noFailure path)

/-- Without failures, index files depend on the list of all artifacts only. -/
theorem index_make_of_noFailure (h : ∀ path, ¬ FailsAt c t r read path) :
    (Draft.make c t r read).index = indexFilesOf t.index
      ((r.everyArtifact c).filterMap fun path => (placeArtifact (r.root c) path).toOption) := by
  have hf : ((r.passes c t).map (Pass.run t (commonRoot (r.everyArtifact c)) read)).flatMap
      PassResult.failures = [] := Draft.failures_make_eq_nil_iff.2 h
  have hnone : (r.everyArtifact c).filter (fun path =>
      !(([] : List Failure).map fun f => pathParts f.artifact).contains (pathParts path)) =
        r.everyArtifact c :=
    List.filter_eq_self.2 fun _ _ => rfl
  simp only [Draft.make, hf, hnone, List.filterMap_map]
  rfl

theorem RunsClean.mem_files {files index : List GeneratedFile} (h : RunsClean c t r read files)
    (hi : (Draft.make c t r read).index = .ok index) (f : GeneratedFile) :
    f ∈ files ↔ (∃ path, Declares c t r read path f) ∨ f ∈ index := by
  rw [Draft.mem_files h.drawn hi, Draft.mem_declared_make]

theorem RunsClean.mem_of_declares {files : List GeneratedFile}
    (h : RunsClean c t r read files) {path : String} {f : GeneratedFile}
    (hd : Declares c t r read path f) : f ∈ files := by
  obtain ⟨index, hi, -⟩ := bind_eq_ok_iff.1 h.drawn
  exact (h.mem_files hi f).2 (Or.inl ⟨path, hd⟩)

/-! ## What is left of a rebuild -/

section
variable {all changed d₀ d₁ : List String} {c₀ c₁ : Contents}

theorem mem_attempted_rebuild {path : String} :
    path ∈ Request.attempted c t ⟨all, d₀, true⟩ ↔
      path ∈ all ∨ path ∈ c.externalArtifactPaths := by
  rw [attempted_fullRebuild rfl]
  exact List.mem_append

variable {files₀ files₁ : List GeneratedFile}

/-- A declaration of the second rebuild was one of the first, or belongs to the incremental run. -/
theorem unchanged_or_regenerated (before : List String) (ht : t.isIncremental = true)
    (h₁ : RunsClean c t ⟨all, d₁, true⟩ c₁ files₁) (hsub : ∀ p ∈ changed, p ∈ all)
    (hc : ∀ p ∈ all, c₀ p ≠ c₁ p →
      ∃ q ∈ changed ++ c.externalArtifactPaths, pathParts q = pathParts p)
    {path : String} {f : GeneratedFile} (hd : Declares c t ⟨all, d₁, true⟩ c₁ path f) :
    Declares c t ⟨all, before, true⟩ c₀ path f ∨
      ∃ q, Declares c t ⟨all, changed, false⟩ c₁ q f := by
  obtain ⟨ha, hf⟩ := hd
  rcases mem_attempted_rebuild.1 ha with hall | hext
  · by_cases hsame : c₀ path = c₁ path
    · refine Or.inl ⟨mem_attempted_rebuild.2 (Or.inl hall), ?_⟩
      rw [Draft.declareArtifact_congr hsame]
      exact hf
    · obtain ⟨q, hq, hpq⟩ := hc path hall hsame
      rw [List.mem_append] at hq
      have hqa : q ∈ Request.attempted c t ⟨all, d₁, true⟩ :=
        mem_attempted_rebuild.2 (hq.imp_left (hsub q))
      obtain ⟨g, hg⟩ := h₁.declares hqa
      have hgf : g = f := Draft.oneFilePerPath_files h₁.drawn g (h₁.mem_of_declares hg) f
        (h₁.mem_of_declares ⟨ha, hf⟩) (path_eq_of_parts hpq hg.2 hf)
      rw [← hgf]
      exact Or.inr ⟨q, (mem_attempted_incremental ht rfl).2 hq, hg.2⟩
  · exact Or.inr ⟨path, (mem_attempted_incremental ht rfl).2 (Or.inr hext), hf⟩

/-- What the incremental run declares, the second rebuild declares as well. -/
theorem declares_rebuild_of_incremental (ht : t.isIncremental = true)
    (hsub : ∀ p ∈ changed, p ∈ all) {path : String} {f : GeneratedFile}
    (hd : Declares c t ⟨all, changed, false⟩ c₁ path f) :
    Declares c t ⟨all, d₁, true⟩ c₁ path f := by
  obtain ⟨ha, hf⟩ := hd
  refine ⟨?_, hf⟩
  rw [mem_attempted_incremental ht rfl] at ha
  exact mem_attempted_rebuild.2 (ha.imp_left (hsub path))

theorem noFailure_incremental (ht : t.isIncremental = true)
    (h₁ : RunsClean c t ⟨all, d₁, true⟩ c₁ files₁) (hsub : ∀ p ∈ changed, p ∈ all)
    (path : String) : ¬ FailsAt c t ⟨all, changed, false⟩ c₁ path := by
  rintro ⟨ha, he⟩
  rw [mem_attempted_incremental ht rfl] at ha
  exact h₁.noFailure path ⟨mem_attempted_rebuild.2 (ha.imp_left (hsub path)), he⟩

/-- The incremental run has files to store: some of those of the second rebuild. -/
theorem exists_incremental_files (ht : t.isIncremental = true)
    (h₁ : RunsClean c t ⟨all, d₁, true⟩ c₁ files₁) (hsub : ∀ p ∈ changed, p ∈ all) :
    ∃ part, RunsClean c t ⟨all, changed, false⟩ c₁ part ∧ ∀ f ∈ part, f ∈ files₁ := by
  have hno := noFailure_incremental ht h₁ hsub
  obtain ⟨index, hi, -⟩ := bind_eq_ok_iff.1 h₁.drawn
  have hindex : (Draft.make c t ⟨all, changed, false⟩ c₁).index = .ok index := by
    rw [← hi, index_make_of_noFailure hno, index_make_of_noFailure h₁.noFailure]
    rfl
  have hpart : ∀ f ∈ (Draft.make c t ⟨all, changed, false⟩ c₁).declared ++ index, f ∈ files₁ := by
    intro f hf
    rw [List.mem_append, Draft.mem_declared_make] at hf
    rw [h₁.mem_files hi]
    refine hf.imp_left ?_
    rintro ⟨path, hd⟩
    exact ⟨path, declares_rebuild_of_incremental ht hsub hd⟩
  have ho := (Draft.oneFilePerPath_files h₁.drawn).subset hpart
  obtain ⟨part, hd⟩ := exists_distinctFiles ho
  have hdrawn : (Draft.make c t ⟨all, changed, false⟩ c₁).files = .ok part := by
    rw [Draft.files, hindex]
    exact hd
  exact ⟨part, ⟨hdrawn, hno⟩, fun f hf => hpart f ((mem_of_distinctFiles hd f).1 hf)⟩

/-- What the incremental run does not declare is there from the first rebuild. -/
theorem regenerated_or_there (ht : t.isIncremental = true)
    (h₀ : RunsClean c t ⟨all, d₀, true⟩ c₀ files₀) (h₁ : RunsClean c t ⟨all, d₁, true⟩ c₁ files₁)
    (hsub : ∀ p ∈ changed, p ∈ all)
    (hc : ∀ p ∈ all, c₀ p ≠ c₁ p →
      ∃ q ∈ changed ++ c.externalArtifactPaths, pathParts q = pathParts p)
    {f : GeneratedFile} (hf : f ∈ files₁) :
    (∃ q, Declares c t ⟨all, changed, false⟩ c₁ q f) ∨
      store c.outputDirectory files₀ out (pathBelow c.outputDirectory f.path) =
        some f.contents := by
  obtain ⟨index, hi, -⟩ := bind_eq_ok_iff.1 h₁.drawn
  have ho := Draft.oneFilePerPath_files h₀.drawn
  rcases (h₁.mem_files hi f).1 hf with ⟨path, hd⟩ | hm
  · rcases unchanged_or_regenerated d₀ ht h₁ hsub hc hd with h | h
    · exact Or.inr (store_of_mem ho (h₀.mem_of_declares h))
    · exact Or.inl h
  · have hi₀ : (Draft.make c t ⟨all, d₀, true⟩ c₀).index = .ok index := by
      rw [← hi, index_make_of_noFailure h₀.noFailure, index_make_of_noFailure h₁.noFailure]
      rfl
    exact Or.inr (store_of_mem ho ((h₀.mem_files hi₀ f).2 (Or.inr hm)))

/-- Where a full rebuild left `S` without failures, and another one over the contents of now goes
without failures too, an incremental run that is told of the artifacts that hold something else now
does the same: it has no failures either, and leaves the same output.  Artifacts from outside of the
project need not be told, and any spelling of a path will do. -/
theorem incremental_eq_fullRebuild (ht : Target.ofConfig c = .ok t) (n₀ n₁ : Nat)
    (h₀ : (record (generate c t ⟨all, d₀, true⟩) c₀ out).1.result = .ok ⟨n₀, []⟩) {S : Output}
    (hS : (record (generate c t ⟨all, d₀, true⟩) c₀ out).2 = S)
    (h₁ : (record (generate c t ⟨all, d₁, true⟩) c₁ S).1.result = .ok ⟨n₁, []⟩)
    (hsub : ∀ p ∈ changed, p ∈ all)
    (hc : ∀ p ∈ all, c₀ p ≠ c₁ p →
      ∃ q ∈ changed ++ c.externalArtifactPaths, pathParts q = pathParts p) :
    (∃ n, (record (generate c t ⟨all, changed, false⟩) c₁ S).1.result = .ok ⟨n, []⟩) ∧
      (record (generate c t ⟨all, changed, false⟩) c₁ S).2 =
        (record (generate c t ⟨all, d₁, true⟩) c₁ S).2 := by
  have hi := isIncremental_ofConfig ht
  obtain ⟨files₀, hr₀, hs₀⟩ := exists_runsClean (isNeeded_fullRebuild rfl) h₀
  obtain ⟨files₁, hr₁, hs₁⟩ := exists_runsClean (isNeeded_fullRebuild rfl) h₁
  have ho := Draft.oneFilePerPath_files hr₁.drawn
  have hthere (f : GeneratedFile) (hf : f ∈ files₁) :
      (∃ q, Declares c t ⟨all, changed, false⟩ c₁ q f) ∨
        S (pathBelow c.outputDirectory f.path) = some f.contents := by
    rw [← hS, hs₀]
    exact regenerated_or_there hi hr₀ hr₁ hsub hc hf
  rw [hs₁]
  cases hn : Request.isNeeded c ⟨all, changed, false⟩ with
  | false =>
    obtain ⟨hr, -, hs⟩ := record_generate_idle (t := t) c₁ S hn
    refine ⟨⟨0, hr⟩, hs.trans ?_⟩
    show store c.outputDirectory [] S = _
    refine store_eq_of_rest ho (fun f hf => absurd hf List.not_mem_nil) fun f hf => ?_
    rcases hthere f hf with ⟨q, hd⟩ | h
    · rw [isNeeded_of_mem_attempted hi hd.1] at hn
      cases hn
    · exact Or.inr h
  | true =>
    obtain ⟨part, hp, hpart⟩ := exists_incremental_files hi hr₁ hsub
    obtain ⟨hr, -, hs⟩ := record_generate_ok S hn hp.drawn
    rw [Draft.failures_make_eq_nil_iff.2 hp.noFailure] at hr
    refine ⟨⟨part.length, hr⟩, ?_⟩
    rw [hs]
    refine store_eq_of_rest ho hpart fun f hf => ?_
    exact (hthere f hf).imp_left fun ⟨q, hd⟩ => hp.mem_of_declares hd

end

/-- An artifact without members gets a receive function; the other one stays as it is. -/
def withReceive : Contents := fun path =>
  if path = "A.json" then .ok r#"[{"type": "receive", "stateMutability": "payable"}]"#
  else .ok "[]"

/-- Only the artifact that is named as changed is generated again. -/
theorem incremental_eq_fullRebuild_withReceive :
    (record (generate {} .standard ⟨["A.json", "B.json"], ["A.json"], false⟩) withReceive
        (record (generate {} .standard ⟨["A.json", "B.json"], [], true⟩) (fun _ => .ok "[]")
          Output.empty).2).1.written = ["A.ts", "index.ts"] ∧
      (record (generate {} .standard ⟨["A.json", "B.json"], ["A.json"], false⟩) withReceive
        (record (generate {} .standard ⟨["A.json", "B.json"], [], true⟩) (fun _ => .ok "[]")
          Output.empty).2).2 =
      (record (generate {} .standard ⟨["A.json", "B.json"], [], true⟩) withReceive
        (record (generate {} .standard ⟨["A.json", "B.json"], [], true⟩) (fun _ => .ok "[]")
          Output.empty).2).2 := by
  refine ⟨by decide +kernel, ?_⟩
  refine (incremental_eq_fullRebuild ofConfig_standard 3 3
    (by decide +kernel) rfl (by decide +kernel) (by decide) ?_).2
  intro p hp hne
  refine ⟨"A.json", by decide, ?_⟩
  by_cases ha : p = "A.json"
  · rw [ha]
  · exact absurd (by simp [withReceive, ha]) hne

end AbiBindings
