import AbiBindings.Proofs.Generation.FullRebuild

/-!
# Histories of runs

Runs follow each other on one output, which starts empty; artifacts and what they hold change in
between.  A path is there in the end if some run that ended well stored it.  An index file dangles
exactly if it re-exports an artifact that the run did not generate, and that no run has generated at
this place: failures are not remembered from one run to the next.

    a path is there after a history ↔ a step of it stored the path      (isSome_outputAfter_iff)
    nothing dangles after a run ↔ what it kept was declared before      (resolves_after_iff)
    nothing fails, nothing moves → nothing dangles                      (kept_of_tracked)
-/

namespace AbiBindings

/-! ## Histories -/

/-- A request, and what artifacts hold while it is carried out. -/
structure Step where
  request : Request
  contents : Contents

/-- What a step does not name as changed was the same in the step before. -/
def Step.Tracks (before : Option Step) (s : Step) : Prop :=
  s.request.fullRebuild = true ∨
    ∀ path ∈ s.request.allArtifacts, path ∉ s.request.changedArtifacts →
      ∃ b, before = some b ∧ path ∈ b.request.allArtifacts ∧ b.contents path = s.contents path

/-- Every step is told of all that was added or modified since the one before. -/
inductive Tracked : List Step → Prop where
  | empty : Tracked []
  | step {past : List Step} {s : Step} (hp : Tracked past) (hs : s.Tracks past.getLast?) :
    Tracked (past ++ [s])

section
variable (c : Config) (t : Target)

/-- Carries out a step. -/
def Step.run (s : Step) (out : Output) : RunReport × Output :=
  record (generate c t s.request) s.contents out

/-- The output after a history. -/
def outputAfter (history : List Step) : Output :=
  history.foldl (fun out s => (s.run c t out).2) Output.empty

/-- A step stores a text at a path. -/
def Step.Stores (s : Step) (path : String) : Prop :=
  s.request.isNeeded c = true ∧ ∃ files, (Draft.make c t s.request s.contents).files = .ok files ∧
    ∃ f ∈ files, path = pathBelow c.outputDirectory f.path

/-- A step whose files can be drawn up declares an artifact at a path. -/
def Step.DeclaresAt (s : Step) (text : String) : Prop :=
  (∃ files, (Draft.make c t s.request s.contents).files = .ok files) ∧
    ∃ path f, Declares c t s.request s.contents path f ∧ f.path = text

/-- Everything that index files re-export is there. -/
def Resolves (indexes : List IndexFile) (out : Output) : Prop :=
  ∀ i ∈ indexes, ∀ e ∈ i.entries,
    (out (pathBelow c.outputDirectory (e.target i.directory))).isSome = true

/-- Where a step has something to do: what it neither attempts nor knows to have failed was declared
at its place by a step of the history. -/
def Step.Kept (history : List Step) (s : Step) : Prop :=
  s.request.isNeeded c = true → ∀ path ∈ s.request.everyArtifact c,
    path ∉ s.request.attempted c t → ¬ FailsAlike c t s.request s.contents path →
    ∀ text, placeArtifact (s.request.root c) path = .ok text → ∃ u ∈ history, u.DeclaresAt c t text

end

/-! ## Steps -/

variable {c : Config} {t : Target}

/-- One step adds what it stores, and takes nothing away. -/
theorem isSome_run_iff {s : Step} {out : Output} {path : String} :
    ((s.run c t out).2 path).isSome = true ↔ (out path).isSome = true ∨ s.Stores c t path := by
  unfold Step.run Step.Stores
  cases hn : s.request.isNeeded c with
  | false =>
    rw [(record_generate_idle _ _ hn).2.2]
    simp
  | true =>
    cases hf : (Draft.make c t s.request s.contents).files with
    | error e =>
      rw [(record_generate_error _ hn hf).2.2]
      simp
    | ok files =>
      rw [(record_generate_ok _ hn hf).2.2, isSome_store_iff]
      simp

theorem outputAfter_append (past : List Step) (s : Step) :
    outputAfter c t (past ++ [s]) = (s.run c t (outputAfter c t past)).2 := by
  rw [outputAfter, List.foldl_append]
  rfl

/-- What is there in the end was stored by one of the steps. -/
theorem isSome_outputAfter_iff {history : List Step} {path : String} :
    (outputAfter c t history path).isSome = true ↔ ∃ s ∈ history, s.Stores c t path := by
  induction history using List.reverseRecOn with
  | nil => simp [outputAfter, Output.empty]
  | append_singleton past s ih =>
    rw [outputAfter_append, isSome_run_iff, ih]
    simp only [List.mem_append, List.mem_singleton, or_and_right, exists_or, exists_eq_left]

/-! ## Places -/

/-- At a place there are only declarations, for it is no index file's. -/
theorem stores_place_iff (ht : Target.ofConfig c = .ok t) {s : Step} {p : Place} :
    s.Stores c t (pathBelow c.outputDirectory p.path) ↔ s.DeclaresAt c t p.path := by
  obtain ⟨places, hi, -⟩ := Draft.exists_places_make ht s.request s.contents
  constructor
  · rintro ⟨-, files, hf, f, hmem, hp⟩
    refine ⟨⟨files, hf⟩, ?_⟩
    rcases (Draft.mem_files hf hi f).1 hmem with hd | hd
    · obtain ⟨path, hd⟩ := Draft.mem_declared_make.1 hd
      exact ⟨path, f, hd, (pathBelow_injective hp).symm⟩
    · obtain ⟨i, hix, rfl⟩ := List.mem_map.1 hd
      have hseg : ∀ x ∈ i.directory, IsSegment x := fun x hx =>
        isSegment_of_mem_directoriesOf (mem_indexesOf.1 hix).1 hx
      exact absurd (pathBelow_injective hp) (p.path_ne_index hseg)
  · rintro ⟨⟨files, hf⟩, path, f, hd, hp⟩
    refine ⟨isNeeded_of_mem_attempted (isIncremental_ofConfig ht) hd.1, files, hf, f, ?_, ?_⟩
    · exact (Draft.mem_files hf hi f).2 (Or.inl (Draft.mem_declared_make.2 ⟨path, hd⟩))
    · rw [hp]

/-- Index files of places resolve if the places do: the other index files are there with them. -/
theorem resolves_indexesOf_iff {places : List Place} {out : Output}
    (hx : ∀ i ∈ indexesOf places,
      (out (pathBelow c.outputDirectory (i.directory.file "index.ts"))).isSome = true) :
    Resolves c (indexesOf places) out ↔
      ∀ p ∈ places, (out (pathBelow c.outputDirectory p.path)).isSome = true := by
  constructor
  · intro h p hp
    obtain ⟨i, hi, hd, he⟩ := exists_entry_of_mem hp
    have := h i hi _ he
    rwa [hd] at this
  · intro h i hi e he
    rcases target_cases hi he with ⟨p, hp, hpath⟩ | ⟨j, hj, hpath⟩
    · rw [hpath]
      exact h p hp
    · rw [hpath]
      exact hx j hj

/-- The places of a step are there if those that it does not generate are. -/
theorem places_declared_iff {history : List Step} {s : Step} {places : List Place}
    (hn : s.request.isNeeded c = true) (hs : s ∈ history)
    (hf : ∃ files, (Draft.make c t s.request s.contents).files = .ok files)
    (hp : ∀ p : Place, p ∈ places ↔ ∃ path ∈ s.request.everyArtifact c,
      ¬ FailsAlike c t s.request s.contents path ∧
        placeArtifact (s.request.root c) path = .ok p.path) :
    (∀ p ∈ places, ∃ u ∈ history, u.DeclaresAt c t p.path) ↔ s.Kept c t history := by
  constructor
  · intro h _ path hpath _ hfail text htext
    obtain ⟨p, rfl, -⟩ := exists_place htext
    exact h p ((hp p).2 ⟨path, hpath, hfail, htext⟩)
  · intro h p hmem
    obtain ⟨path, hpath, hfail, htext⟩ := (hp p).1 hmem
    by_cases ha : path ∈ s.request.attempted c t
    · rcases declares_or_failsAt s.contents ha with ⟨f, hd⟩ | hfa
      · exact ⟨s, hs, hf, path, f, hd, path_of_declared hd.2 htext⟩
      · exact absurd ⟨path, hfa, rfl⟩ hfail
    · exact h hn path hpath ha hfail p.path htext

/-! ## Histories without failures -/

/-- A step below a root at which nothing fails. -/
structure Step.Clean (c : Config) (t : Target) (root : List PathPart) (s : Step) : Prop where
  files : ∃ files, (Draft.make c t s.request s.contents).files = .ok files
  noFailure : ∀ path, ¬ FailsAt c t s.request s.contents path
  root_eq : s.request.root c = root

theorem Step.Clean.declaresAt {root : List PathPart} {s : Step} (h : s.Clean c t root)
    {path text : String} (ha : path ∈ s.request.attempted c t)
    (hp : placeArtifact root path = .ok text) : s.DeclaresAt c t text := by
  rcases declares_or_failsAt s.contents ha with ⟨f, hd⟩ | hf
  · refine ⟨h.files, path, f, hd, path_of_declared hd.2 ?_⟩
    rw [h.root_eq]
    exact hp
  · exact absurd hf (h.noFailure path)

theorem mem_attempted_or_unchanged (ht : t.isIncremental = true) {r : Request} {path : String}
    (h : path ∈ r.everyArtifact c) :
    path ∈ r.attempted c t ∨
      r.fullRebuild = false ∧ path ∈ r.allArtifacts ∧ path ∉ r.changedArtifacts := by
  cases hf : r.fullRebuild with
  | true => exact Or.inl (by rwa [attempted_fullRebuild hf])
  | false =>
    rw [mem_attempted_incremental ht hf]
    by_cases hc : path ∈ r.changedArtifacts
    · exact Or.inl (Or.inl hc)
    · rcases List.mem_append.1 h with hm | hm
      · exact Or.inr ⟨rfl, hm, hc⟩
      · exact Or.inl (Or.inr hm)

/-- The invariant: all artifacts of the last step have been declared at their places. -/
theorem declared_of_tracked (ht : t.isIncremental = true) {root : List PathPart}
    {history : List Step} (h : Tracked history) (hc : ∀ s ∈ history, s.Clean c t root)
    {s : Step} (hs : history.getLast? = some s) {path text : String}
    (hp : path ∈ s.request.everyArtifact c) (htext : placeArtifact root path = .ok text) :
    ∃ u ∈ history, u.DeclaresAt c t text := by
  induction h generalizing s with
  | empty => cases hs
  | @step past last _ htracks ih =>
    rw [List.getLast?_concat] at hs
    cases hs
    have hmem : last ∈ past ++ [last] := List.mem_append_right _ List.mem_cons_self
    rcases mem_attempted_or_unchanged ht hp with ha | ⟨hf, hall, hchanged⟩
    · exact ⟨last, hmem, (hc last hmem).declaresAt ha htext⟩
    · rcases htracks with hfull | hsame
      · rw [hf] at hfull
        cases hfull
      · obtain ⟨b, hb, hball, -⟩ := hsame path hall hchanged
        obtain ⟨u, hu, hd⟩ := ih (fun v hv => hc v (List.mem_append_left _ hv)) hb
          (List.mem_append_left _ hball)
        exact ⟨u, List.mem_append_left _ hu, hd⟩

/-- Where nothing fails and the root stays, index files do not dangle. -/
theorem kept_of_tracked (ht : t.isIncremental = true) {root : List PathPart}
    {history : List Step} (h : Tracked history) (hc : ∀ s ∈ history, s.Clean c t root)
    {s : Step} (hs : history.getLast? = some s) : s.Kept c t history := by
  intro _ path hp _ _ text htext
  rw [(hc s (List.mem_of_getLast? hs)).root_eq] at htext
  exact declared_of_tracked ht h hc hs hp htext

/-! ## Runs -/

/-- A step that ends well, after any history on an output that was empty, wrote the index files and
the declarations of what it attempted.  Everything that these index files re-export is there exactly
if what the step kept without attempting it was declared at its place by some step. -/
theorem resolves_after_iff (ht : Target.ofConfig c = .ok t) (past : List Step) (s : Step)
    {o : Outcome} (h : (s.run c t (outputAfter c t past)).1.result = .ok o) :
    ∃ indexes : List IndexFile,
      (∀ f, Wrote c (s.run c t (outputAfter c t past)) f ↔
        (∃ i ∈ indexes, i.file t.index = f) ∨
          ∃ path, Declares c t s.request s.contents path f) ∧
      (Resolves c indexes (outputAfter c t (past ++ [s])) ↔ s.Kept c t (past ++ [s])) := by
  cases hn : s.request.isNeeded c with
  | false =>
    refine ⟨[], fun f => ?_, ?_⟩
    · rw [Wrote, Step.run, (record_generate_idle _ _ hn).2.1]
      constructor
      · rintro ⟨hm, -⟩
        cases hm
      · rintro (⟨i, hi, -⟩ | ⟨path, hd⟩)
        · cases hi
        · rw [isNeeded_of_mem_attempted (isIncremental_ofConfig ht) hd.1] at hn
          cases hn
    · constructor
      · intro _ hn'
        rw [hn] at hn'
        cases hn'
      · intro _ i hi
        cases hi
  | true =>
    obtain ⟨files, hf⟩ := exists_files_of_result hn h
    obtain ⟨places, hi, hp⟩ := Draft.exists_places_make ht s.request s.contents
    refine ⟨indexesOf places, fun f => ?_, ?_⟩
    · rw [Step.run, wrote_iff hn hf, Draft.mem_files hf hi, Draft.mem_declared_make,
        List.mem_map, or_comm]
    · have hs : s ∈ past ++ [s] := List.mem_append_right _ List.mem_cons_self
      rw [← places_declared_iff hn hs ⟨files, hf⟩ hp, resolves_indexesOf_iff]
      · simp only [isSome_outputAfter_iff, stores_place_iff ht]
      · intro i hmem
        rw [isSome_outputAfter_iff]
        refine ⟨s, hs, hn, files, hf, i.file t.index, ?_, rfl⟩
        exact (Draft.mem_files hf hi _).2 (Or.inr (List.mem_map.2 ⟨i, hmem, rfl⟩))

/-- Two artifacts without members are generated, then one of them again. -/
def regenerated : List Step × Step :=
  ([⟨⟨["A.json", "B.json"], [], true⟩, fun _ => .ok "[]"⟩],
    ⟨⟨["A.json", "B.json"], ["B.json"], false⟩, fun _ => .ok "[]"⟩)

theorem regenerated_clean :
    ∀ s ∈ regenerated.1 ++ [regenerated.2], s.Clean {} .standard [] := by
  intro s hs
  simp only [regenerated, List.singleton_append, List.mem_cons, List.not_mem_nil, or_false] at hs
  rcases hs with rfl | rfl
  · exact ⟨exists_of_isOk (by decide +kernel),
      Draft.failures_make_eq_nil_iff.1 (by decide +kernel), by decide +kernel⟩
  · exact ⟨exists_of_isOk (by decide +kernel),
      Draft.failures_make_eq_nil_iff.1 (by decide +kernel), by decide +kernel⟩

/-- Nothing dangles after the second run, which only generates one of the artifacts. -/
theorem resolves_after_regenerated :
    (regenerated.2.run {} .standard (outputAfter {} .standard regenerated.1)).1.result =
      .ok ⟨2, []⟩ ∧
    ∃ indexes : List IndexFile,
      (∀ f, Wrote {} (regenerated.2.run {} .standard (outputAfter {} .standard regenerated.1)) f ↔
        (∃ i ∈ indexes, i.file Target.standard.index = f) ∨
          ∃ path, Declares {} .standard regenerated.2.request regenerated.2.contents path f) ∧
      Resolves {} indexes (outputAfter {} .standard (regenerated.1 ++ [regenerated.2])) := by
  have h : (regenerated.2.run {} .standard (outputAfter {} .standard regenerated.1)).1.result =
      .ok ⟨2, []⟩ := by
    decide +kernel
  have ht : Tracked (regenerated.1 ++ [regenerated.2]) := by
    refine .step (.step .empty (Or.inl rfl) : Tracked ([] ++ _)) (Or.inr ?_)
    intro path hp _
    exact ⟨_, rfl, hp, rfl⟩
  obtain ⟨indexes, hw, hr⟩ := resolves_after_iff ofConfig_standard regenerated.1 regenerated.2 h
  refine ⟨h, indexes, hw, hr.2 ?_⟩
  exact kept_of_tracked rfl ht regenerated_clean List.getLast?_concat

/-- An artifact is no ABI in both runs, and only named to the first one. -/
def forgotten : List Step × Step :=
  let contents : Contents := fun path => if path = "A.json" then .ok "[" else .ok "[]"
  ([⟨⟨["A.json", "B.json"], [], true⟩, contents⟩],
    ⟨⟨["A.json", "B.json"], ["B.json"], false⟩, contents⟩)

/-- The failure at `A` is forgotten in the second run, whose index file re-exports it. -/
theorem dangles_after_forgotten :
    Tracked (forgotten.1 ++ [forgotten.2]) ∧
    (forgotten.2.run {} .standard (outputAfter {} .standard forgotten.1)).1.result =
      .ok ⟨2, []⟩ ∧
    outputAfter {} .standard (forgotten.1 ++ [forgotten.2]) "typechain-types/index.ts" =
      some "export type { A } from './A';\nexport type { B } from './B';" ∧
    outputAfter {} .standard (forgotten.1 ++ [forgotten.2]) "typechain-types/A.ts" = none := by
  have h : Tracked (forgotten.1 ++ [forgotten.2]) := by
    refine .step (.step .empty (Or.inl rfl) : Tracked ([] ++ _)) (Or.inr ?_)
    intro path hp _
    exact ⟨_, rfl, hp, rfl⟩
  exact ⟨h, by decide +kernel, by decide +kernel, by decide +kernel⟩

end AbiBindings
