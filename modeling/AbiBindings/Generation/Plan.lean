import AbiBindings.Generation.Artifact

/-!
# The plan of a run

A run generates the declarations of the artifacts that have changed, or of all, and the index files
of all that did not fail.  Nothing is planned if two files of different contents claim one path.
The plan depends on settings, request and contents only; `Generation.Run` carries it out.

    mergeFiles known files = .ok fs → (f ∈ fs ↔ f ∈ known ∨ f ∈ files)     (mem_of_mergeFiles)
-/

namespace AbiBindings

/-! ## Requests -/

/-- What a run is asked to do. -/
structure Request where
  /-- All artifacts of the project. -/
  allArtifacts : List String
  /-- Those that have changed since the last run. -/
  changedArtifacts : List String
  /-- Generate all, whatever has changed. -/
  fullRebuild : Bool

/-- Artifacts that are generated together, and what the log calls them. -/
structure Pass where
  label : String
  artifacts : List String

/-- All artifacts of a run, with those outside of the project. -/
def Request.everyArtifact (c : Config) (r : Request) : List String :=
  r.allArtifacts ++ c.externalArtifactPaths

/-- There is something to generate. -/
def Request.isNeeded (c : Config) (r : Request) : Bool :=
  r.fullRebuild || !r.changedArtifacts.isEmpty || !c.externalArtifactPaths.isEmpty

/-- What is generated: everything at once, or what has changed and then what is outside of the
project. -/
def Request.passes (c : Config) (t : Target) (r : Request) : List Pass :=
  if r.fullRebuild || !t.isIncremental then [⟨"", r.everyArtifact c⟩]
  else if c.externalArtifactPaths.isEmpty then [⟨"", r.changedArtifacts⟩]
  else [⟨"", r.changedArtifacts⟩, ⟨" for external artifacts", c.externalArtifactPaths⟩]

/-! ## Passes -/

/-- An artifact without declarations, and why. -/
structure Failure where
  artifact : String
  error : Diagnostic
  deriving DecidableEq

/-- The declarations of a pass, artifact by artifact. -/
structure PassResult where
  pass : Pass
  results : List (String × Checked GeneratedFile)

/-- Generates the declarations of a pass. -/
def Pass.run (t : Target) (root : List PathPart) (read : Contents) (p : Pass) : PassResult :=
  ⟨p, p.artifacts.map fun path => (path, declareArtifact t root read path)⟩

/-- The files that were generated. -/
def PassResult.files (p : PassResult) : List GeneratedFile :=
  p.results.filterMap fun r => r.2.toOption

/-- The artifacts that failed. -/
def PassResult.failures (p : PassResult) : List Failure :=
  p.results.filterMap fun r =>
    match r.2 with
    | .ok _ => none
    | .error e => some ⟨r.1, e⟩

/-! ## Files -/

/-- Order of files by path. -/
def fileLt (a b : GeneratedFile) : Bool := textLt a.path b.path

/-- Adds files to those known, in order of paths.  A path may come again with the same contents. -/
def mergeFiles (known : List GeneratedFile) : List GeneratedFile → Checked (List GeneratedFile)
  | [] => .ok known
  | f :: rest =>
    match known.find? fun k => k.path == f.path with
    | some k =>
      if k.contents = f.contents then mergeFiles known rest else .error (.pathCollision f.path)
    | none => mergeFiles (insertDistinct fileLt f known) rest

/-- Files in order of paths, each once. -/
def distinctFiles (files : List GeneratedFile) : Checked (List GeneratedFile) := mergeFiles [] files

/-! ## Plans -/

/-- A run before anything is written. -/
structure Draft where
  results : List PassResult
  /-- Where the declarations of all artifacts lie that did not fail. -/
  placed : List (String × Checked String)
  /-- The index files. -/
  index : Checked (List GeneratedFile)

namespace Draft

/-- The artifacts that failed, pass by pass. -/
def failures (d : Draft) : List Failure := d.results.flatMap PassResult.failures

/-- The files to write, or why nothing is written. -/
def files (d : Draft) : Checked (List GeneratedFile) := do
  let index ← d.index
  distinctFiles (d.results.flatMap PassResult.files ++ index)

/-- The draft of a run. -/
def make (c : Config) (t : Target) (r : Request) (read : Contents) : Draft :=
  let every := r.everyArtifact c
  let root := commonRoot every
  let results := (r.passes c t).map (Pass.run t root read)
  let failed := (results.flatMap PassResult.failures).map fun f => pathParts f.artifact
  let remaining := every.filter fun path => !failed.contains (pathParts path)
  let placed := remaining.map fun path => (path, placeArtifact root path)
  ⟨results, placed, indexFilesOf t.index (placed.filterMap fun p => p.2.toOption)⟩

end Draft

/-! ## Lemmas -/

theorem mem_of_mergeFiles {known files merged : List GeneratedFile}
    (h : mergeFiles known files = .ok merged) (f : GeneratedFile) :
    f ∈ merged ↔ f ∈ known ∨ f ∈ files := by
  induction files generalizing known with
  | nil => simp only [mergeFiles, Except.ok.injEq] at h; simp [h]
  | cons g rest ih =>
    unfold mergeFiles at h
    split at h
    · rename_i k hk
      split at h
      · rename_i hc
        have hmem := List.mem_of_find?_eq_some hk
        have hpath := List.find?_some hk
        simp only [beq_iff_eq] at hpath
        have hkg : k = g := by
          obtain ⟨kp, kc⟩ := k
          obtain ⟨gp, gc⟩ := g
          simp_all
        rw [ih h, List.mem_cons]
        subst hkg
        constructor
        · rintro (h | h)
          · exact Or.inl h
          · exact Or.inr (Or.inr h)
        · rintro (h | rfl | h)
          · exact Or.inl h
          · exact Or.inl hmem
          · exact Or.inr h
      · simp at h
    · rw [ih h, mem_insertDistinct, List.mem_cons]
      constructor <;> (rintro (h | h) <;> simp_all) <;> (rcases h with h | h <;> simp [h])

end AbiBindings
