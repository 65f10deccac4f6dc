import AbiBindings.Files.Path
import AbiBindings.Generation.Log

/-!
# Runs

A run reads the artifacts it needs, makes its plan, and writes the planned files below the output
directory; the first file that cannot be written ends it.  Cleaning removes the output directory.
-/

namespace AbiBindings

/-! ## Output -/

section
variable {m : Type → Type} [Monad m] [FileAccess m]

/-- Writes a file with the directories around it. -/
def writeFile (directory : String) (f : GeneratedFile) : m (Checked Unit) := do
  let path := pathBelow directory f.path
  let parent := directoryOf path
  match ← FileAccess.makeDirectories parent with
  | .error fault =>
    return .error (.io s!"Failed to create directory {parent}: {fault.message}")
  | .ok () =>
    match ← FileAccess.writeText path f.contents with
    | .error fault => return .error (.io s!"Failed to write {path}: {fault.message}")
    | .ok () => return .ok ()

/-- Files written before the first that could not be, and what kept that one from being. -/
structure Written where
  paths : List String
  failure : Option Diagnostic

/-- Writes files up to the first that cannot be. -/
def writeFiles (directory : String) : List GeneratedFile → m Written
  | [] => return ⟨[], none⟩
  | f :: rest => do
    match ← writeFile directory f with
    | .error e => return ⟨[], some e⟩
    | .ok () =>
      let w ← writeFiles directory rest
      return { w with paths := f.path :: w.paths }

/-! ## Runs -/

/-- What came of a run. -/
structure Outcome where
  filesGenerated : Nat
  failures : List Failure
  deriving DecidableEq

/-- An outcome, the paths that were written, and the log. -/
structure RunReport where
  result : Checked Outcome
  written : List String
  log : List LogEntry

/-- The contents of artifacts at this moment. -/
def snapshot (paths : List String) : m Contents := do
  let table ← paths.mapM fun path => return (path, ← FileAccess.readText path)
  return fun path => (table.lookup path).getD (.error .notFound)

/-- The log of files that were written. -/
def writtenLog (directory : String) (paths : List String) : List LogEntry :=
  paths.map fun path => .debug s!"Wrote {pathBelow directory path}"

/-- Carries out a request. -/
def generate (c : Config) (t : Target) (r : Request) : m RunReport := do
  if !r.isNeeded c then
    return ⟨.ok ⟨0, []⟩, [], [.info "No need to generate any newer typings."]⟩
  let read ← snapshot ((r.passes c t).flatMap Pass.artifacts)
  let draft := Draft.make c t r read
  let log := draft.log c t r read
  match draft.files with
  | .error e => return ⟨.error e, [], log⟩
  | .ok files =>
    let w ← writeFiles c.outputDirectory files
    let log := log ++ writtenLog c.outputDirectory w.paths
    match w.failure with
    | some e => return ⟨.error e, w.paths, log⟩
    | none => return ⟨.ok ⟨files.length, draft.failures⟩, w.paths, log ++ draft.closingLog⟩

/-! ## Cleaning -/

/-- Whether there was a directory to remove, and the log. -/
structure CleanReport where
  result : Checked Bool
  log : List LogEntry

/-- Removes a directory if it is there. -/
def clean (directory : String) : m CleanReport := do
  match ← FileAccess.isThere directory with
  | .error fault => return ⟨.error (.io fault.message), []⟩
  | .ok false => return ⟨.ok false, [.debug s!"Nothing to clean at {directory}"]⟩
  | .ok true =>
    match ← FileAccess.removeDirectory directory with
    | .error fault =>
      return ⟨.error (.io s!"Failed to remove {directory}: {fault.message}"), []⟩
    | .ok () => return ⟨.ok true, [.info s!"Removed {directory}"]⟩

/-! ## Settings -/

/-- The settings in a file. -/
def loadConfig (path : String) : m (Checked Config) := do
  match ← FileAccess.readText path with
  | .error fault => return .error (.configuration s!"cannot read {path}: {fault.message}")
  | .ok text => return Config.ofToml text

end

end AbiBindings
