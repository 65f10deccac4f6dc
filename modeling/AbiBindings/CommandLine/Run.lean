import AbiBindings.CommandLine.Command
import AbiBindings.Generation.Run

/-!
# Running commands

A command line is carried out where files can be reached, and leaves an exit code, what goes to the
standard output, the log and the errors.  Settings come from a file or the defaults, and options
replace them.
-/

namespace AbiBindings.CommandLine

/-! ## Reports -/

/-- What a command line leaves. -/
structure Report where
  exitCode : Nat
  output : String
  log : List LogEntry
  /-- Lines after the log. -/
  errors : List String

namespace Report

def success (output : String) (log : List LogEntry) : Report := ⟨0, output, log, []⟩

/-- The lines of a cause, set off by four spaces. -/
def causeLines (cause : String) : List String :=
  (cause.toList.splitOn '\n').map fun l => "    " ++ String.ofList l

/-- An error that ends the program, with what led to it if that is told apart. -/
def failure (log : List LogEntry) (error : String) (cause : Option String) : Report :=
  ⟨1, "", log,
    ("Error: " ++ error) :: (match cause with
      | some c => "" :: "Caused by:" :: causeLines c
      | none => [])⟩

/-- An error that ends the program. -/
def ofDiagnostic (log : List LogEntry) (d : Diagnostic) : Report := failure log d.text none

end Report

/-- The name of the program with its version. -/
def versionText : String := "abi-typegen 0.1.0"

/-- How command lines are written. -/
def usageLines : List String := [
  "Usage: abi-typegen [-v] generate [--changed <PATHS>] [--full-rebuild] [-c <CONFIG>]" ++
    " [--out-dir <DIR>] [--target <TARGET>] [ARTIFACTS]...",
  "       abi-typegen [-v] clean [-c <CONFIG>] [--out-dir <DIR>]",
  "       abi-typegen [-v] targets"]

/-- What the program is for and how it is called. -/
def helpText : String :=
  String.join (("Generate TypeScript declarations from contract ABIs" :: "" :: usageLines).map
    (· ++ "\n"))

/-! ## Commands -/

section
variable {m : Type → Type} [Monad m] [FileAccess m]

/-- The settings of a command: those of a file or the defaults, with another output directory if
one is given.  A failure is given with the path of the file. -/
def settings (config outDir : Option String) : m (Except (String × Diagnostic) Config) := do
  let loaded : Except (String × Diagnostic) Config ← match config with
    | none => pure (Except.ok {})
    | some path => return (← loadConfig path).mapError fun d => (path, d)
  return loaded.map fun c => { c with outputDirectory := outDir.getD c.outputDirectory }

/-- The report of settings that could not be loaded. -/
def settingsFailure (e : String × Diagnostic) : Report :=
  .failure [] ("Failed to load config from " ++ e.1) (some e.2.text)

/-- The report of a run. -/
def reportOfRun (r : RunReport) : Report :=
  match r.result with
  | .error d => .ofDiagnostic r.log d
  | .ok outcome =>
    ⟨if outcome.failures.isEmpty then 0 else 1, "", r.log,
      outcome.failures.map fun f => f.artifact ++ ": " ++ f.error.text⟩

/-- Generates declarations. -/
def runGenerate (c : GenerateCommand) : m Report := do
  match ← settings c.config c.outDir with
  | .error e => return settingsFailure e
  | .ok loaded =>
    let config := { loaded with targetIdentifier := c.target.getD loaded.targetIdentifier }
    match config.validate >>= fun _ => Target.ofConfig config with
    | .error d => return .ofDiagnostic [] d
    | .ok target =>
      return reportOfRun (← generate config target ⟨c.artifacts, c.changed, c.fullRebuild⟩)

/-- Removes the output directory. -/
def runClean (c : CleanCommand) : m Report := do
  match ← settings c.config c.outDir with
  | .error e => return settingsFailure e
  | .ok config =>
    let r ← clean config.outputDirectory
    match r.result with
    | .error d => return .ofDiagnostic r.log d
    | .ok removed => return .success (if removed then "" else "Nothing to clean.\n") r.log

/-- Lists the targets. -/
def targetsReport : Report := .success (String.join (targetNames.map (· ++ "\n"))) []

/-- The entries of a log that are shown. -/
def shownLog (verbose : Bool) (log : List LogEntry) : List LogEntry :=
  log.filter fun e => verbose || e.level != .debug

/-- Carries out a command line. -/
def run (args : List String) : m Report := do
  match Invocation.ofArguments args with
  | .unreadable => return ⟨2, "", [], usageLines⟩
  | .version => return .success (versionText ++ "\n") []
  | .help => return .success helpText []
  | .run verbose command =>
    let report ← match command with
      | .generate c => runGenerate c
      | .clean c => runClean c
      | .targets => pure targetsReport
    return { report with log := shownLog verbose report.log }

end

end AbiBindings.CommandLine
