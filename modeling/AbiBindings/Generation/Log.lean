import AbiBindings.Generation.Plan
import AbiBindings.Text.Terminal

/-!
# The log of a run

What a run says about itself: how many artifacts it takes, what it passes over, what it writes and
what fails.  Details are of the lowest level.
-/

namespace AbiBindings

/-! ## Entries -/

inductive LogLevel where
  | debug | info | warn
  deriving DecidableEq

def LogLevel.title : LogLevel → String
  | .debug => "DEBUG"
  | .info => "INFO"
  | .warn => "WARN"

structure LogEntry where
  level : LogLevel
  message : String
  deriving DecidableEq

def LogEntry.debug (message : String) : LogEntry := ⟨.debug, message⟩
def LogEntry.info (message : String) : LogEntry := ⟨.info, message⟩
def LogEntry.warn (message : String) : LogEntry := ⟨.warn, message⟩

/-- An entry with its level in front, fit for a terminal. -/
def LogEntry.text (e : LogEntry) : String := e.level.title ++ " " ++ Text.harmless e.message

/-! ## Layouts -/

/-- Opening words on a parameter of a layout's helper. -/
def helperStart (helper parameter : String) : String :=
  "Rendering helper: " ++ Text.quoted helper ++ r", params: [PathAndJson { relative_path: Some(" ++
    Text.quoted parameter ++ "), value: "

/-- Closing words on a layout's helper. -/
def helperEnd : String := r" }], hash: {}"

/-- What filling the layout of sections logs: the sections as a whole, then for each whether it is
the first, and its text. -/
def layoutLog (sections : List String) : List LogEntry :=
  let items := ", ".intercalate (sections.map fun s => "String(" ++ Text.quoted s ++ ")")
  let all := helperStart "each" "sections" ++ "Context(Array [" ++ items ++ "], [\"sections\"])"
  let each := sections.zipIdx.flatMap fun (_, i) =>
    [LogEntry.debug (helperStart "unless" "@first" ++ s!"Derived(Bool({i == 0}))" ++ helperEnd),
      LogEntry.debug "Rendering value: Path(Relative(([], \"this\")))"]
  LogEntry.debug (all ++ helperEnd) :: each

/-! ## Artifacts -/

/-- What an ABI logs whose contract was recorded under another name. -/
def recordedNameLog (path name : String) (abi : AbiDefinition) : List LogEntry :=
  match abi.contractName with
  | none => []
  | some recorded =>
    if recorded = name then []
    else [.debug s!"{path} records contract name '{recorded}', using '{name}'"]

/-- What the declarations of a contract log. -/
def contractLog (t : Target) (c : Contract) (path : String) : List LogEntry :=
  .debug s!"Rendering {c.name} to {path}" ::
    (match contractSections t.declarations c with
      | .ok sections => layoutLog sections
      | .error _ => [])

/-- What data logs that an artifact holds. -/
def artifactDataLog (t : Target) (root : List PathPart) (path name : String) (v : Json) :
    List LogEntry :=
  ((skippedTypes (entries v)).map fun type =>
    LogEntry.debug s!"Skipping ABI entry of unknown type '{type}'") ++
  (match AbiDefinition.ofJson v with
    | .error _ => []
    | .ok abi =>
      recordedNameLog path name abi ++
      (match Contract.ofAbi name abi, outputDirectoryOf root path with
        | .ok c, .ok d => contractLog t c (declarationPath d name)
        | _, _ => []))

/-- What an artifact logs. -/
def artifactLog (t : Target) (root : List PathPart) (read : Contents) (path : String) :
    List LogEntry :=
  match readArtifact read path, contractNameOf path with
  | .ok content, .ok name =>
    match Json.parse? content with
    | some v => artifactDataLog t root path name v
    | none => []
  | _, _ => []

/-! ## Runs -/

/-- What a pass logs. -/
def passLog (c : Config) (t : Target) (root : List PathPart) (read : Contents) (p : Pass) :
    List LogEntry :=
  .info (s!"Generating typings for: {p.artifacts.length} artifacts in dir: {c.outputDirectory}" ++
    s!" for target: {t.name}") ::
  p.artifacts.flatMap (artifactLog t root read)

/-- What is logged before anything is written. -/
def Draft.log (c : Config) (t : Target) (r : Request) (read : Contents) (d : Draft) :
    List LogEntry :=
  let root := commonRoot (r.everyArtifact c)
  (r.passes c t).flatMap (passLog c t root read) ++
  d.placed.filterMap (fun (path, place) =>
    match place with
    | .ok _ => none
    | .error e => some (.warn s!"Leaving {path} out of the index files: {e.text}")) ++
  (match d.index with
    | .ok files => [.debug s!"Assembled {files.length} index files"]
    | .error _ => [])

/-- What is logged after everything is written. -/
def Draft.closingLog (d : Draft) : List LogEntry :=
  d.results.map (fun p =>
    .info s!"Successfully generated {p.files.length} typings{p.pass.label}!") ++
  d.failures.map fun f => .warn s!"Failed to generate typings for {f.artifact}: {f.error.text}"

end AbiBindings
