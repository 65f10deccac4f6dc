import AbiBindings.CommandLine.Option

/-!
# Commands

The program generates declarations, removes them, or lists the targets.  A command line names one
command; paths on it are not empty.
-/

namespace AbiBindings.CommandLine

/-! ## Commands -/

/-- What is generated, and from which settings. -/
structure GenerateCommand where
  artifacts : List String
  changed : List String
  fullRebuild : Bool
  config : Option String
  outDir : Option String
  target : Option String

/-- What is removed. -/
structure CleanCommand where
  config : Option String
  outDir : Option String

inductive Command where
  | generate (c : GenerateCommand)
  | clean (c : CleanCommand)
  | targets

/-- What a command line asks for. -/
inductive Invocation where
  | run (verbose : Bool) (command : Command)
  | version
  | help
  | unreadable

/-! ## Options -/

def verboseOption : OptionSpec := ⟨"verbose", some 'v', .flag⟩
def versionOption : OptionSpec := ⟨"version", some 'V', .stop⟩
def helpOption : OptionSpec := ⟨"help", some 'h', .stop⟩
def configOption : OptionSpec := ⟨"config", some 'c', .value⟩
def outDirOption : OptionSpec := ⟨"out-dir", none, .value⟩

/-- Options before a command. -/
def programOptions : List OptionSpec := [verboseOption, versionOption, helpOption]

def generateOptions : List OptionSpec :=
  [⟨"changed", none, .values⟩, ⟨"full-rebuild", none, .flag⟩, configOption, outDirOption,
    ⟨"target", none, .value⟩, verboseOption, helpOption]

def cleanOptions : List OptionSpec := [configOption, outDirOption, verboseOption, helpOption]

def targetsOptions : List OptionSpec := [verboseOption, helpOption]

/-! ## Reading -/

/-- The paths of a list with commas between them. -/
def commaSeparated (s : String) : List String := (s.toList.splitOn ',').map String.ofList

/-- Arguments as a command, unless they ask for help.  What is wrong with arguments comes first, as
none are read after a request for help. -/
def withArguments (verbose : Bool) (specs : List OptionSpec) (operandsAllowed : Bool)
    (args : List String) (make : Arguments → Except Usage Command) : Invocation :=
  match readArguments specs args.length args with
  | .error _ => .unreadable
  | .ok a =>
    if !respectsForms a.given || !(operandsAllowed || a.operands.isEmpty) then .unreadable
    else
      match make a with
      | .error _ => .unreadable
      | .ok command =>
        if isGiven "help" a.given then .help else .run (verbose || isGiven "verbose" a.given) command

/-- Accepts paths that are not empty. -/
def checkPaths (paths : List String) : Except Usage Unit :=
  if paths.all (!·.isEmpty) then .ok () else .error .error

def generateCommand (a : Arguments) : Except Usage Command := do
  let changed := (valuesOf "changed" a.given).flatMap commaSeparated
  let config := valueOf? "config" a.given
  checkPaths (a.operands ++ changed ++ config.toList)
  return .generate {
    artifacts := a.operands
    changed
    fullRebuild := isGiven "full-rebuild" a.given
    config
    outDir := valueOf? "out-dir" a.given
    target := valueOf? "target" a.given }

def cleanCommand (a : Arguments) : Except Usage Command := do
  let config := valueOf? "config" a.given
  checkPaths config.toList
  return .clean ⟨config, valueOf? "out-dir" a.given⟩

/-- The names of the commands. -/
def commandNames : List String := ["generate", "clean", "targets", "help"]

/-- The command that arguments name. -/
def commandOf (verbose : Bool) : List String → Invocation
  | "generate" :: args => withArguments verbose generateOptions true args generateCommand
  | "clean" :: args => withArguments verbose cleanOptions false args cleanCommand
  | "targets" :: args => withArguments verbose targetsOptions false args fun _ => .ok .targets
  | ["help"] => .help
  | ["help", topic] => if topic ∈ commandNames then .help else .unreadable
  | _ => .unreadable

/-- What arguments ask for. -/
def Invocation.ofArguments (args : List String) : Invocation :=
  match readOptions programOptions args with
  | .error _ => .unreadable
  | .ok (given, rest) =>
    if !respectsForms given then .unreadable
    else if isGiven "version" given then .version
    else if isGiven "help" given then .help
    else commandOf (isGiven "verbose" given) rest

end AbiBindings.CommandLine
