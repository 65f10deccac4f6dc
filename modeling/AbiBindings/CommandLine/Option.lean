/-!
# Options on a command line

Options have a long name and perhaps a letter; letters can be written together behind one dash.
The value of an option follows it, behind an equals sign or as the next argument.  Two dashes end
the options.  What is no option is an operand.
-/

namespace AbiBindings.CommandLine

/-! ## Options -/

/-- How an option is written. -/
inductive OptionForm where
  /-- Without a value, at most once. -/
  | flag
  /-- Without a value; nothing after it matters. -/
  | stop
  /-- With a value, at most once. -/
  | value
  /-- With a value, any number of times. -/
  | values
  deriving DecidableEq

/-- An option that a command knows. -/
structure OptionSpec where
  long : String
  letter : Option Char
  form : OptionForm

/-- An option that was given, with its value unless it is a flag. -/
structure Given where
  option : OptionSpec
  value : Option String

/-- Arguments in order of the command line. -/
structure Arguments where
  given : List Given
  operands : List String

/-- A command line that cannot be read. -/
inductive Usage where
  | error
  deriving DecidableEq

/-! ## Reading -/

/-- An argument that is an option: a dash and something after it. -/
def looksLikeOption (arg : String) : Bool :=
  match arg.toList with
  | '-' :: _ :: _ => true
  | _ => false

/-- The text before the first equals sign, and the text after it if there is one. -/
def splitEquals (s : List Char) : List Char × Option (List Char) :=
  match s.span (· != '=') with
  | (name, _ :: value) => (name, some value)
  | (name, []) => (name, none)

/-- What one argument gives. -/
inductive Step where
  /-- Options with all that belongs to them. -/
  | complete (given : List Given)
  /-- Options, the last of which takes the next argument as its value. -/
  | needsValue (given : List Given) (option : OptionSpec)

/-- An option by its long name, perhaps with a value. -/
def longOption (specs : List OptionSpec) (s : List Char) : Except Usage Step :=
  let (name, value) := splitEquals s
  match specs.find? fun o => o.long.toList == name with
  | none => .error .error
  | some o =>
    match o.form, value with
    | .flag, none | .stop, none => .ok (.complete [⟨o, none⟩])
    | .flag, some _ | .stop, some _ => .error .error
    | _, some v => .ok (.complete [⟨o, some (String.ofList v)⟩])
    | _, none => .ok (.needsValue [] o)

/-- Options by their letters, the last one perhaps with a value. -/
def letterOptions (specs : List OptionSpec) : List Char → Except Usage Step
  | [] => .ok (.complete [])
  | c :: r =>
    match specs.find? fun o => o.letter == some c with
    | none => .error .error
    | some o =>
      match o.form with
      | .flag =>
        (letterOptions specs r).map fun step =>
          match step with
          | .complete given => .complete (⟨o, none⟩ :: given)
          | .needsValue given next => .needsValue (⟨o, none⟩ :: given) next
      | .stop => .ok (.complete [⟨o, none⟩])
      | _ =>
        match r with
        | [] => .ok (.needsValue [] o)
        | '=' :: v => .ok (.complete [⟨o, some (String.ofList v)⟩])
        | v => .ok (.complete [⟨o, some (String.ofList v)⟩])

/-- What an option argument gives. -/
def optionStep (specs : List OptionSpec) (arg : String) : Except Usage Step :=
  match arg.toList with
  | '-' :: '-' :: name => longOption specs name
  | '-' :: letters => letterOptions specs letters
  | _ => .error .error

/-- Options up to the first operand or the end of the options, and the arguments that remain; the
end of the options remains with them. -/
def readOptions (specs : List OptionSpec) : List String → Except Usage (List Given × List String)
  | [] => .ok ([], [])
  | arg :: rest =>
    if arg = "--" || !looksLikeOption arg then .ok ([], arg :: rest)
    else
      match optionStep specs arg with
      | .error e => .error e
      | .ok (.complete given) =>
        if given.any fun g => g.option.form == .stop then .ok (given, [])
        else (readOptions specs rest).map fun (more, remaining) => (given ++ more, remaining)
      | .ok (.needsValue given option) =>
        match rest with
        | [] => .error .error
        | value :: rest =>
          if looksLikeOption value then .error .error
          else
            (readOptions specs rest).map fun (more, remaining) =>
              (given ++ ⟨option, some value⟩ :: more, remaining)

/-- Options and operands, at most `fuel` operands of them. -/
def readArguments (specs : List OptionSpec) (fuel : Nat) (args : List String) :
    Except Usage Arguments := do
  let (given, rest) ← readOptions specs args
  match fuel, rest with
  | _, [] => return ⟨given, []⟩
  | _, "--" :: operands => return ⟨given, operands⟩
  | 0, _ => throw .error
  | fuel + 1, operand :: rest =>
    let more ← readArguments specs fuel rest
    return ⟨given ++ more.given, operand :: more.operands⟩

/-! ## Values -/

/-- The values that an option was given. -/
def valuesOf (long : String) (given : List Given) : List String :=
  (given.filter fun g => g.option.long == long).filterMap (·.value)

/-- The value that an option was given, if it was. -/
def valueOf? (long : String) (given : List Given) : Option String := (valuesOf long given).head?

/-- A flag was given. -/
def isGiven (long : String) (given : List Given) : Bool :=
  given.any fun g => g.option.long == long

/-- No option was given more often than it may be. -/
def respectsForms (given : List Given) : Bool :=
  given.all fun g =>
    g.option.form == .values || (given.filter fun h => h.option.long == g.option.long).length ≤ 1

end AbiBindings.CommandLine
