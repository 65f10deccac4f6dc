import AbiBindings.Abi.Basic
import AbiBindings.Diagnostic
import AbiBindings.Json.Reader

/-!
# Reading ABIs

An ABI is an array of entries, or an artifact object that has such an array.  Entries whose type is
missing or no string are functions; entries of types that are not known are passed over.  Reading
stops at the first entry that cannot be read.
-/

namespace AbiBindings

/-! ## Faults -/

/-- Why data is no ABI. -/
inductive AbiFault where
  /-- The text is not JSON. -/
  | notJson
  /-- Neither an array nor an object. -/
  | notAnAbi
  /-- An artifact without an ABI. -/
  | missingAbi
  /-- The ABI of an artifact is no array. -/
  | notAnArray
  | unnamedFunction
  | unnamedEvent
  | unnamedError
  /-- A parameter, given by its name, without a type. -/
  | untypedParameter (name : String)
  deriving DecidableEq

def AbiFault.message : AbiFault → String
  | .notJson => "invalid JSON"
  | .notAnAbi => "ABI must be an array or an artifact object"
  | .missingAbi => "artifact has no 'abi' field"
  | .notAnArray => "ABI must be an array"
  | .unnamedFunction => "function must have a name"
  | .unnamedEvent => "event must have a name"
  | .unnamedError => "error must have a name"
  | .untypedParameter name => s!"parameter '{name}' must have a type"

def AbiFault.diagnostic (f : AbiFault) : Diagnostic := .malformedAbi f.message

/-! ## Parameters -/

/-- A spelling whose parameter may have components. -/
def mayHaveComponents (type : String) : Bool := "tuple".toList.isPrefixOf type.toList

/-- A parameter, given its components as they were read.  They matter only if the spelling of the
type starts like that of a tuple. -/
def parameterOf (v : Json) (components : Option (Except AbiFault (List AbiParameter))) :
    Except AbiFault AbiParameter :=
  let name := (v.stringField? "name").getD ""
  match v.stringField? "type" with
  | none => .error (.untypedParameter name)
  | some type =>
    let make := fun cs =>
      AbiParameter.mk name type (v.stringField? "internalType") cs (v.flag "indexed")
    if mayHaveComponents type then
      match components with
      | none => .ok (make none)
      | some cs => cs.map fun cs => make (some cs)
    else .ok (make none)

mutual

/-- A parameter with its components at any depth. -/
def readParameter : Json → Except AbiFault AbiParameter
  | .object fields => parameterOf (.object fields) (readComponents fields none)
  | v => parameterOf v none

/-- The components among the fields of a parameter: the last field of that name, if it is an
array.  `found` is what the fields before gave. -/
def readComponents : List (String × Json) → Option (Except AbiFault (List AbiParameter)) →
    Option (Except AbiFault (List AbiParameter))
  | [], found => found
  | (name, v) :: r, found =>
    readComponents r (if name = "components" then readArray v else found)

/-- The parameters of an array; other values hold none. -/
def readArray : Json → Option (Except AbiFault (List AbiParameter))
  | .array items => some (readParameters items)
  | _ => none

/-- Parameters in order, up to the first that cannot be read. -/
def readParameters : List Json → Except AbiFault (List AbiParameter)
  | [] => .ok []
  | v :: r => do
    let p ← readParameter v
    let ps ← readParameters r
    return p :: ps

end

/-- The parameters in a field of an entry; a field that is missing or no array holds none. -/
def readParameterField (name : String) (v : Json) : Except AbiFault (List AbiParameter) :=
  match v.arrayField? name with
  | none => .ok []
  | some items => readParameters items

/-! ## Entries -/

/-- How an entry that does not say it changes state, by the flags that older compilers wrote. -/
def legacyMutability (v : Json) : String :=
  if v.flag "constant" then "view" else if v.flag "payable" then "payable" else "nonpayable"

/-- A function or the constructor, given its name. -/
def readCallable (name : String) (v : Json) : Except AbiFault AbiFunction := do
  let inputs ← readParameterField "inputs" v
  let outputs ← readParameterField "outputs" v
  return ⟨name, inputs, outputs, (v.stringField? "stateMutability").getD (legacyMutability v)⟩

def readFunction (v : Json) : Except AbiFault AbiFunction :=
  match v.stringField? "name" with
  | none => .error .unnamedFunction
  | some name => readCallable name v

/-- The constructor, which needs no name. -/
def readConstructor (v : Json) : Except AbiFault AbiFunction :=
  readCallable ((v.stringField? "name").getD "constructor") v

def readEvent (v : Json) : Except AbiFault AbiEvent :=
  match v.stringField? "name" with
  | none => .error .unnamedEvent
  | some name => do
    let inputs ← readParameterField "inputs" v
    return ⟨name, inputs, v.flag "anonymous"⟩

def readError (v : Json) : Except AbiFault AbiError :=
  match v.stringField? "name" with
  | none => .error .unnamedError
  | some name => do
    let inputs ← readParameterField "inputs" v
    return ⟨name, inputs⟩

/-- The type of an entry. -/
def entryType (v : Json) : String := (v.stringField? "type").getD "function"

/-- Adds an entry to a definition. -/
def AbiDefinition.addEntry (d : AbiDefinition) (v : Json) : Except AbiFault AbiDefinition :=
  match entryType v with
  | "constructor" => (readConstructor v).map fun c => { d with constructor? := some c }
  | "function" => (readFunction v).map fun f => { d with functions := d.functions ++ [f] }
  | "event" => (readEvent v).map fun e => { d with events := d.events ++ [e] }
  | "error" => (readError v).map fun e => { d with errors := d.errors ++ [e] }
  | "fallback" => .ok { d with hasFallback := true }
  | "receive" => .ok { d with hasReceive := true }
  | _ => .ok d

/-- Whether entries of a type are passed over. -/
def isUnknownEntry (type : String) : Bool :=
  type ∉ ["constructor", "function", "event", "error", "fallback", "receive"]

/-- The definition that the entries of an array make. -/
def AbiDefinition.ofEntries (entries : List Json) : Except AbiFault AbiDefinition :=
  entries.foldlM AbiDefinition.addEntry {}

/-- The ABI among data: the array itself, or the field of an artifact, and the name that the
artifact records. -/
def AbiDefinition.ofJson : Json → Except AbiFault AbiDefinition
  | .array entries => AbiDefinition.ofEntries entries
  | .object fields =>
    match Json.lastField? "abi" fields with
    | none => .error .missingAbi
    | some (.array entries) =>
      (AbiDefinition.ofEntries entries).map fun d =>
        { d with contractName := (Json.object fields).stringField? "contractName" }
    | some _ => .error .notAnArray
  | _ => .error .notAnAbi

/-- The ABI in a text. -/
def AbiDefinition.parse (content : String) : Except AbiFault AbiDefinition :=
  match Json.parse? content with
  | none => .error .notJson
  | some v => AbiDefinition.ofJson v

/-! ## Passed-over entries -/

/-- The types of entries that are passed over, up to the first entry that cannot be read. -/
def skippedTypes : List Json → List String
  | [] => []
  | v :: r =>
    let type := entryType v
    if isUnknownEntry type then type :: skippedTypes r
    else
      match AbiDefinition.addEntry {} v with
      | .ok _ => skippedTypes r
      | .error _ => []

/-- The entries of an ABI among data, if there are any. -/
def entries : Json → List Json
  | .array items => items
  | .object fields =>
    match Json.lastField? "abi" fields with
    | some (.array items) => items
    | _ => []
  | _ => []

end AbiBindings
