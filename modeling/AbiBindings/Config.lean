import AbiBindings.Json.Basic
import AbiBindings.Toml.Reader
import AbiBindings.TypeNames

/-!
# Configuration

What a run is told beforehand.  A configuration is read from data, where missing fields have their
defaults and unknown ones are passed over, and checked before it is used.
-/

namespace AbiBindings

/-! ## Settings -/

/-- The settings of a run. -/
structure Config where
  /-- Where generated files are written. -/
  outputDirectory : String := "typechain-types"
  /-- The client library that declarations are for. -/
  targetIdentifier : String := "ethers-v5"
  /-- All functions and events have an entry under their signature, not only overloaded ones. -/
  alwaysGenerateOverloads : Bool := false
  /-- The contract's type has a field with the contract's name. -/
  discriminateUnionsByType : Bool := false
  /-- Added to the names of structs that are passed. -/
  structInputSuffix : String := "Struct"
  /-- Added to the names of structs that come back. -/
  structOutputSuffix : String := "StructOutput"
  /-- Added to the path of every imported module. -/
  fileSuffix : String := ""
  /-- Index files re-export types only. -/
  typeOnlyBarrels : Bool := true
  /-- Artifacts outside of the project that every run generates. -/
  externalArtifactPaths : List String := []
  /-- Replaces the names of the client library. -/
  typeNames : Option TypeNames := none
  deriving DecidableEq

/-! ## Checks -/

/-- Why settings cannot be used. -/
inductive ConfigFault where
  | noOutputDirectory
  | noTarget
  | noStructSuffix
  | equalStructSuffixes (suffix : String)
  deriving DecidableEq

def ConfigFault.message : ConfigFault → String
  | .noOutputDirectory => "outputDirectory must not be empty"
  | .noTarget => "targetIdentifier must not be empty"
  | .noStructSuffix => "struct postfixes must not be empty"
  | .equalStructSuffixes suffix =>
    s!"structInputPostfix and structOutputPostfix are both '{suffix}'"

/-- The settings other than the table of names can be used. -/
def Config.check (c : Config) : Except ConfigFault Unit :=
  if Text.isBlankText c.outputDirectory then .error .noOutputDirectory
  else if Text.isBlankText c.targetIdentifier then .error .noTarget
  else if c.structInputSuffix.isEmpty || c.structOutputSuffix.isEmpty then .error .noStructSuffix
  else if c.structInputSuffix = c.structOutputSuffix then
    .error (.equalStructSuffixes c.structInputSuffix)
  else .ok ()

/-- The settings can be used. -/
def Config.validate (c : Config) : Checked Unit := do
  c.check.mapError fun f => Diagnostic.configuration f.message
  match c.typeNames with
  | some names => Checked.within "typeNames" names.validate
  | none => return ()

/-! ## Reading -/

namespace Config

/-- A record among data: an object, or an array of its fields in order.  An array may hold more
items than there are fields only if `spare` allows it. -/
def record? (spare : Bool) (names : List String) : Json → Option Json
  | .object fields => some (.object fields)
  | .array items =>
    if spare || items.length ≤ names.length then some (.object (names.zip items)) else none
  | _ => none

/-- A field that has to be there. -/
def required {α : Type} (name : String) (read : Json → Option α) (v : Json) : Option α :=
  (v.field? name).bind read

/-- A field with a default. -/
def optional {α : Type} (name : String) (read : Json → Option α) (default : α) (v : Json) :
    Option α :=
  match v.field? name with
  | some x => read x
  | none => some default

/-- An array of values of one kind. -/
def readList {α : Type} (read : Json → Option α) (v : Json) : Option (List α) :=
  v.array?.bind fun items => items.mapM read

/-- A width of at most 16 bits. -/
def readWidth (v : Json) : Option Nat :=
  v.integer?.bind fun n => if 0 ≤ n ∧ n < 0x10000 then some n.toNat else none

def readBucket (spare : Bool) (v : Json) : Option IntegerBucket := do
  let v ← record? spare ["maxBits", "name"] v
  return {
    maxBits := ← required "maxBits" readWidth v
    name := ← required "name" Json.string? v }

def readLeafNames (spare : Bool) (v : Json) : Option LeafNames := do
  let v ← record? spare ["address", "boolean", "string", "bytes", "dynamicBytes", "integers"] v
  return {
    address := ← required "address" Json.string? v
    boolean := ← required "boolean" Json.string? v
    string := ← required "string" Json.string? v
    bytes := ← required "bytes" Json.string? v
    dynamicBytes := ← required "dynamicBytes" Json.string? v
    integers := ← required "integers" (readList (readBucket spare)) v }

def readImport (spare : Bool) (v : Json) : Option TypeImport := do
  let v ← record? spare ["module", "names"] v
  return {
    module := ← required "module" Json.string? v
    names := ← required "names" (readList Json.string?) v }

def readTypeNames (spare : Bool) (v : Json) : Option TypeNames := do
  let v ← record? spare ["input", "output", "imports"] v
  return {
    input := ← required "input" (readLeafNames spare) v
    output := ← required "output" (readLeafNames spare) v
    imports := ← optional "imports" (readList (readImport spare)) [] v }

/-- A table of names, or none. -/
def readOptionalNames (spare : Bool) : Json → Option (Option TypeNames)
  | .null => some none
  | v => (readTypeNames spare v).map some

/-- The settings among the fields of an object. -/
def ofObject? (spare : Bool) (v : Json) : Option Config := do
  let d : Config := {}
  return {
    outputDirectory := ← optional "outputDirectory" Json.string? d.outputDirectory v
    targetIdentifier := ← optional "targetIdentifier" Json.string? d.targetIdentifier v
    alwaysGenerateOverloads :=
      ← optional "alwaysGenerateOverloads" Json.bool? d.alwaysGenerateOverloads v
    discriminateUnionsByType :=
      ← optional "discriminateUnionsByType" Json.bool? d.discriminateUnionsByType v
    structInputSuffix := ← optional "structInputPostfix" Json.string? d.structInputSuffix v
    structOutputSuffix := ← optional "structOutputPostfix" Json.string? d.structOutputSuffix v
    fileSuffix := ← optional "fileSuffix" Json.string? d.fileSuffix v
    typeOnlyBarrels := ← optional "typeOnlyBarrels" Json.bool? d.typeOnlyBarrels v
    externalArtifactPaths :=
      ← optional "externalArtifactPaths" (readList Json.string?) d.externalArtifactPaths v
    typeNames := ← optional "typeNames" (readOptionalNames spare) d.typeNames v }

/-- The settings among JSON data, which have to be an object. -/
def ofJson? : Json → Option Config
  | .object fields => ofObject? false (.object fields)
  | _ => none

/-- The settings among JSON data. -/
def ofJson (v : Json) : Checked Config :=
  match ofJson? v with
  | some c => .ok c
  | none => .error (.serialization "JSON serialization error")

/-- The settings in a TOML document.  Arrays that stand for records may be too long there. -/
def ofToml (text : String) : Checked Config :=
  match (Toml.parse? text).bind (ofObject? true) with
  | some c => .ok c
  | none => .error (.serialization "TOML parsing error")

end Config

end AbiBindings
