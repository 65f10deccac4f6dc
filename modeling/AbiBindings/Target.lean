import AbiBindings.Config
import AbiBindings.Declaration.Contract
import AbiBindings.ModuleTree.Index

/-!
# Targets

A target is the client library that declarations are for: its table of type names, and how its
declaration and index files look.
-/

namespace AbiBindings

/-! ## Tables -/

/-- Names of version 5 of ethers: integers that fit a number come back as one, others as big
numbers. -/
def ethersV5 : TypeNames where
  input := {
    address := "string", boolean := "boolean", string := "string"
    bytes := "BytesLike", dynamicBytes := "BytesLike"
    integers := [⟨256, "BigNumberish"⟩] }
  output := {
    address := "string", boolean := "boolean", string := "string"
    bytes := "string", dynamicBytes := "string"
    integers := [⟨48, "number"⟩, ⟨256, "BigNumber"⟩] }
  imports := [⟨"ethers", ["BigNumber", "BigNumberish", "BytesLike"]⟩]

/-- Names of version 6 of ethers: integers come back as `bigint`. -/
def ethersV6 : TypeNames where
  input := {
    address := "AddressLike", boolean := "boolean", string := "string"
    bytes := "BytesLike", dynamicBytes := "BytesLike"
    integers := [⟨256, "BigNumberish"⟩] }
  output := {
    address := "string", boolean := "boolean", string := "string"
    bytes := "string", dynamicBytes := "string"
    integers := [⟨256, "bigint"⟩] }
  imports := [⟨"ethers", ["AddressLike", "BigNumberish", "BytesLike"]⟩]

/-- The tables by the identifier of their target, in order. -/
def presets : List (String × TypeNames) := [("ethers-v5", ethersV5), ("ethers-v6", ethersV6)]

/-- The identifiers of all targets. -/
def targetNames : List String := presets.map (·.1)

/-- The table of a target. -/
def preset? (name : String) : Option TypeNames := presets.lookup name

/-! ## Targets -/

/-- A target in use. -/
structure Target where
  name : String
  declarations : DeclarationOptions
  index : IndexOptions
  /-- A run may generate only what has changed. -/
  isIncremental : Bool

namespace Target

/-- The diagnostic of a target that does not exist. -/
def unknown (name : String) : Diagnostic :=
  let available := ", ".intercalate targetNames
  .configuration s!"unknown target '{name}', available targets: {available}"

/-- The target that settings select, with their table of names if they have one. -/
def ofConfig (c : Config) : Checked Target :=
  match preset? c.targetIdentifier with
  | none => .error (unknown c.targetIdentifier)
  | some table => do
    let names := c.typeNames.getD table
    Checked.within c.targetIdentifier names.validate
    return {
      name := c.targetIdentifier
      declarations := {
        typing := ⟨names, c.structInputSuffix, c.structOutputSuffix⟩
        alwaysBySignature := c.alwaysGenerateOverloads
        tellsContractName := c.discriminateUnionsByType }
      index := { typeOnly := c.typeOnlyBarrels, moduleSuffix := c.fileSuffix }
      isIncremental := true }

/-- The declaration file of a contract at a path. -/
def declarationFile (t : Target) (c : Contract) (path : String) : Checked GeneratedFile :=
  (contractFile t.declarations c).map fun contents => ⟨path, contents⟩

end Target

end AbiBindings
