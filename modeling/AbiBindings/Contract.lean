import AbiBindings.EvmType.Check
import AbiBindings.EvmType.Parser
import AbiBindings.Keccak
import AbiBindings.Name.Overload
import AbiBindings.Struct.Collection

/-!
# Contracts

A contract is its ABI with the types given a structure, an identifier for every function, event and
error, and the structs that its signatures mention.  `Contract.ofAbi` builds it or reports the
first entry that is wrong, kind by kind: the constructor, then functions, events and errors, then
the structs of them all.
-/

namespace AbiBindings

/-! ## Types -/

/-- What deploying a contract takes. -/
structure ContractConstructor where
  stateMutability : String
  inputs : List Component

structure ContractFunction where
  name : String
  stateMutability : String
  inputs : List Component
  outputs : List Component
  identifier : String

/-- An input of an event; an indexed one can be searched by. -/
structure EventInput where
  name : String
  type : EvmType
  indexed : Bool

structure ContractEvent where
  name : String
  inputs : List EventInput
  anonymous : Bool
  identifier : String

structure ContractError where
  name : String
  inputs : List Component
  identifier : String

/-- All that the declarations of a contract are made from. -/
structure Contract where
  name : String
  constructor? : Option ContractConstructor
  functions : List ContractFunction
  events : List ContractEvent
  errors : List ContractError
  /-- Structs of the signatures, in order of first occurrence. -/
  structs : List StructType
  hasFallback : Bool
  hasReceive : Bool

/-! ## Signatures -/

/-- Name and canonical input types. -/
def signatureOf (name : String) (inputs : List EvmType) : String :=
  name ++ "(" ++ ",".intercalate (inputs.map EvmType.canonical) ++ ")"

namespace ContractFunction

def signature (f : ContractFunction) : String := signatureOf f.name (f.inputs.map (·.type))

/-- First four bytes of the signature's digest. -/
def selector (f : ContractFunction) : String := Keccak.hexDigest 4 f.signature

/-- Calls leave the state as it is. -/
def isConstant (f : ContractFunction) : Bool :=
  f.stateMutability == "view" || f.stateMutability == "pure"

end ContractFunction

namespace ContractEvent

def signature (e : ContractEvent) : String := signatureOf e.name (e.inputs.map (·.type))

/-- The signature's digest. -/
def topic (e : ContractEvent) : String := Keccak.hexDigest 32 e.signature

end ContractEvent

namespace ContractError

def signature (e : ContractError) : String := signatureOf e.name (e.inputs.map (·.type))

/-- First four bytes of the signature's digest. -/
def selector (e : ContractError) : String := Keccak.hexDigest 4 e.signature

end ContractError

/-- The types of all signatures, in declaration order. -/
def Contract.signatureTypes (c : Contract) : List EvmType :=
  (match c.constructor? with
    | some k => k.inputs.map (·.type)
    | none => []) ++
  c.functions.flatMap (fun f => f.inputs.map (·.type) ++ f.outputs.map (·.type)) ++
  c.events.flatMap (fun e => e.inputs.map (·.type)) ++
  c.errors.flatMap (fun e => e.inputs.map (·.type))

/-! ## From ABIs -/

/-- The type of a parameter; a failure is placed in the parameter if it has a name. -/
def parameterType (p : AbiParameter) : Checked EvmType :=
  Checked.withinNamed p.name ((EvmType.ofParameter p).mapError TypeFault.diagnostic)

/-- Parameters with their types. -/
def namedTypes (ps : List AbiParameter) : Checked (List Component) := do
  let cs ← ps.mapM fun p => do
    let t ← parameterType p
    return (⟨p.name, t⟩ : Component)
  checkNamed cs
  return cs

/-- An input of an event as a component. -/
def EventInput.component (i : EventInput) : Component := ⟨i.name, i.type⟩

/-- Inputs of an event with their types. -/
def eventInputs (ps : List AbiParameter) : Checked (List EventInput) := do
  let inputs ← ps.mapM fun p => do
    let t ← parameterType p
    return (⟨p.name, t, p.indexed⟩ : EventInput)
  checkNamed (inputs.map EventInput.component)
  return inputs

def ContractConstructor.ofAbi (c : AbiFunction) : Checked ContractConstructor := do
  let inputs ← Checked.within "constructor" (namedTypes c.inputs)
  return ⟨c.stateMutability, inputs⟩

def ContractFunction.ofAbi (f : AbiFunction) (identifier : String) : Checked ContractFunction := do
  let inputs ← Checked.within f.name (namedTypes f.inputs)
  let outputs ← Checked.within f.name (namedTypes f.outputs)
  return ⟨f.name, f.stateMutability, inputs, outputs, identifier⟩

def ContractEvent.ofAbi (e : AbiEvent) (identifier : String) : Checked ContractEvent := do
  let inputs ← Checked.within e.name (eventInputs e.inputs)
  return ⟨e.name, inputs, e.anonymous, identifier⟩

def ContractError.ofAbi (e : AbiError) (identifier : String) : Checked ContractError := do
  let inputs ← Checked.within e.name (namedTypes e.inputs)
  return ⟨e.name, inputs, identifier⟩

/-- Identifiers for the entries of one kind, then the entries themselves. -/
def identified {α β : Type} (kind : EntryKind) (name : α → String)
    (make : α → String → Checked β) (items : List α) : Checked (List β) := do
  let ids ← (resolveNames kind (items.map name)).mapError NameClash.diagnostic
  (items.zip ids).mapM fun (item, id) => make item id

/-- The contract of an ABI without its structs; failures are not placed in the contract yet. -/
def Contract.entriesOfAbi (name : String) (abi : AbiDefinition) : Checked Contract := do
  let constructor? ← abi.constructor?.mapM ContractConstructor.ofAbi
  let functions ← identified .function AbiFunction.name ContractFunction.ofAbi abi.functions
  let events ← identified .event AbiEvent.name ContractEvent.ofAbi abi.events
  let errors ← identified .error AbiError.name ContractError.ofAbi abi.errors
  return ⟨name, constructor?, functions, events, errors, [], abi.hasFallback, abi.hasReceive⟩

/-- Adds the structs of its signatures to a contract. -/
def Contract.withStructs (c : Contract) : Checked Contract := do
  let structs ← (StructCollection.ofTypes c.signatureTypes).mapError StructClash.diagnostic
  return { c with structs }

/-- The contract that an ABI describes. -/
def Contract.ofAbi (name : String) (abi : AbiDefinition) : Checked Contract :=
  Checked.within name (Contract.entriesOfAbi name abi >>= Contract.withStructs)

end AbiBindings
