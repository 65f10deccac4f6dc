/-!
# Contract ABIs as they are written

The entries of an ABI with their types still spelled out.  `Abi.Reader` reads them from data, and
`Contract` gives their types a structure.
-/

namespace AbiBindings

/-- A parameter, or a component of a parameter whose type is a tuple. -/
structure AbiParameter where
  /-- Empty if the parameter has no name. -/
  name : String
  /-- Spelling of the type. -/
  type : String
  /-- Name of the type in the contract's source, such as that of a struct. -/
  internalType : Option String
  components : Option (List AbiParameter)
  /-- Whether an event can be searched by the parameter. -/
  indexed : Bool

/-- A function, or the constructor. -/
structure AbiFunction where
  name : String
  inputs : List AbiParameter
  outputs : List AbiParameter
  stateMutability : String

structure AbiEvent where
  name : String
  inputs : List AbiParameter
  anonymous : Bool

structure AbiError where
  name : String
  inputs : List AbiParameter

/-- The entries of an ABI, each kind in declaration order. -/
structure AbiDefinition where
  /-- Name that the artifact records for the contract. -/
  contractName : Option String := none
  constructor? : Option AbiFunction := none
  functions : List AbiFunction := []
  events : List AbiEvent := []
  errors : List AbiError := []
  hasFallback : Bool := false
  hasReceive : Bool := false

end AbiBindings
