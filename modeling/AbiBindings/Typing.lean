import AbiBindings.TypeNames
import AbiBindings.TypeScript.Type

/-!
# Types of values

An ABI type has two TypeScript types: the widest one that a caller may pass, and the exact one of
what comes back, where a tuple is positional with its named components on top.  Structs are
referred to by name or spelled out.
-/

namespace AbiBindings

/-! ## Tables in use -/

/-- Which way a value goes. -/
inductive Direction where
  | input | output
  deriving DecidableEq

/-- A table of names and what struct names end in. -/
structure Typing where
  names : TypeNames
  inputSuffix : String
  outputSuffix : String

namespace Typing

/-- The names of leaves in a direction. -/
def leafNames (y : Typing) : Direction → LeafNames
  | .input => y.names.input
  | .output => y.names.output

/-- What struct names end in, in a direction. -/
def suffix (y : Typing) : Direction → String
  | .input => y.inputSuffix
  | .output => y.outputSuffix

end Typing

/-- An integer, as it was spelled, that no bucket of a table covers. -/
structure UncoveredInteger where
  spelling : String
  deriving DecidableEq

def UncoveredInteger.diagnostic (u : UncoveredInteger) : Diagnostic :=
  .configuration s!"no integer type name covers '{u.spelling}'"

/-- The name of an integer in a table. -/
def LeafNames.integer (bits : Nat) (spelling : String) (l : LeafNames) :
    Except UncoveredInteger String :=
  match l.integer? bits with
  | some name => .ok name
  | none => .error ⟨spelling⟩

/-- The name of a leaf in a table. -/
def LeafNames.nameOf (l : LeafNames) (spelling : String) : Leaf → Except UncoveredInteger String
  | .address => .ok l.address
  | .bool => .ok l.boolean
  | .string => .ok l.string
  | .uint bits | .int bits => l.integer bits spelling
  | .fixedBytes _ => .ok l.bytes
  | .bytes => .ok l.dynamicBytes

/-! ## Shapes -/

/-- Longest array that is written as a tuple. -/
def maxTupleLength : Nat := 64

section
variable {ν : Type}

/-- An array of elements of a type. -/
def arrayType (size : Option Nat) (element : TsExpr ν) : TsExpr ν :=
  match size with
  | some n => if n ≤ maxTupleLength then .tuple (List.replicate n element) else .array element
  | none => .array element

/-- A tuple that is passed: an object, unless a component has no name. -/
def inputTuple (components : List (Named (TsExpr ν))) : TsExpr ν :=
  if components.any (·.name.isEmpty) then .tuple (components.map (·.type)) else .object components

/-- A tuple that comes back: its positions, and an object of the components with names. -/
def outputTuple (components : List (Named (TsExpr ν))) : TsExpr ν :=
  let positions := TsExpr.tuple (components.map (·.type))
  let fields := components.filter fun c => !c.name.isEmpty
  if fields.isEmpty then positions else .both positions (.object fields)

/-- A tuple in a direction. -/
def tupleType : Direction → List (Named (TsExpr ν)) → TsExpr ν
  | .input => inputTuple
  | .output => outputTuple

end

/-! ## Types -/

namespace Typing

mutual

/-- The type of a value.  With `useStructs`, structs are referred to by name. -/
def typeOf (y : Typing) (d : Direction) (useStructs : Bool) :
    EvmType → Except UncoveredInteger TsType
  | .leaf kind spelling => ((y.leafNames d).nameOf spelling kind).map TsExpr.named
  | .array element size _ => (typeOf y d useStructs element).map (arrayType size)
  | .tuple components name _ =>
    match name, useStructs with
    | some n, true => .ok (.named (n.qualified (y.suffix d)))
    | _, _ => (typesOf y d useStructs components).map (tupleType d)

/-- The types of components, up to the first that has none. -/
def typesOf (y : Typing) (d : Direction) (useStructs : Bool) :
    List (Named EvmType) → Except UncoveredInteger (List (Named TsType))
  | [] => .ok []
  | ⟨name, t⟩ :: rest => do
    let u ← typeOf y d useStructs t
    let us ← typesOf y d useStructs rest
    return ⟨name, u⟩ :: us

end

/-- The type of a tuple of components. -/
def tupleOf (y : Typing) (d : Direction) (useStructs : Bool) (components : List Component) :
    Except UncoveredInteger TsType :=
  (typesOf y d useStructs components).map (tupleType d)

/-- The type of a value with structs by name, as text. -/
def typeText (y : Typing) (d : Direction) (t : EvmType) : Checked String :=
  ((y.typeOf d true t).map TsType.text).mapError UncoveredInteger.diagnostic

/-- The type of a tuple of components with structs by name, as text. -/
def tupleText (y : Typing) (d : Direction) (components : List Component) : Checked String :=
  ((y.tupleOf d true components).map TsType.text).mapError UncoveredInteger.diagnostic

/-! ## Calls -/

/-- The label of an argument; the ones without a name are numbered. -/
def argumentLabel (name : String) (index : Nat) : String :=
  if name.isEmpty then "arg" ++ toString index else name

/-- A component and its type in a direction; a failure is placed in the component. -/
def memberType (y : Typing) (d : Direction) (c : Component) : Checked String :=
  Checked.withinNamed c.name (y.typeText d c.type)

/-- The arguments of a call. -/
def argumentsText (y : Typing) (inputs : List Component) : Checked String := do
  let items ← inputs.zipIdx.mapM fun (c, i) => do
    let t ← y.memberType .input c
    return memberText (argumentLabel c.name i) t
  return bracketed items

/-- The result of a call: nothing, the only output, or the tuple of all outputs. -/
def resultText (y : Typing) : List Component → Checked String
  | [] => .ok "void"
  | [single] => y.memberType .output single
  | many => y.tupleText .output many

end Typing

end AbiBindings
