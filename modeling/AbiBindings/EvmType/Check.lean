import AbiBindings.Diagnostic
import AbiBindings.EvmType.Basic

/-!
# Structs with unnamed components

The components of a struct become fields, so each of them needs a name; those of a tuple without a
name do not.  `firstUnnamed?` looks for the first struct, in the order in which the types are
written, that has a component without a name.
-/

namespace AbiBindings

/-- A component without a name: the struct that has it, and its place there. -/
structure UnnamedComponent where
  struct : StructName
  position : Nat
  deriving DecidableEq

def UnnamedComponent.message (u : UnnamedComponent) : String :=
  s!"struct '{u.struct.text}' has an unnamed component at position {u.position}"

def UnnamedComponent.diagnostic (u : UnnamedComponent) : Diagnostic := .malformedAbi u.message

/-- The first component of a struct that has no name. -/
def unnamedPosition? (components : List Component) : Option Nat :=
  components.findIdx? fun c => c.name.isEmpty

namespace EvmType

mutual

/-- The first struct of a type with an unnamed component, outer structs before inner ones. -/
def firstUnnamed? : EvmType → Option UnnamedComponent
  | .leaf _ _ => none
  | .array element _ _ => firstUnnamed? element
  | .tuple components name _ =>
    let own := name.bind fun n => (unnamedPosition? components).map fun i => ⟨n, i⟩
    own.or (firstUnnamedIn? components)

/-- The first struct of several types with an unnamed component. -/
def firstUnnamedIn? : List (Named EvmType) → Option UnnamedComponent
  | [] => none
  | ⟨_, t⟩ :: r => (firstUnnamed? t).or (firstUnnamedIn? r)

end

end EvmType

/-- Accepts types whose structs have named components only. -/
def checkNamed (components : List Component) : Checked Unit :=
  match EvmType.firstUnnamedIn? components with
  | none => .ok ()
  | some u => .error u.diagnostic

end AbiBindings
