import AbiBindings.Struct.Namespaces
import AbiBindings.TypeScript.Statement
import AbiBindings.Typing

/-!
# Declarations of structs

Every struct has an alias for each direction.  Structs at the top level come first, then a
namespace for each owner.
-/

namespace AbiBindings

/-- The alias of a struct in a direction. -/
def structAlias (y : Typing) (d : Direction) (s : StructType) : Checked TypeAlias := do
  let text ← y.tupleText d s.components
  return ⟨s.name.identifier ++ y.suffix d, .type text⟩

/-- The aliases of a struct; a failure is placed in the struct. -/
def structAliases (y : Typing) (s : StructType) : Checked (List TypeAlias) :=
  Checked.within s!"struct {s.name.text}" do
    let input ← structAlias y .input s
    let output ← structAlias y .output s
    return [input, output]

/-- The aliases of several structs. -/
def aliasesOfStructs (y : Typing) (structs : List StructType) : Checked (List TypeAlias) :=
  (structs.mapM (structAliases y)).map List.flatten

/-- The namespace of an owner. -/
def namespaceStatement (y : Typing) (g : String × List StructType) : Checked Statement :=
  (aliasesOfStructs y g.2).map (.module g.1)

/-- The declarations of structs. -/
def structStatements (y : Typing) (structs : List StructType) : Checked (List Statement) := do
  let groups := NamespaceGroups.ofStructs structs
  let topLevel ← aliasesOfStructs y groups.topLevel
  let namespaces ← groups.namespaces.mapM (namespaceStatement y)
  return topLevel.map .alias ++ namespaces

end AbiBindings
