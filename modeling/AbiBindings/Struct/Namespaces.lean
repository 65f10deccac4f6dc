import AbiBindings.EvmType.Basic
import AbiBindings.Grouping

/-!
# Structs by owner

Structs without an owner are declared at the top level, the others in a namespace for each owner.
Of structs of one name the first one counts, and everything keeps its order.
-/

namespace AbiBindings

/-- Structs at the top level, and the namespaces with theirs. -/
structure NamespaceGroups where
  topLevel : List StructType
  namespaces : List (String × List StructType)

/-- The structs whose names do not occur among `seen` or earlier in the list. -/
def firstOfEachName (seen : List StructName) : List StructType → List StructType
  | [] => []
  | s :: rest =>
    if s.name ∈ seen then firstOfEachName seen rest
    else s :: firstOfEachName (s.name :: seen) rest

/-- Puts the structs of an owner in their place: those without one at the top level, the others into
a namespace behind those so far. -/
def NamespaceGroups.add (groups : NamespaceGroups) :
    Option String × List StructType → NamespaceGroups
  | (none, structs) => { groups with topLevel := structs }
  | (some owner, structs) => { groups with namespaces := groups.namespaces ++ [(owner, structs)] }

/-- Splits structs by owner. -/
def NamespaceGroups.ofStructs (structs : List StructType) : NamespaceGroups :=
  (groupByFirstSeen (fun s => s.name.owner) (firstOfEachName [] structs)).foldl add ⟨[], []⟩

end AbiBindings
