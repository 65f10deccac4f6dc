import AbiBindings.EvmType.Basic
import AbiBindings.Name.TypeName
import AbiBindings.Text.Split

/-!
# Struct names in a contract's source

The source's name of a struct type starts with the word `struct`; array suffixes follow the name,
and the owner stands before the last dot.
-/

namespace AbiBindings

/-- The word that the source puts in front of a struct's name. -/
def structKeyword : List Char := "struct ".toList

/-- The name of the struct that a source type names.  The identifier is a type name; the owner
stays as it is. -/
def StructName.ofInternalType? (internalType : String) : Option StructName :=
  let s := internalType.toList
  if structKeyword.isPrefixOf s then
    let qualified := (s.drop structKeyword.length).takeWhile (· != '[')
    let (owner, identifier) := Text.splitLast '.' qualified
    (typeNameChars? identifier).map fun name => ⟨String.ofList name, owner.map String.ofList⟩
  else none

end AbiBindings
