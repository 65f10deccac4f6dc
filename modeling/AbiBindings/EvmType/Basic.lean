/-!
# ABI types

The type of a value that a contract takes or returns: a leaf, an array, or a tuple of named
components.  A tuple that carries a name is a struct.  Every node keeps the spelling it was read
from, for diagnostics only.

    t.struct? = some s → s.toType = t                      (toType_of_struct?)
-/

namespace AbiBindings

/-! ## Types -/

/-- Something with a name, which may be empty. -/
structure Named (α : Type) where
  name : String
  type : α
  deriving DecidableEq

/-- Name of a struct, inside the contract or library that owns it. -/
structure StructName where
  identifier : String
  owner : Option String
  deriving DecidableEq

/-- A type without parts. -/
inductive Leaf where
  | address
  | bool
  | string
  /-- Natural numbers of so many bits. -/
  | uint (bits : Nat)
  /-- Whole numbers of so many bits. -/
  | int (bits : Nat)
  /-- So many bytes. -/
  | fixedBytes (size : Nat)
  /-- Any number of bytes. -/
  | bytes
  deriving DecidableEq

/-- An ABI type.  An array without a size holds any number of elements. -/
inductive EvmType where
  | leaf (kind : Leaf) (spelling : String)
  | array (element : EvmType) (size : Option Nat) (spelling : String)
  | tuple (components : List (Named EvmType)) (name : Option StructName) (spelling : String)

/-- A named component of a tuple. -/
abbrev Component := Named EvmType

/-- A tuple with a name. -/
structure StructType where
  name : StructName
  components : List Component
  spelling : String

/-! ## Names -/

/-- A struct's name with a suffix, inside its owner. -/
def StructName.qualified (suffix : String) (n : StructName) : String :=
  match n.owner with
  | some owner => owner ++ "." ++ n.identifier ++ suffix
  | none => n.identifier ++ suffix

/-- The name as it is displayed. -/
def StructName.text (n : StructName) : String := n.qualified ""

/-! ## Spellings -/

/-- Canonical spelling of a leaf. -/
def Leaf.canonical : Leaf → String
  | .address => "address"
  | .bool => "bool"
  | .string => "string"
  | .uint bits => "uint" ++ toString bits
  | .int bits => "int" ++ toString bits
  | .fixedBytes size => "bytes" ++ toString size
  | .bytes => "bytes"

/-- What an array adds to the spelling of its elements. -/
def arraySuffix : Option Nat → String
  | some size => "[" ++ toString size ++ "]"
  | none => "[]"

namespace EvmType

/-- The text that the type was read from. -/
def spelling : EvmType → String
  | .leaf _ s | .array _ _ s | .tuple _ _ s => s

mutual

/-- Canonical spelling, as signatures use it: tuples show the types of their components only. -/
def canonical : EvmType → String
  | .leaf kind _ => kind.canonical
  | .array element size _ => canonical element ++ arraySuffix size
  | .tuple components _ _ => "(" ++ ",".intercalate (canonicals components) ++ ")"

def canonicals : List (Named EvmType) → List String
  | [] => []
  | ⟨_, t⟩ :: r => canonical t :: canonicals r

end

mutual

/-- Canonical spelling with the names of structs and components. -/
def shape : EvmType → String
  | .leaf kind _ => kind.canonical
  | .array element size _ => shape element ++ arraySuffix size
  | .tuple components name _ =>
    (match name with
      | some n => n.text
      | none => "") ++ "(" ++ ",".intercalate (shapes components) ++ ")"

def shapes : List (Named EvmType) → List String
  | [] => []
  | ⟨name, t⟩ :: r => (shape t ++ " " ++ name) :: shapes r

end

/-- The struct that a named tuple is. -/
def struct? : EvmType → Option StructType
  | .tuple components (some name) spelling => some ⟨name, components, spelling⟩
  | _ => none

end EvmType

/-- The tuple that a struct is. -/
def StructType.toType (s : StructType) : EvmType := .tuple s.components (some s.name) s.spelling

/-- Spelling of a struct's components with all names but its own. -/
def StructType.shape (s : StructType) : String :=
  "(" ++ ",".intercalate (EvmType.shapes s.components) ++ ")"

/-! ## Equality -/

namespace EvmType

mutual

def decEq : (a b : EvmType) → Decidable (a = b)
  | .leaf k s, .leaf k' s' => decidable_of_iff (k = k' ∧ s = s') (by simp)
  | .array e n s, .array e' n' s' =>
    match decEq e e' with
    | isTrue h => decidable_of_iff (n = n' ∧ s = s') (by simp [h])
    | isFalse h => isFalse (by simp [h])
  | .tuple cs n s, .tuple cs' n' s' =>
    match decEqs cs cs' with
    | isTrue h => decidable_of_iff (n = n' ∧ s = s') (by simp [h])
    | isFalse h => isFalse (by simp [h])
  | .leaf .., .array .. => isFalse nofun
  | .leaf .., .tuple .. => isFalse nofun
  | .array .., .leaf .. => isFalse nofun
  | .array .., .tuple .. => isFalse nofun
  | .tuple .., .leaf .. => isFalse nofun
  | .tuple .., .array .. => isFalse nofun

def decEqs : (a b : List (Named EvmType)) → Decidable (a = b)
  | [], [] => isTrue rfl
  | [], _ :: _ => isFalse nofun
  | _ :: _, [] => isFalse nofun
  | ⟨n, t⟩ :: r, ⟨n', t'⟩ :: r' =>
    match decEq t t' with
    | isTrue h =>
      match decEqs r r' with
      | isTrue h' => decidable_of_iff (n = n') (by simp [h, h'])
      | isFalse h' => isFalse (by simp [h'])
    | isFalse h => isFalse (by simp [h])

end

instance : DecidableEq EvmType := decEq

end EvmType

deriving instance DecidableEq for StructType

/-! ## Lemmas -/

namespace EvmType

theorem canonicals_eq_map (cs : List Component) :
    canonicals cs = cs.map fun c => canonical c.type := by
  induction cs with
  | nil => rfl
  | cons c r ih => cases c; simp [canonicals, ih]

theorem shapes_eq_map (cs : List Component) :
    shapes cs = cs.map fun c => shape c.type ++ " " ++ c.name := by
  induction cs with
  | nil => rfl
  | cons c r ih => cases c; simp [shapes, ih]

theorem toType_of_struct? {t : EvmType} {s : StructType} (h : t.struct? = some s) :
    s.toType = t := by
  unfold struct? at h
  split at h
  · simp only [Option.some.injEq] at h; subst h; rfl
  · simp at h

theorem struct?_toType (s : StructType) : s.toType.struct? = some s := rfl

end EvmType

end AbiBindings
