import AbiBindings.Abi.Basic
import AbiBindings.Diagnostic
import AbiBindings.EvmType.StructName
import AbiBindings.Text.Blank
import AbiBindings.Text.Decimal
import AbiBindings.Text.Digit

/-!
# Types from their spelling

A type is spelled as a base and array suffixes, the outermost array last; blanks around the whole
and around the element of each array do not matter.  `TypeText.read` takes a spelling apart, and
the suffixes are checked from the outside before the base is.  The components of a tuple are read
from the parameter that it is the type of, whatever the number of suffixes.
-/

namespace AbiBindings

/-! ## Faults -/

/-- Why a text is no type; each fault names the part that it is about. -/
inductive TypeFault where
  | arraySizeOutOfRange (type : String)
  | zeroLengthArray (type : String)
  | tupleWithoutComponents (type : String)
  | unknownType (type : String)
  | invalidWidth (type : String)
  | bytesSizeOutOfRange (type : String)
  | integerWidthOutOfRange (type : String)
  deriving DecidableEq

def TypeFault.message : TypeFault → String
  | .arraySizeOutOfRange type => s!"array size out of range in '{type}'"
  | .zeroLengthArray type => s!"zero-length array '{type}'"
  | .tupleWithoutComponents type => s!"'{type}' type without components"
  | .unknownType type => s!"unknown type '{type}'"
  | .invalidWidth type => s!"invalid width in '{type}'"
  | .bytesSizeOutOfRange type => s!"fixed bytes size must be in 1..=32, got '{type}'"
  | .integerWidthOutOfRange type =>
    s!"integer width must be a multiple of 8 in 8..=256, got '{type}'"

def TypeFault.diagnostic (f : TypeFault) : Diagnostic := .malformedAbi f.message

/-! ## Spellings -/

/-- An array type as it is spelled, with the digits between its brackets. -/
structure ArrayText where
  spelling : List Char
  digits : List Char

/-- A spelling taken apart: the arrays, outermost first, and what they are arrays of. -/
structure TypeText where
  arrays : List ArrayText
  base : List Char

/-- The element and the digits of an array's spelling.  The element is not empty and stands on one
line. -/
def splitArray? (s : List Char) : Option (List Char × List Char) :=
  match s.reverse with
  | ']' :: r =>
    match r.dropWhile Text.isDecimalDigit with
    | '[' :: element =>
      if element.isEmpty || element.contains '\n' then none
      else some (element.reverse, (r.takeWhile Text.isDecimalDigit).reverse)
    | _ => none
  | _ => none

theorem length_trim_le (s : List Char) : (Text.trim s).length ≤ s.length := by
  have h : ∀ l : List Char, (l.dropWhile Text.isBlank).length ≤ l.length := fun l =>
    (List.dropWhile_suffix _).length_le
  have h₁ := h s
  have h₂ := h (s.dropWhile Text.isBlank).reverse
  simp only [List.length_reverse] at h₂
  simp only [Text.trim, Text.trimEnd, Text.trimStart, List.length_reverse]
  omega

theorem length_of_splitArray? {s element digits : List Char}
    (h : splitArray? s = some (element, digits)) : element.length < s.length := by
  unfold splitArray? at h
  split at h
  · rename_i r hs
    split at h
    · rename_i e he
      split at h
      · simp at h
      · simp only [Option.some.injEq, Prod.mk.injEq] at h
        have h₁ : (r.dropWhile Text.isDecimalDigit).length ≤ r.length :=
          (List.dropWhile_suffix _).length_le
        have h₂ : s.length = r.length + 1 := by
          simpa using congrArg List.length hs
        rw [he] at h₁
        simp only [List.length_cons] at h₁
        rw [← h.1, List.length_reverse]
        omega
    · simp at h
  · simp at h

/-- Takes a spelling apart, dropping blanks around each part. -/
def TypeText.read (raw : List Char) : TypeText :=
  match _h : splitArray? (Text.trim raw) with
  | some (element, digits) =>
    let inner := TypeText.read element
    ⟨⟨Text.trim raw, digits⟩ :: inner.arrays, inner.base⟩
  | none => ⟨[], Text.trim raw⟩
termination_by raw.length
decreasing_by
  have h₁ := length_of_splitArray? _h
  have h₂ := length_trim_le raw
  omega

/-! ## Widths and sizes -/

/-- Largest number of elements that an array's spelling may give, and largest width. -/
def maxArraySize : Nat := 0xffffffff
def maxWidth : Nat := 0xffff

/-- The number that digits spell, if it is at most `limit`. -/
def boundedDecimal? (limit : Nat) (digits : List Char) : Option Nat :=
  (Text.decimal? digits).filter (· ≤ limit)

/-- The size of an array; without digits it has none. -/
def ArrayText.size (a : ArrayText) : Except TypeFault (Option Nat) :=
  if a.digits.isEmpty then .ok none
  else
    match boundedDecimal? maxArraySize a.digits with
    | none => .error (.arraySizeOutOfRange (String.ofList a.spelling))
    | some 0 => .error (.zeroLengthArray (String.ofList a.spelling))
    | some n => .ok (some n)

/-- The types that are spelled with a width. -/
inductive SizedBase where
  | uint | int | bytes
  deriving DecidableEq

/-- The base of a spelling that ends in its width, and the digits of the width. -/
def sizedBase? (s : List Char) : Option (SizedBase × List Char) :=
  let word := (s.reverse.dropWhile Text.isDecimalDigit).reverse
  let digits := (s.reverse.takeWhile Text.isDecimalDigit).reverse
  if digits.isEmpty then none
  else if word = "uint".toList then some (.uint, digits)
  else if word = "int".toList then some (.int, digits)
  else if word = "bytes".toList then some (.bytes, digits)
  else none

/-- The leaf of a base with a width. -/
def SizedBase.leaf (spelling : String) (width : Nat) : SizedBase → Except TypeFault Leaf
  | .bytes =>
    if 1 ≤ width ∧ width ≤ 32 then .ok (.fixedBytes width)
    else .error (.bytesSizeOutOfRange spelling)
  | .uint =>
    if width ≠ 0 ∧ width ≤ 256 ∧ width % 8 = 0 then .ok (.uint width)
    else .error (.integerWidthOutOfRange spelling)
  | .int =>
    if width ≠ 0 ∧ width ≤ 256 ∧ width % 8 = 0 then .ok (.int width)
    else .error (.integerWidthOutOfRange spelling)

/-- The leaf that a spelling without suffixes names. -/
def Leaf.ofSpelling (spelling : String) : Except TypeFault Leaf :=
  match spelling with
  | "address" => .ok .address
  | "bool" => .ok .bool
  | "string" => .ok .string
  | "bytes" => .ok .bytes
  | "byte" => .ok (.fixedBytes 1)
  | "function" => .ok (.fixedBytes 24)
  | "uint" => .ok (.uint 256)
  | "int" => .ok (.int 256)
  | _ =>
    match sizedBase? spelling.toList with
    | none => .error (.unknownType spelling)
    | some (base, digits) =>
      match boundedDecimal? maxWidth digits with
      | none => .error (.invalidWidth spelling)
      | some width => base.leaf spelling width

/-! ## Types -/

namespace EvmType

/-- Wraps an element in arrays, the outermost first in the list and the first to be checked. -/
def wrapArrays (element : Except TypeFault EvmType) : List ArrayText → Except TypeFault EvmType
  | [] => element
  | a :: inner => do
    let size ← a.size
    let t ← wrapArrays element inner
    return .array t size (String.ofList a.spelling)

/-- The type of a base, given what its components are if it is a tuple. -/
def ofBase (spelling : String) (internalType : Option String)
    (components : Option (Except TypeFault (List Component))) : Except TypeFault EvmType :=
  if spelling = "tuple" then
    match components with
    | none => .error (.tupleWithoutComponents spelling)
    | some cs => cs.map fun cs => .tuple cs (internalType.bind StructName.ofInternalType?) spelling
  else (Leaf.ofSpelling spelling).map fun kind => .leaf kind spelling

/-- The type of a spelling, given what its components are if its base is a tuple. -/
def ofSpelling (raw : String) (internalType : Option String)
    (components : Option (Except TypeFault (List Component))) : Except TypeFault EvmType :=
  let text := TypeText.read raw.toList
  wrapArrays (ofBase (String.ofList text.base) internalType components) text.arrays

mutual

/-- The type of a parameter. -/
def ofParameter : AbiParameter → Except TypeFault EvmType
  | ⟨_, raw, internalType, components, _⟩ =>
    ofSpelling raw internalType (componentsOf components)

/-- What the components of a parameter are, if it has any. -/
def componentsOf : Option (List AbiParameter) → Option (Except TypeFault (List Component))
  | none => none
  | some ps => some (ofParameters ps)

/-- The named types of parameters, up to the first one that has none. -/
def ofParameters : List AbiParameter → Except TypeFault (List Component)
  | [] => .ok []
  | p :: r => do
    let t ← ofParameter p
    let ts ← ofParameters r
    return ⟨p.name, t⟩ :: ts

end

/-- The type of a spelling with the components and the source type that stand beside it. -/
def parse (raw : String) (components : Option (List AbiParameter)) (internalType : Option String) :
    Except TypeFault EvmType :=
  ofSpelling raw internalType (componentsOf components)

/-! ## Lemmas -/

theorem ofParameter_eq_parse (p : AbiParameter) :
    ofParameter p = parse p.type p.components p.internalType := by
  cases p; rfl

end EvmType

end AbiBindings
