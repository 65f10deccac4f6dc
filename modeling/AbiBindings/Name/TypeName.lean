import AbiBindings.Diagnostic
import AbiBindings.Text.Blank
import AbiBindings.Text.Case

/-!
# Type names

The name of a type is made from a file stem or from a name of the contract's source: blanks and
dots are word breaks, a small letter after a break becomes a capital, leading digits go, and the
first character is a capital.  Nothing is left of a text of breaks and digits only.
-/

namespace AbiBindings

/-! ## Algorithm -/

/-- Blanks and dots break words like a dash. -/
def breakAsDash (c : Char) : Char := if Text.isBlank c || c == '.' then '-' else c

def isSmallAscii (c : Char) : Bool := 'a' ≤ c && c ≤ 'z'

/-- Replaces a dash and the small letter after it by the capital letter. -/
def capitaliseBreaks : List Char → List Char
  | [] => []
  | [c] => [c]
  | c :: d :: r =>
    if c == '-' && isSmallAscii d then d.toUpper :: capitaliseBreaks r
    else c :: capitaliseBreaks (d :: r)

/-- The name without its word breaks and leading digits. -/
def joinWords (raw : List Char) : List Char :=
  ((capitaliseBreaks (raw.map breakAsDash)).filter (· != '-')).dropWhile Char.isDigit

/-- The characters of a type name made from a raw name. -/
def typeNameChars? (raw : List Char) : Option (List Char) :=
  match joinWords raw with
  | [] => none
  | c :: r => some (Text.upperChar c ++ r)

/-- The type name made from a raw name. -/
def typeName? (raw : String) : Option String := (typeNameChars? raw.toList).map String.ofList

/-- The type name made from a raw name, or why there is none. -/
def typeName (raw : String) : Checked String :=
  match typeName? raw with
  | some name => .ok name
  | none => .error (.malformedAbi s!"can't derive a type name from '{raw}', please rename it")

/-! ## Lemmas -/

theorem typeName_eq_ok_iff {raw name : String} :
    typeName raw = .ok name ↔ typeName? raw = some name := by
  unfold typeName
  cases typeName? raw <;> simp

end AbiBindings
