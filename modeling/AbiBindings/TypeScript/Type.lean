import AbiBindings.EvmType.Basic

/-!
# TypeScript types

The part of TypeScript's types that declarations need, and its text.  An array's element stands in
parentheses exactly if its text shows an intersection or a union.
-/

namespace AbiBindings

/-! ## Types -/

/-- A type expression over some kind of names. -/
inductive TsExpr (ν : Type) where
  | named (name : ν)
  | array (element : TsExpr ν)
  | tuple (elements : List (TsExpr ν))
  | object (fields : List (Named (TsExpr ν)))
  | both (left right : TsExpr ν)

/-- A type expression whose names, or whatever a table has in the place of one, are written as they
are. -/
abbrev TsType := TsExpr String

/-! ## Text -/

/-- Some part of the text is `part`. -/
def hasInfix (part : List Char) : List Char → Bool
  | [] => part.isEmpty
  | c :: r => part.isPrefixOf (c :: r) || hasInfix part r

/-- The text shows an intersection or a union. -/
def showsOperator (text : String) : Bool :=
  hasInfix " & ".toList text.toList || hasInfix " | ".toList text.toList

/-- Items between brackets. -/
def bracketed (items : List String) : String := "[" ++ ", ".intercalate items ++ "]"

/-- Members between braces. -/
def braced (members : List String) : String :=
  if members.isEmpty then "{}" else r"{ " ++ ", ".intercalate members ++ r" }"

/-- An array of elements of a type given by its text. -/
def arrayText (element : String) : String :=
  if showsOperator element then "(" ++ element ++ ")[]" else element ++ "[]"

/-- A member and its type. -/
def memberText (name type : String) : String := name ++ ": " ++ type

namespace TsType

mutual

def text : TsType → String
  | .named t => t
  | .array element => arrayText (text element)
  | .tuple elements => bracketed (texts elements)
  | .object fields => braced (fieldTexts fields)
  | .both left right => text left ++ " & " ++ text right

def texts : List TsType → List String
  | [] => []
  | t :: r => text t :: texts r

def fieldTexts : List (Named TsType) → List String
  | [] => []
  | ⟨name, t⟩ :: r => memberText name (text t) :: fieldTexts r

end

/-! ## Lemmas -/

theorem texts_eq_map (ts : List TsType) : texts ts = ts.map text := by
  induction ts with
  | nil => rfl
  | cons t r ih => simp [texts, ih]

theorem fieldTexts_eq_map (fs : List (Named TsType)) :
    fieldTexts fs = fs.map fun f => memberText f.name (text f.type) := by
  induction fs with
  | nil => rfl
  | cons f r ih => cases f; simp [fieldTexts, ih]

end TsType

end AbiBindings
