import AbiBindings.Text.Lines
import AbiBindings.TypeScript.Type

/-!
# TypeScript statements

Type aliases and namespaces of them, as declaration files hold them.  An object type that is the
body of an alias has its members on lines of their own, two spaces further in than the braces.
-/

namespace AbiBindings

/-! ## Statements -/

/-- The right-hand side of an alias: a type expression on one line, or an object type with a line
for each member. -/
inductive AliasBody where
  | type (text : String)
  | block (members : List (String × AliasBody))

/-- An exported name for a type. -/
structure TypeAlias where
  name : String
  body : AliasBody

/-- An exported statement. -/
inductive Statement where
  | alias (a : TypeAlias)
  | module (name : String) (aliases : List TypeAlias)

/-! ## Text -/

/-- Members one below the other between braces. -/
def blockText (members : List String) : String :=
  if members.isEmpty then "{}"
  else (r"{" ++ "\n") ++ "\n".intercalate (members.flatMap Text.indentLines) ++ ("\n" ++ r"}")

/-- Statements with an empty line between them. -/
def paragraphs (texts : List String) : String := "\n\n".intercalate texts

namespace AliasBody

mutual

def text : AliasBody → String
  | .type t => t
  | .block members => blockText (memberTexts members)

def memberTexts : List (String × AliasBody) → List String
  | [] => []
  | (key, body) :: r => (memberText key (text body) ++ ";") :: memberTexts r

end

theorem memberTexts_eq_map (ms : List (String × AliasBody)) :
    memberTexts ms = ms.map fun m => memberText m.1 (text m.2) ++ ";" := by
  induction ms with
  | nil => rfl
  | cons m r ih => cases m; simp [memberTexts, ih]

end AliasBody

def TypeAlias.text (a : TypeAlias) : String :=
  "export type " ++ a.name ++ " = " ++ a.body.text ++ ";"

def Statement.text : Statement → String
  | .alias a => a.text
  | .module name aliases =>
    "export declare namespace " ++ name ++ (r" {" ++ "\n") ++
      Text.indent (paragraphs (aliases.map TypeAlias.text)) ++ ("\n" ++ r"}")

/-- Statements that belong together. -/
def sectionText (statements : List Statement) : String :=
  paragraphs (statements.map Statement.text)

/-- A text between double quotes, as it is. -/
def doubleQuoted (s : String) : String := "\"" ++ s ++ "\""

end AbiBindings
