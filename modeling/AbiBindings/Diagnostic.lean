/-!
# Diagnostics

A failure has a kind, a message and, for the kinds that concern a part of a contract or of the
configuration, a scope: the names of the enclosing parts, outermost first.

    (d.within s).message = d.message                       (message_within)
    d.kind.isScoped = false → d.within s = d               (within_of_not_isScoped)
-/

namespace AbiBindings

/-- What kind of failure it is. -/
inductive DiagnosticKind where
  /-- An ABI entry or a type string that does not follow the ABI grammar. -/
  | malformedAbi
  /-- Two declarations of one contract claim one identifier. -/
  | nameCollision
  /-- Two files of different contents claim one output path. -/
  | pathCollision
  /-- A configuration that cannot be used. -/
  | configuration
  /-- A path that has no place in the module tree. -/
  | malformedPath
  /-- A layout that cannot be filled. -/
  | template
  /-- A file that cannot be read or written. -/
  | io
  /-- A text that is not of the expected data format. -/
  | serialization
  deriving DecidableEq

/-- Words that open the report of a failure. -/
def DiagnosticKind.title : DiagnosticKind → String
  | .malformedAbi => "Malformed ABI"
  | .nameCollision => "Name collision"
  | .pathCollision => "Path collision"
  | .configuration => "Configuration error"
  | .malformedPath => "Malformed path"
  | .template => "Template error"
  | .io => "IO error"
  | .serialization => "Serialization error"

/-- The kinds whose reports say where the failure is. -/
def DiagnosticKind.isScoped : DiagnosticKind → Bool
  | .malformedAbi | .nameCollision | .configuration => true
  | _ => false

/-- A failure, as it is reported. -/
structure Diagnostic where
  kind : DiagnosticKind
  /-- Names of the enclosing parts, outermost first; the innermost one is not empty. -/
  scope : List String
  message : String
  deriving DecidableEq

/-- A result, or the failure to get it. -/
abbrev Checked (α : Type) := Except Diagnostic α

namespace Diagnostic

/-! ## Algorithm -/

/-- A failure without a scope. -/
def ofKind (kind : DiagnosticKind) (message : String) : Diagnostic := ⟨kind, [], message⟩

def malformedAbi (message : String) : Diagnostic := ofKind .malformedAbi message
def nameCollision (message : String) : Diagnostic := ofKind .nameCollision message
def pathCollision (path : String) : Diagnostic := ofKind .pathCollision path
def configuration (message : String) : Diagnostic := ofKind .configuration message
def malformedPath (path : String) : Diagnostic := ofKind .malformedPath path
def template (message : String) : Diagnostic := ofKind .template message
def io (message : String) : Diagnostic := ofKind .io message
def serialization (message : String) : Diagnostic := ofKind .serialization message

/-- Adds an outer part to a scope; an empty name is no innermost part. -/
def enclose (segment : String) (scope : List String) : List String :=
  if scope.isEmpty && segment.isEmpty then [] else segment :: scope

/-- Places a failure inside a part.  Kinds without a scope stay as they are. -/
def within (segment : String) (d : Diagnostic) : Diagnostic :=
  if d.kind.isScoped then { d with scope := enclose segment d.scope } else d

/-- The scope as it is reported, outermost part first. -/
def scopeText (d : Diagnostic) : String :=
  if d.scope.isEmpty then "" else " in " ++ " > ".intercalate d.scope

/-- The report of a failure. -/
def text (d : Diagnostic) : String := d.kind.title ++ d.scopeText ++ ": " ++ d.message

end Diagnostic

/-- Places the failure of a result inside a part. -/
def Checked.within {α : Type} (segment : String) (r : Checked α) : Checked α :=
  r.mapError (Diagnostic.within segment)

/-- Places the failure of a result inside a part that may have no name. -/
def Checked.withinNamed {α : Type} (name : String) (r : Checked α) : Checked α :=
  if name.isEmpty then r else Checked.within name r

namespace Diagnostic

/-! ## Lemmas -/

@[simp] theorem kind_within (s : String) (d : Diagnostic) : (d.within s).kind = d.kind := by
  unfold within; split <;> rfl

@[simp] theorem message_within (s : String) (d : Diagnostic) :
    (d.within s).message = d.message := by
  unfold within; split <;> rfl

theorem within_of_not_isScoped (s : String) (d : Diagnostic) (h : d.kind.isScoped = false) :
    d.within s = d := by
  simp [within, h]

/-- The outermost part of a scope is the one that was added last. -/
theorem headD_enclose (s : String) (scope : List String) : (enclose s scope).headD "" = s := by
  unfold enclose
  split
  · rename_i h
    rw [Bool.and_eq_true, String.isEmpty_iff] at h
    exact h.2.symm
  · rfl

theorem scope_within (s : String) (d : Diagnostic) (h : d.kind.isScoped = true) :
    (d.within s).scope = enclose s d.scope := by
  simp [within, h]

end Diagnostic

end AbiBindings
