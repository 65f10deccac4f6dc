import AbiBindings.Text.Alphanumeric
import AbiBindings.Text.Blank
import AbiBindings.Text.Words

/-!
# Namespace names

A directory is imported under its name in camel case (`Token.sol` becomes `tokenSol`).  The name
is never empty and does not start with a digit.
-/

namespace AbiBindings

/-! ## Algorithm -/

/-- Everything but letters and numbers separates words. -/
def separateWords (raw : List Char) : List Char :=
  Text.trim (raw.map fun c => if Text.isAlphanumeric c then c else ' ')

/-- A character that a namespace name may hold, or an underscore for it. -/
def namespaceChar (c : Char) : Char := if Text.isAlphanumeric c || c == '_' then c else '_'

/-- Puts an underscore where a name would be empty or start with a digit. -/
def guardStart : List Char → List Char
  | [] => ['_']
  | c :: r => if c.isDigit then '_' :: c :: r else c :: r

/-- The name that a directory is imported under. -/
def namespaceName (raw : String) : String :=
  String.ofList (guardStart ((Text.camel (separateWords raw.toList)).map namespaceChar))

/-! ## Lemmas -/

theorem guardStart_ne_nil (s : List Char) : guardStart s ≠ [] := by
  unfold guardStart
  split
  · simp
  · split <;> simp

theorem guardStart_head_not_digit (s : List Char) (c : Char) (r : List Char)
    (h : guardStart s = c :: r) : c.isDigit = false := by
  unfold guardStart at h
  split at h
  · simp only [List.cons.injEq] at h
    rw [← h.1]; decide
  · split at h
    · simp only [List.cons.injEq] at h
      rw [← h.1]; decide
    · rename_i hc
      simp only [List.cons.injEq] at h
      rw [← h.1]; simpa using hc

end AbiBindings
