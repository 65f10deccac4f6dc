import AbiBindings.Declaration.Import
import AbiBindings.Proofs.EvmType.Shape

/-!
# Names from a contract's source

Components and structs are called by identifiers of the contract's source, owners by identifiers
with dots between them, and a component may have no name.  Such names can be read out of a shape.

    t.hasSourceNames = true → t.HasReadableNames           (hasReadableNames_of_source)
-/

namespace AbiBindings

/-! ## Identifiers -/

/-- Letters, digits, `_` and `$`, and no digit in front. -/
def isIdentifier (s : List Char) : Bool :=
  s.all isWordChar && match s with
    | [] => false
    | c :: _ => !c.isDigit

/-- Identifiers with dots between them. -/
def isDottedIdentifier (s : List Char) : Bool := (s.splitOn '.').all isIdentifier

/-- A struct's name as a source has it. -/
def StructName.isSourceName (n : StructName) : Bool :=
  isIdentifier n.identifier.toList && n.owner.all fun o => isDottedIdentifier o.toList

namespace EvmType

mutual

/-- All names in a type are as a source has them. -/
def hasSourceNames : EvmType → Bool
  | .leaf _ _ => true
  | .array element _ _ => hasSourceNames element
  | .tuple components name _ =>
    name.all StructName.isSourceName && haveSourceNames components

def haveSourceNames : List (Named EvmType) → Bool
  | [] => true
  | ⟨name, t⟩ :: r =>
    (name.isEmpty || isIdentifier name.toList) && hasSourceNames t && haveSourceNames r

end

end EvmType

/-! ## Readable names -/

theorem isShapeDelimiter_of_isWordChar {c : Char} (h : isWordChar c = true) :
    isShapeDelimiter c = false := by
  by_contra hd
  simp only [isShapeDelimiter, Bool.not_eq_false, Bool.or_eq_true, beq_iff_eq] at hd
  rcases hd with ((((rfl | rfl) | rfl) | rfl) | rfl) | rfl
  all_goals exact absurd h (by decide)

theorem isShapeWord_of_isIdentifier {s : List Char} (h : isIdentifier s = true) :
    IsShapeWord s := by
  intro c hc
  simp only [isIdentifier, Bool.and_eq_true, List.all_eq_true] at h
  exact isShapeDelimiter_of_isWordChar (h.1 c hc)

theorem isShapeWord_of_isDottedIdentifier {s : List Char} (h : isDottedIdentifier s = true) :
    IsShapeWord s := by
  intro c hc
  rcases Text.mem_splitOn_of_mem '.' hc with rfl | ⟨l, hl, hc⟩
  · decide
  · exact isShapeWord_of_isIdentifier (List.all_eq_true.1 h l hl) c hc

theorem StructName.isReadable_of_source {n : StructName} (h : n.isSourceName = true) :
    n.IsReadable := by
  simp only [isSourceName, Bool.and_eq_true] at h
  obtain ⟨hi, ho⟩ := h
  constructor
  · intro o hn
    rw [hn] at ho
    exact isShapeWord_of_isDottedIdentifier ho
  · exact isShapeWord_of_isIdentifier hi
  · intro hdot
    simp only [isIdentifier, Bool.and_eq_true, List.all_eq_true] at hi
    exact absurd (hi.1 '.' hdot) (by decide)
  · intro he
    rw [he] at hi
    exact absurd hi (by decide)

namespace EvmType

mutual

theorem hasReadableNames_of_source : (t : EvmType) → t.hasSourceNames = true →
    t.HasReadableNames
  | .leaf _ _, _ => trivial
  | .array element _ _, h => hasReadableNames_of_source element h
  | .tuple components name _, h => by
    rw [hasSourceNames, Bool.and_eq_true] at h
    refine ⟨?_, haveReadableNames_of_source components h.2⟩
    rintro n rfl
    exact StructName.isReadable_of_source h.1

theorem haveReadableNames_of_source : (cs : List (Named EvmType)) →
    haveSourceNames cs = true → HaveReadableNames cs
  | [], _ => trivial
  | ⟨name, t⟩ :: cs, h => by
    simp only [haveSourceNames, Bool.and_eq_true, Bool.or_eq_true] at h
    obtain ⟨⟨hname, ht⟩, hcs⟩ := h
    refine ⟨?_, hasReadableNames_of_source t ht, haveReadableNames_of_source cs hcs⟩
    rcases hname with he | hi
    · rw [String.isEmpty_iff.1 he]
      exact fun c hc => absurd hc List.not_mem_nil
    · exact isShapeWord_of_isIdentifier hi

end

end EvmType

end AbiBindings
