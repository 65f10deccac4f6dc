import AbiBindings.Diagnostic
import AbiBindings.EvmType.Basic
import AbiBindings.Indexed

/-!
# Structs that types mention

The structs of a sequence of types are collected in the order in which they are first met, outer
ones before the ones inside them.  A name stands for one shape: a struct that is met again must
have the shape it had the first time, and what was collected before a clash is kept.

A collection finds the struct of a name by its position.  Over a plain list a search finds it, with
the same result:

    (c.visit t).listed = visit t c.items                   (listed_visit)
    (visit t known).1 = known ++ …, for every t and known  (visit_extends)
-/

namespace AbiBindings

/-! ## Algorithm -/

/-- A name with two shapes. -/
structure StructClash where
  name : StructName
  first : String
  second : String
  deriving DecidableEq

def StructClash.message (c : StructClash) : String :=
  s!"struct '{c.name.text}' is declared with two different shapes: {c.first} and {c.second}"

def StructClash.diagnostic (c : StructClash) : Diagnostic := .nameCollision c.message

namespace StructCollection

/-- What was collected, and the clash that ended the collection, if one did. -/
abbrev Outcome (σ : Type) := σ × Option StructClash

section
variable {σ : Type}

/-- Goes on after an outcome unless it is a clash. -/
def andThen (v : Outcome σ) (next : σ → Outcome σ) : Outcome σ :=
  match v with
  | (known, none) => next known
  | (known, some clash) => (known, some clash)

/-- The clash of a struct with the first one of its name, if they differ in shape. -/
def clash? (first s : StructType) : Option StructClash :=
  if first.shape = s.shape then none else some ⟨s.name, first.shape, s.shape⟩

variable (meet : StructType → σ → Outcome σ)

mutual

/-- Meets the structs of a type. -/
def visitWith : EvmType → σ → Outcome σ
  | .leaf _ _, known => (known, none)
  | .array element _ _, known => visitWith element known
  | .tuple components none _, known => visitComponentsWith components known
  | .tuple components (some name) spelling, known =>
    andThen (meet ⟨name, components, spelling⟩ known) (visitComponentsWith components)

/-- Meets the structs of components, up to the first clash. -/
def visitComponentsWith : List (Named EvmType) → σ → Outcome σ
  | [], known => (known, none)
  | ⟨_, t⟩ :: rest, known => andThen (visitWith t known) (visitComponentsWith rest)

end

/-- Meets the structs of several types, up to the first clash. -/
def visitAllWith : List EvmType → σ → Outcome σ
  | [], known => (known, none)
  | t :: rest, known => andThen (visitWith meet t known) (visitAllWith rest)

end

/-! ### By position -/

/-- Structs collected so far, with the position of each name. -/
abbrev Collected := Indexed StructType.name

/-- Meets a struct: a new name is added, a known one is compared. -/
def Collected.register (s : StructType) (known : Collected) : Outcome Collected :=
  match h : known.slot? s.name with
  | some slot => (known, clash? known.items[slot] s)
  | none => (known.push s h, none)

/-- Meets the structs of a type. -/
def Collected.visit (known : Collected) (t : EvmType) : Outcome Collected :=
  visitWith register t known

/-- Meets the structs of several types, up to the first clash. -/
def Collected.visitAll (known : Collected) (types : List EvmType) : Outcome Collected :=
  visitAllWith register types known

/-- The structs of several types. -/
def ofTypes (types : List EvmType) : Except StructClash (List StructType) :=
  match Collected.visitAll Indexed.empty types with
  | (known, none) => .ok known.items
  | (_, some clash) => .error clash

/-! ### By search -/

/-- Structs collected so far and the clash that ended the collection, if one did. -/
abbrev Visit := Outcome (List StructType)

/-- Meets a struct as `Collected.register` does, with a search for its name. -/
def register (s : StructType) (known : List StructType) : Visit :=
  match known.find? fun k => k.name == s.name with
  | none => (known ++ [s], none)
  | some k => (known, clash? k s)

/-- Meets the structs of a type, searching for each name. -/
def visit (t : EvmType) (known : List StructType) : Visit := visitWith register t known

/-- Meets the structs of several types, up to the first clash, searching for each name. -/
def visitAll (types : List EvmType) (known : List StructType) : Visit :=
  visitAllWith register types known

/-- An outcome without the positions. -/
def Outcome.listed (v : Outcome Collected) : Visit := (v.1.items, v.2)

/-! ## Lemmas -/

theorem listed_andThen {v : Outcome Collected} {next : Collected → Outcome Collected}
    {next' : List StructType → Visit} (h : ∀ known, (next known).listed = next' known.items) :
    (andThen v next).listed = andThen v.listed next' := by
  obtain ⟨known, clash⟩ := v
  cases clash with
  | none => exact h known
  | some c => rfl

theorem listed_register (s : StructType) (known : Collected) :
    (Collected.register s known).listed = register s known.items := by
  have hfind := known.find?_eq s.name
  unfold register Collected.register
  split
  · rename_i slot h
    rw [h] at hfind
    rw [hfind]
    rfl
  · rename_i h
    rw [h] at hfind
    rw [hfind]
    rfl

mutual

theorem listed_visitWith : (t : EvmType) → (known : Collected) →
    (visitWith Collected.register t known).listed = visitWith register t known.items
  | .leaf _ _, _ => rfl
  | .array element _ _, known => listed_visitWith element known
  | .tuple components none _, known => listed_visitComponentsWith components known
  | .tuple components (some name) spelling, known => by
    rw [visitWith, visitWith, listed_andThen (listed_visitComponentsWith components),
      listed_register]

theorem listed_visitComponentsWith : (cs : List (Named EvmType)) → (known : Collected) →
    (visitComponentsWith Collected.register cs known).listed =
      visitComponentsWith register cs known.items
  | [], _ => rfl
  | ⟨_, t⟩ :: rest, known => by
    rw [visitComponentsWith, visitComponentsWith, listed_andThen (listed_visitComponentsWith rest),
      listed_visitWith t]

end

/-- Going by positions, a visit keeps and finds what it does by searching. -/
theorem listed_visit (known : Collected) (t : EvmType) :
    (known.visit t).listed = visit t known.items :=
  listed_visitWith t known

theorem listed_visitAll (known : Collected) (types : List EvmType) :
    (known.visitAll types).listed = visitAll types known.items := by
  unfold Collected.visitAll visitAll
  induction types generalizing known with
  | nil => rfl
  | cons t rest ih =>
    rw [visitAllWith, visitAllWith, listed_andThen ih, listed_visitWith]

theorem register_extends (s : StructType) (known : List StructType) :
    known <+: (register s known).1 := by
  unfold register
  split <;> simp

theorem andThen_extends {v : Visit} {known : List StructType} {next : List StructType → Visit}
    (hv : known <+: v.1) (hn : ∀ k, k <+: (next k).1) : known <+: (andThen v next).1 := by
  obtain ⟨k, clash⟩ := v
  cases clash with
  | none => exact hv.trans (hn k)
  | some c => exact hv

mutual

theorem visit_extends : (t : EvmType) → (known : List StructType) → known <+: (visit t known).1
  | .leaf _ _, _ => List.prefix_refl _
  | .array element _ _, known => visit_extends element known
  | .tuple components none _, known => visitComponents_extends components known
  | .tuple components (some _) _, known =>
    andThen_extends (register_extends _ known) (visitComponents_extends components)

theorem visitComponents_extends : (cs : List (Named EvmType)) → (known : List StructType) →
    known <+: (visitComponentsWith register cs known).1
  | [], _ => List.prefix_refl _
  | ⟨_, t⟩ :: rest, known =>
    andThen_extends (visit_extends t known) (visitComponents_extends rest)

end

end StructCollection

end AbiBindings
