import AbiBindings.Proofs.Checked
import AbiBindings.Typing

/-!
# Integers that a table covers

The only thing that can be missing from a table is a bucket that is wide enough.  A type is looked
through down to its structs, which are referred to by name, so it can be written exactly if every
integer that is exposed this way fits into a bucket.

    typeOf y d true t succeeds ↔ y.Covers d t                           (exists_typeOf_iff)
    Needs (y.typeText d t) (y.Covers d t), and so on for all that is
      written with types                                                (needs_typeText, …)
-/

namespace AbiBindings

/-! ## What a result needs -/

/-- A result is there exactly if the condition holds; if not, the configuration is to blame. -/
structure Needs {α : Type} (x : Checked α) (P : Prop) : Prop where
  exists_iff : (∃ a, x = .ok a) ↔ P
  kind : ∀ e, x = .error e → e.kind = .configuration

namespace Needs

variable {α β : Type} {x : Checked α} {P Q : Prop}

theorem congr (h : Needs x P) (hpq : P ↔ Q) : Needs x Q :=
  ⟨h.exists_iff.trans hpq, h.kind⟩

theorem exists_error_iff (h : Needs x P) : (∃ e, x = .error e) ↔ ¬P := by
  rw [← h.exists_iff]
  cases x <;> simp

theorem ok (a : α) : Needs (.ok a) True :=
  ⟨iff_true_intro ⟨a, rfl⟩, fun _ he => by cases he⟩

theorem mapError {ε : Type} {y : Except ε α} {f : ε → Diagnostic} (h : (∃ a, y = .ok a) ↔ P)
    (hf : ∀ e, (f e).kind = .configuration) : Needs (y.mapError f) P := by
  refine ⟨by simpa only [mapError_eq_ok_iff] using h, fun e he => ?_⟩
  cases y with
  | ok a => cases he
  | error d =>
    cases he
    exact hf d

theorem within (segment : String) (h : Needs x P) : Needs (Checked.within segment x) P := by
  refine ⟨by simpa only [within_eq_ok_iff] using h.exists_iff, fun e he => ?_⟩
  cases x with
  | ok a => cases he
  | error d =>
    cases he
    rw [Diagnostic.kind_within]
    exact h.kind d rfl

theorem withinNamed (name : String) (h : Needs x P) : Needs (Checked.withinNamed name x) P := by
  unfold Checked.withinNamed
  split
  · exact h
  · exact h.within name

theorem bind {f : α → Checked β} (hx : Needs x P) (hf : ∀ a, Needs (f a) Q) :
    Needs (x >>= f) (P ∧ Q) := by
  cases x with
  | error d =>
    have hp : ¬P := fun h => by
      obtain ⟨a, ha⟩ := hx.exists_iff.2 h
      cases ha
    refine ⟨⟨?_, fun h => absurd h.1 hp⟩, fun e he => ?_⟩
    · rintro ⟨b, hb⟩
      cases hb
    · cases he
      exact hx.kind d rfl
  | ok a =>
    have hp : P := hx.exists_iff.1 ⟨a, rfl⟩
    exact (hf a).congr (and_iff_right hp).symm

theorem bind_pure (h : Needs x P) (f : α → β) : Needs (x >>= fun a => pure (f a)) P :=
  (h.bind fun a => Needs.ok (f a)).congr (and_iff_left trivial)

theorem map (h : Needs x P) (f : α → β) : Needs (x.map f) P := by
  have hb := h.bind_pure f
  cases x <;> exact hb

theorem mapM {f : α → Checked β} {P : α → Prop} (h : ∀ a, Needs (f a) (P a)) (l : List α) :
    Needs (l.mapM f) (∀ a ∈ l, P a) := by
  induction l with
  | nil => exact (Needs.ok []).congr (by simp)
  | cons a r ih =>
    rw [List.mapM_cons]
    refine ((h a).bind fun b => ih.bind_pure (b :: ·)).congr ?_
    rw [List.forall_mem_cons]

end Needs

/-! ## Exposed integers -/

/-- An integer of so many bits stands in a type, outside of structs. -/
inductive EvmType.Exposes (bits : Nat) : EvmType → Prop where
  | uint (spelling : String) : Exposes bits (.leaf (.uint bits) spelling)
  | int (spelling : String) : Exposes bits (.leaf (.int bits) spelling)
  | element {element : EvmType} {size : Option Nat} {spelling : String}
    (h : Exposes bits element) : Exposes bits (.array element size spelling)
  | component {c : Component} {components : List Component} {spelling : String}
    (hc : c ∈ components) (h : Exposes bits c.type) : Exposes bits (.tuple components none spelling)

namespace Typing

/-- A bucket of the table for the direction is wide enough. -/
def CoversBits (y : Typing) (d : Direction) (bits : Nat) : Prop :=
  ∃ b ∈ (y.leafNames d).integers, bits ≤ b.maxBits

/-- All integers that a type exposes are covered. -/
def Covers (y : Typing) (d : Direction) (t : EvmType) : Prop :=
  ∀ bits, t.Exposes bits → y.CoversBits d bits

variable {y : Typing} {d : Direction}

theorem exists_integer_iff {bits : Nat} {spelling : String} :
    (∃ name, (y.leafNames d).integer bits spelling = .ok name) ↔ y.CoversBits d bits := by
  have hnone := bucketFor?_eq_none_iff bits (y.leafNames d).integers
  unfold LeafNames.integer LeafNames.integer? CoversBits
  cases hb : bucketFor? bits (y.leafNames d).integers with
  | none =>
    have hall := hnone.1 hb
    constructor
    · rintro ⟨name, hname⟩
      cases hname
    · rintro ⟨b, hmem, hle⟩
      exact absurd (hall b hmem) (Nat.not_lt.2 hle)
  | some b =>
    refine ⟨fun _ => ?_, fun _ => ⟨b.name, rfl⟩⟩
    by_contra hnot
    have hall : ∀ b ∈ (y.leafNames d).integers, b.maxBits < bits :=
      fun b hmem => Nat.lt_of_not_le fun hle => hnot ⟨b, hmem, hle⟩
    rw [hnone.2 hall] at hb
    cases hb

theorem covers_leaf_iff {k : Leaf} {spelling : String} :
    y.Covers d (.leaf k spelling) ↔
      ∀ bits, k = .uint bits ∨ k = .int bits → y.CoversBits d bits := by
  constructor
  · rintro h bits (rfl | rfl)
    · exact h bits (.uint _)
    · exact h bits (.int _)
  · intro h bits hb
    cases hb with
    | uint => exact h bits (.inl rfl)
    | int => exact h bits (.inr rfl)

theorem exists_nameOf_iff {k : Leaf} {spelling : String} :
    (∃ name, (y.leafNames d).nameOf spelling k = .ok name) ↔ y.Covers d (.leaf k spelling) := by
  rw [covers_leaf_iff]
  cases k with
  | uint bits | int bits =>
    simp only [LeafNames.nameOf, exists_integer_iff]
    simp
  | address | bool | string | bytes | fixedBytes => simp [LeafNames.nameOf]

theorem covers_array_iff {element : EvmType} {size : Option Nat} {spelling : String} :
    y.Covers d (.array element size spelling) ↔ y.Covers d element := by
  constructor
  · intro h bits hb
    exact h bits (.element hb)
  · intro h bits hb
    cases hb with
    | element hb => exact h bits hb

theorem covers_tuple_iff {components : List Component} {spelling : String} :
    y.Covers d (.tuple components none spelling) ↔ ∀ c ∈ components, y.Covers d c.type := by
  constructor
  · intro h c hc bits hb
    exact h bits (.component hc hb)
  · intro h bits hb
    cases hb with
    | component hc hb => exact h _ hc bits hb

/-- Structs are looked up by name, whatever is in them. -/
theorem covers_struct {components : List Component} {n : StructName} {spelling : String} :
    y.Covers d (.tuple components (some n) spelling) := by
  intro bits hb
  cases hb

mutual

theorem exists_typeOf_iff : (t : EvmType) →
    ((∃ u, y.typeOf d true t = .ok u) ↔ y.Covers d t)
  | .leaf k spelling => by
    rw [typeOf, exists_map_eq_ok_iff, exists_nameOf_iff]
  | .array element size spelling => by
    rw [typeOf, exists_map_eq_ok_iff, exists_typeOf_iff element, covers_array_iff]
  | .tuple components none spelling => by
    rw [typeOf, exists_map_eq_ok_iff, exists_typesOf_iff components, covers_tuple_iff]
    rintro n ⟨⟩
  | .tuple components (some n) spelling => iff_of_true ⟨_, rfl⟩ covers_struct

theorem exists_typesOf_iff : (cs : List Component) →
    ((∃ us, y.typesOf d true cs = .ok us) ↔ ∀ c ∈ cs, y.Covers d c.type)
  | [] => by simp [typesOf]
  | ⟨name, t⟩ :: cs => by
    rw [List.forall_mem_cons, ← exists_typeOf_iff t, ← exists_typesOf_iff cs, typesOf]
    simp only [exists_bind_eq_ok_iff, pure_eq_ok_iff, exists_eq', and_true, exists_and_right]

end

/-! ## Texts -/

theorem needs_typeText (t : EvmType) : Needs (y.typeText d t) (y.Covers d t) := by
  refine .mapError ?_ fun _ => rfl
  rw [exists_map_eq_ok_iff, exists_typeOf_iff]

theorem needs_tupleText (cs : List Component) :
    Needs (y.tupleText d cs) (∀ c ∈ cs, y.Covers d c.type) := by
  refine .mapError ?_ fun _ => rfl
  rw [exists_map_eq_ok_iff, tupleOf, exists_map_eq_ok_iff, exists_typesOf_iff]

theorem needs_memberType (c : Component) : Needs (y.memberType d c) (y.Covers d c.type) :=
  (needs_typeText c.type).withinNamed c.name

theorem forall_mem_zipIdx_iff {α : Type} {P : α → Prop} {l : List α} :
    (∀ x ∈ l.zipIdx, P x.1) ↔ ∀ a ∈ l, P a := by
  rw [← List.forall_mem_map, List.zipIdx_map_fst]

theorem needs_argumentsText (inputs : List Component) :
    Needs (y.argumentsText inputs) (∀ i ∈ inputs, y.Covers .input i.type) := by
  have hitem (x : Component × Nat) :
      Needs (do let t ← y.memberType .input x.1; return memberText (argumentLabel x.1.name x.2) t)
        (y.Covers .input x.1.type) :=
    (needs_memberType x.1).bind_pure _
  refine ((Needs.mapM hitem inputs.zipIdx).bind_pure _).congr ?_
  exact forall_mem_zipIdx_iff (P := fun c : Component => y.Covers .input c.type)

theorem needs_resultText (outputs : List Component) :
    Needs (y.resultText outputs) (∀ o ∈ outputs, y.Covers .output o.type) := by
  match outputs with
  | [] => exact (Needs.ok _).congr (by simp)
  | [single] => exact (needs_memberType single).congr (by simp)
  | first :: second :: rest => exact needs_tupleText (first :: second :: rest)

end Typing

end AbiBindings
