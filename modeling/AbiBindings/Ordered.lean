/-!
# Ordered lists without repetitions

`insertDistinct` keeps a list ordered and adds nothing that it already holds; `sortDistinct` builds
such a list.

    a ∈ sortDistinct lt xs ↔ a ∈ xs                        (mem_sortDistinct)
-/

namespace AbiBindings

variable {α : Type} [DecidableEq α]

/-! ## Algorithm -/

/-- Inserts before the first greater element, unless an equal one comes first. -/
def insertDistinct (lt : α → α → Bool) (a : α) : List α → List α
  | [] => [a]
  | b :: rest =>
    if a = b then b :: rest
    else if lt a b then a :: b :: rest
    else b :: insertDistinct lt a rest

/-- The elements of a list in order, each once. -/
def sortDistinct (lt : α → α → Bool) (items : List α) : List α :=
  items.foldr (insertDistinct lt) []

/-- Order of texts by code points. -/
def textLt (a b : String) : Bool := a < b

/-- Order of sequences of texts: the first difference decides, and a beginning comes first. -/
def textsLt (a b : List String) : Bool := a < b

/-! ## Lemmas -/

theorem mem_insertDistinct (lt : α → α → Bool) (a b : α) (l : List α) :
    b ∈ insertDistinct lt a l ↔ b = a ∨ b ∈ l := by
  induction l with
  | nil => simp [insertDistinct]
  | cons c r ih =>
    unfold insertDistinct
    split
    · rename_i h; subst h; simp
    · split
      · simp
      · simp only [List.mem_cons, ih]
        constructor <;> (rintro (h | h | h) <;> simp [h])

theorem mem_sortDistinct (lt : α → α → Bool) (b : α) (items : List α) :
    b ∈ sortDistinct lt items ↔ b ∈ items := by
  induction items with
  | nil => simp [sortDistinct]
  | cons a r ih =>
    have : sortDistinct lt (a :: r) = insertDistinct lt a (sortDistinct lt r) := rfl
    rw [this, mem_insertDistinct, ih, List.mem_cons]

end AbiBindings
