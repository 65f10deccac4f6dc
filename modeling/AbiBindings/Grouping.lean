import AbiBindings.Indexed

/-!
# Groups in order of first occurrence

`groupByFirstSeen` collects the items of a list under their keys.  Keys stand in the order in which
they first occur, and the items of a key in the order of the list.  The group of a key is found by
its position, which is kept in an index.
-/

namespace AbiBindings

variable {α κ : Type} [DecidableEq κ]

/-- Groups of items, with the position of each key. -/
abbrev Groups (α κ : Type) [DecidableEq κ] := Indexed (Prod.fst : κ × List α → κ)

/-- Adds an item to the group of its key, or starts a group at the end. -/
def Groups.add (key : α → κ) (groups : Groups α κ) (item : α) : Groups α κ :=
  match h : groups.slot? (key item) with
  | some slot => groups.modify slot (fun g => (g.1, g.2 ++ [item])) fun _ => rfl
  | none => groups.push (key item, [item]) h

/-- The items of a list by key. -/
def groupByFirstSeen (key : α → κ) (items : List α) : List (κ × List α) :=
  (items.foldl (Groups.add key) Indexed.empty).items

end AbiBindings
