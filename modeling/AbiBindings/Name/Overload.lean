import AbiBindings.Diagnostic

/-!
# Identifiers of overloaded entries

Entries of one kind that share a name get identifiers of their own: the first one keeps the name,
the later ones are numbered `name_1`, `name_2`, … in order.  A number that makes a name which is
declared already is a clash.

    resolveNames kind names = .ok ids → ids.length = names.length      (length_of_resolveNames)
-/

namespace AbiBindings

/-! ## Algorithm -/

/-- The kinds of entries that other code refers to by name. -/
inductive EntryKind where
  | function | event | error
  deriving DecidableEq

/-- The kind as diagnostics call it. -/
def EntryKind.title : EntryKind → String
  | .function => "function"
  | .event => "event"
  | .error => "error"

/-- Why an entry cannot get an identifier. -/
inductive NameClash where
  /-- The numbered name of an overload is the name of an entry. -/
  | alreadyDeclared (kind : EntryKind) (name identifier : String)
  /-- Two entries would get one identifier. -/
  | assignedTwice (kind : EntryKind) (identifier : String)
  deriving DecidableEq

def NameClash.message : NameClash → String
  | .alreadyDeclared kind name identifier =>
    s!"overload of {kind.title} '{name}' would be named '{identifier}', which is already declared"
  | .assignedTwice kind identifier =>
    s!"{kind.title} identifier '{identifier}' is assigned twice"

def NameClash.diagnostic (c : NameClash) : Diagnostic := .nameCollision c.message

/-- The identifier of an entry that `count` entries of the same name precede. -/
def numberedName (name : String) (count : Nat) : String :=
  if count = 0 then name else name ++ "_" ++ toString count

/-- Resolves the names that remain, after `seen` names got the identifiers `assigned`, both last
one first. -/
def resolveAfter (kind : EntryKind) (declared seen assigned : List String) :
    List String → Except NameClash (List String)
  | [] => .ok []
  | name :: rest =>
    let count := seen.count name
    let identifier := numberedName name count
    if count ≠ 0 ∧ identifier ∈ declared then
      .error (.alreadyDeclared kind name identifier)
    else if identifier ∈ assigned then .error (.assignedTwice kind identifier)
    else
      (resolveAfter kind declared (name :: seen) (identifier :: assigned) rest).map (identifier :: ·)

/-- The identifiers of the entries of one kind, in declaration order. -/
def resolveNames (kind : EntryKind) (names : List String) : Except NameClash (List String) :=
  resolveAfter kind names [] [] names

/-! ## Lemmas -/

theorem length_of_resolveAfter {kind : EntryKind} {declared seen assigned names ids : List String}
    (h : resolveAfter kind declared seen assigned names = .ok ids) : ids.length = names.length := by
  induction names generalizing seen assigned ids with
  | nil => simp [resolveAfter] at h; simp [← h]
  | cons name rest ih =>
    unfold resolveAfter at h
    simp only at h
    split at h
    · simp at h
    · split at h
      · simp at h
      · revert h
        cases hr : resolveAfter kind declared (name :: seen)
            (numberedName name (seen.count name) :: assigned) rest with
        | error e => simp [Except.map]
        | ok rs => intro h; simp only [Except.map, Except.ok.injEq] at h; simp [← h, ih hr]

theorem length_of_resolveNames {kind : EntryKind} {names ids : List String}
    (h : resolveNames kind names = .ok ids) : ids.length = names.length :=
  length_of_resolveAfter h

end AbiBindings
