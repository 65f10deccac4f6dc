import AbiBindings.Diagnostic
import AbiBindings.Text.Blank

/-!
# Tables of type names

What leaves are called in the generated declarations, where values are accepted and where they are
returned, and the imports that bring the names in.  An integer is called by the narrowest bucket
that its bits fit in, the first one of several of a width.
-/

namespace AbiBindings

/-! ## Tables -/

/-- Integers of at most so many bits have this name. -/
structure IntegerBucket where
  maxBits : Nat
  name : String
  deriving DecidableEq

/-- The names of leaves in one direction. -/
structure LeafNames where
  address : String
  boolean : String
  string : String
  /-- Bytes of a fixed number. -/
  bytes : String
  /-- Bytes of any number. -/
  dynamicBytes : String
  integers : List IntegerBucket
  deriving DecidableEq

/-- Names that a module exports. -/
structure TypeImport where
  module : String
  names : List String
  deriving DecidableEq

structure TypeNames where
  /-- Names where values are accepted. -/
  input : LeafNames
  /-- Names where values are returned. -/
  output : LeafNames
  imports : List TypeImport
  deriving DecidableEq

/-! ## Integers -/

/-- The better of two buckets for the same bits: the narrower one, or the one found first. -/
def IntegerBucket.better (found b : IntegerBucket) : IntegerBucket :=
  if b.maxBits < found.maxBits then b else found

/-- The bucket for integers of so many bits. -/
def bucketFor? (bits : Nat) (buckets : List IntegerBucket) : Option IntegerBucket :=
  match buckets.filter (bits ≤ ·.maxBits) with
  | [] => none
  | b :: rest => some (rest.foldl IntegerBucket.better b)

/-- The name of an integer, if a bucket covers it. -/
def LeafNames.integer? (bits : Nat) (l : LeafNames) : Option String :=
  (bucketFor? bits l.integers).map (·.name)

/-! ## Checks -/

/-- Why a table cannot be used. -/
inductive TypeNamesFault where
  | emptyName (leaf : String)
  | noBuckets
  | invalidBucket (bucket : IntegerBucket)
  deriving DecidableEq

def TypeNamesFault.message : TypeNamesFault → String
  | .emptyName leaf => s!"type name for '{leaf}' is empty"
  | .noBuckets => "at least one integer bucket is required"
  | .invalidBucket b =>
    r"invalid integer bucket { maxBits: " ++ s!"{b.maxBits}, name: '{b.name}'" ++ r" }"

/-- The names of the leaves that are no integers, by what the configuration calls them. -/
def LeafNames.plain (l : LeafNames) : List (String × String) :=
  [("address", l.address), ("boolean", l.boolean), ("string", l.string), ("bytes", l.bytes),
    ("dynamicBytes", l.dynamicBytes)]

/-- A bucket that covers something and has a name. -/
def IntegerBucket.isValid (b : IntegerBucket) : Bool :=
  b.maxBits != 0 && !Text.isBlankText b.name

/-- Every leaf has a name, and every bucket is valid. -/
def LeafNames.check (l : LeafNames) : Except TypeNamesFault Unit :=
  match l.plain.find? fun p => Text.isBlankText p.2 with
  | some (leaf, _) => .error (.emptyName leaf)
  | none =>
    if l.integers.isEmpty then .error .noBuckets
    else
      match l.integers.find? fun b => !b.isValid with
      | some b => .error (.invalidBucket b)
      | none => .ok ()

/-- The check of one direction, placed in it. -/
def LeafNames.validate (direction : String) (l : LeafNames) : Checked Unit :=
  Checked.within direction (l.check.mapError fun f => Diagnostic.configuration f.message)

/-- Both directions can be used. -/
def TypeNames.validate (n : TypeNames) : Checked Unit := do
  n.input.validate "input"
  n.output.validate "output"

/-! ## Lemmas -/

theorem bucketFor?_eq_none_iff (bits : Nat) (buckets : List IntegerBucket) :
    bucketFor? bits buckets = none ↔ ∀ b ∈ buckets, b.maxBits < bits := by
  unfold bucketFor?
  cases h : buckets.filter (bits ≤ ·.maxBits) with
  | nil => simpa [List.filter_eq_nil_iff] using h
  | cons b rest =>
    simp only [reduceCtorEq, false_iff]
    intro hall
    have hb : b ∈ buckets.filter (bits ≤ ·.maxBits) := by simp [h]
    simp only [List.mem_filter, decide_eq_true_eq] at hb
    have := hall b hb.1
    omega

end AbiBindings
