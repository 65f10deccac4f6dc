import AbiBindings.Text.ClusterTable

/-!
# Character clusters of names

A cluster is what a reader takes for one character: a letter with its marks, or a syllable with
its parts.  The rules cover texts made of letters, numbers and blanks.  Clusters cut a text
and lose nothing:

    (clusters s).flatten = s                     (flatten_clusters)
-/

namespace AbiBindings.Text

/-! ## Algorithm -/

/-- Part that a character plays in a syllable spelled by its parts, as in Hangul. -/
inductive SyllablePart where
  | leading | vowel | trailing | openSyllable | closedSyllable
  deriving DecidableEq

/-- The part a character is, if it is one: those of Hangul, and the vowels of Kirat Rai. -/
def syllablePart? (c : Char) : Option SyllablePart :=
  let n := c.toNat
  if (0x1100 ≤ n && n ≤ 0x115f) || (0xa960 ≤ n && n ≤ 0xa97c) then some .leading
  else if (0x1160 ≤ n && n ≤ 0x11a7) || (0xd7b0 ≤ n && n ≤ 0xd7c6) ||
    n == 0x16d63 || (0x16d67 ≤ n && n ≤ 0x16d6a) then some .vowel
  else if (0x11a8 ≤ n && n ≤ 0x11ff) || (0xd7cb ≤ n && n ≤ 0xd7fb) then some .trailing
  else if 0xac00 ≤ n && n ≤ 0xd7a3 then
    some (if (n - 0xac00) % 28 == 0 then .openSyllable else .closedSyllable)
  else none

/-- Two neighbouring parts belong to one syllable. -/
def SyllablePart.joins : SyllablePart → SyllablePart → Bool
  | .leading, .trailing => false
  | .leading, _ => true
  | .openSyllable, .vowel | .vowel, .vowel => true
  | .openSyllable, .trailing | .vowel, .trailing => true
  | .closedSyllable, .trailing | .trailing, .trailing => true
  | _, _ => false

/-- No cluster boundary lies between two neighbours. -/
def joins (a b : Char) : Bool :=
  joinsBefore.contains b || joinsAfter.contains a ||
    (match syllablePart? a, syllablePart? b with
      | some p, some q => p.joins q
      | _, _ => false)

/-- Puts a character in front of clustered text. -/
def clusterCons (c : Char) : List (List Char) → List (List Char)
  | (d :: cluster) :: rest =>
    if joins c d then (c :: d :: cluster) :: rest else [c] :: (d :: cluster) :: rest
  | rest => [c] :: rest

/-- The clusters of a text, in order. -/
def clusters : List Char → List (List Char)
  | [] => []
  | c :: r => clusterCons c (clusters r)

/-! ## Lemmas -/

theorem flatten_clusterCons (c : Char) (cs : List (List Char)) :
    (clusterCons c cs).flatten = c :: cs.flatten := by
  unfold clusterCons
  split
  · split <;> simp
  · simp

theorem flatten_clusters (s : List Char) : (clusters s).flatten = s := by
  induction s with
  | nil => rfl
  | cons c r ih => simp [clusters, flatten_clusterCons, ih]

end AbiBindings.Text
