import AbiBindings.Text.CaseTable

/-!
# Upper and lower case

`upperChar` and `lowerChar` are the full case mappings of one character, which may give several
characters (`ß` becomes `SS`).  `lower` maps a whole text; it differs from the character-wise map
only in the capital sigma, which becomes `ς` at the end of a word and `σ` elsewhere.
-/

namespace AbiBindings.Text

/-! ## Algorithm -/

/-- First image of `n` in a list of runs. -/
def runImage? (runs : List CaseRun) (n : Nat) : Option Nat := runs.findSome? (·.image? n)

/-- Image of one character: an expansion, a run, or the character itself. -/
def mapCase (expansions : List (Nat × List Nat)) (runs : List CaseRun) (c : Char) : List Char :=
  match expansions.lookup c.toNat with
  | some cs => cs.map Char.ofNat
  | none =>
    match runImage? runs c.toNat with
    | some n => [Char.ofNat n]
    | none => [c]

/-- Upper case of one character. -/
def upperChar (c : Char) : List Char :=
  if c.toNat < 0x80 then [c.toUpper] else mapCase upperExpansions upperRuns c

/-- Lower case of one character standing alone. -/
def lowerChar (c : Char) : List Char :=
  if c.toNat < 0x80 then [c.toLower] else mapCase lowerExpansions lowerRuns c

/-- The nearest character that is not case-ignorable has a case. -/
def casedFirst (s : List Char) : Bool :=
  match s.dropWhile caseIgnorableRanges.contains with
  | [] => false
  | c :: _ => casedRanges.contains c

/-- A capital sigma between `before` (nearest character first) and `after` ends a word. -/
def isFinalSigma (before after : List Char) : Bool := casedFirst before && !casedFirst after

/-- Lower case of a text whose preceding characters, nearest first, are `before`. -/
def lowerAfter (before : List Char) : List Char → List Char
  | [] => []
  | c :: r =>
    (if c = 'Σ' then [if isFinalSigma before r then 'ς' else 'σ'] else lowerChar c) ++
      lowerAfter (c :: before) r

/-- Lower case of a text. -/
def lower (s : List Char) : List Char := lowerAfter [] s

/-- Upper case of a text. -/
def upper (s : List Char) : List Char := s.flatMap upperChar

/-- A character cluster that is its own upper case and has another lower case. -/
def isUpper (s : List Char) : Bool := upper s != lower s && s == upper s

/-- A character cluster that is its own lower case and has another upper case. -/
def isLower (s : List Char) : Bool := upper s != lower s && s == lower s

/-! ## Lemmas -/

/-- What holds of the codes of ASCII characters holds of ASCII characters. -/
theorem ascii_forall {P : Char → Prop} (h : ∀ n, n < 0x80 → P (Char.ofNat n)) {c : Char}
    (hc : c.toNat < 0x80) : P c := by
  have := h c.toNat hc
  rwa [Char.ofNat_toNat] at this

theorem upper_append (s t : List Char) : upper (s ++ t) = upper s ++ upper t := by
  simp [upper]

end AbiBindings.Text
