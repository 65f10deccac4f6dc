import AbiBindings.Text.Case
import AbiBindings.Text.Cluster

/-!
# Words of a name and camel case

`words` cuts a name at dashes, underscores and spaces, which vanish, and at the changes of case and
between letters and ASCII digits; a run of capitals followed by a small letter is cut before its
last capital.  `camel` writes the words next to each other, the first one small, the others with a
capital in front.
-/

namespace AbiBindings.Text

/-! ## Algorithm -/

/-- A cluster of ASCII digits. -/
def isDigitCluster (c : List Char) : Bool := c.all Char.isDigit

/-- A cluster that separates words and belongs to none. -/
def isSeparator (c : List Char) : Bool := c == ['-'] || c == ['_'] || c == [' ']

/-- A word ends between two neighbours. -/
def breaksBetween (a b : List Char) : Bool :=
  (isLower a && isUpper b) || (isUpper a && isDigitCluster b) || (isDigitCluster a && isUpper b) ||
    (isDigitCluster a && isLower b) || (isLower a && isDigitCluster b)

/-- A word ends between the first two of three neighbours: the last capital of a run starts the
small letters that follow it. -/
def breaksBeforeLast (a b c : List Char) : Bool := isUpper a && isUpper b && isLower c

/-- A word ends between `a` and `b`, which `after` follows. -/
def wordEnds (a b : List Char) (after : List (List Char)) : Bool :=
  breaksBetween a b ||
    (match after with
      | [] => false
      | c :: _ => breaksBeforeLast a b c)

/-- Splits clusters into words, some of them empty; the first word of the result is the one that
the first cluster belongs to. -/
def splitWords : List (List Char) → List (List (List Char))
  | [] => [[]]
  | [c] => if isSeparator c then [[], []] else [[c]]
  | c :: d :: r =>
    match splitWords (d :: r) with
    | [] => [[c]]
    | w :: ws =>
      if isSeparator c then [] :: w :: ws
      else if wordEnds c d r then [c] :: w :: ws
      else (c :: w) :: ws

/-- The words of a name, as lists of clusters. -/
def words (s : List Char) : List (List (List Char)) :=
  (splitWords (clusters s)).filter (!·.isEmpty)

/-- Small letters throughout. -/
def smallWord (w : List (List Char)) : List Char := lower w.flatten

/-- Only the first character in upper case. -/
def capitalized : List Char → List Char
  | [] => []
  | c :: r => upperChar c ++ lower r

/-- A capital in front and small letters after it; marks on the capital count as its rest. -/
def capitalWord (w : List (List Char)) : List Char := capitalized w.flatten

/-- The words of a name in camel case. -/
def camel (s : List Char) : List Char :=
  match words s with
  | [] => []
  | w :: ws => smallWord w ++ ws.flatMap capitalWord

end AbiBindings.Text
