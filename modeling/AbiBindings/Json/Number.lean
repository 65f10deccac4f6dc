/-!
# Numbers as they are written

A number is read into a significand of at most 64 bits and a decimal exponent.  Once a further
digit would not fit, the rest of the integer part only counts for the exponent and the rest of the
fraction for nothing.  The number is in range if the product of the significand and the power of
ten, each rounded to the 53 bits of a double, rounds to a finite double.
-/

namespace AbiBindings.Json

/-! ## Doubles -/

/-- A positive number rounded to 53 significant bits, a half going to the even neighbour. -/
def round53 (n : Nat) : Nat :=
  let excess := n.log2 + 1 - 53
  let quotient := n >>> excess
  let rest := n - (quotient <<< excess)
  let half := (1 <<< excess) / 2
  if excess = 0 then n
  else if half < rest || (rest == half && quotient % 2 == 1) then (quotient + 1) <<< excess
  else quotient <<< excess

/-- The largest power of ten that is a finite double. -/
def maxPower : Nat := 308

/-- A significand times a power of ten is a finite double. -/
def isFinite (significand : Nat) (exponent : Int) : Bool :=
  significand == 0 || exponent < 0 ||
    (exponent.toNat ≤ maxPower &&
      round53 (round53 significand * round53 (Nat.pow 10 exponent.toNat)) < 1 <<< 1024)

/-! ## Reading -/

/-- Largest significand and largest exponent that are kept. -/
def maxSignificand : Nat := 0xffffffffffffffff
def maxExponent : Nat := 0x7fffffff

/-- Value of an ASCII digit. -/
def digit (c : Char) : Nat := c.toNat - '0'.toNat

/-- Reads the digits of the integer part onto a significand; the digits that do not fit are
counted. -/
def readInteger (significand : Nat) : List Char → Nat × Nat
  | [] => (significand, 0)
  | c :: r =>
    let next := significand * 10 + digit c
    if maxSignificand < next then (significand, r.length + 1) else readInteger next r

/-- Reads the digits of the fraction onto a significand; the digits that fit are counted. -/
def readFraction (significand : Nat) : List Char → Nat × Nat
  | [] => (significand, 0)
  | c :: r =>
    let next := significand * 10 + digit c
    if maxSignificand < next then (significand, 0)
    else
      let (s, n) := readFraction next r
      (s, n + 1)

/-- The parts of a number: sign, integer digits, and where they are written, fraction digits and
the exponent's sign and digits. -/
structure NumberText where
  isNegative : Bool
  integer : List Char
  fraction : Option (List Char)
  exponent : Option (Bool × List Char)

namespace NumberText

/-- An integer of 64 bits, signed if it is negative; minus zero is none. -/
def integer? (t : NumberText) : Option Int :=
  let (n, dropped) := readInteger 0 t.integer
  if t.fraction.isSome || t.exponent.isSome || dropped ≠ 0 then none
  else if !t.isNegative then some n
  else if n = 0 || 0x8000000000000000 < n then none
  else some (-n)

/-- The number is not too large for a double. -/
def isInRange (t : NumberText) : Bool :=
  let (s, dropped) := readInteger 0 t.integer
  let (significand, places) := readFraction s (t.fraction.getD [])
  let start : Int := dropped - places
  match t.exponent with
  | none => isFinite significand start
  | some (isNegative, digits) =>
    let e := digits.foldl (fun n c => n * 10 + digit c) 0
    if maxExponent < e then significand == 0 || isNegative
    else isFinite significand (if isNegative then start - e else start + e)

end NumberText

end AbiBindings.Json
