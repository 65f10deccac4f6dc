/-!
# Keccak-256

The sponge of 25 lanes of 64 bits with a rate of 136 bytes and the plain `1 0* 1` padding, and the
hexadecimal text of its digest.  Selectors and topics of a contract are beginnings of it.
-/

namespace AbiBindings.Keccak

/-! ## Permutation -/

/-- Lanes of the state, row by row: lane `x + 5 * y` stands in column `x` of row `y`. -/
abbrev State := Array UInt64

/-- Constants mixed into the first lane, one for each round. -/
def roundConstants : List UInt64 := [
  0x0000000000000001, 0x0000000000008082, 0x800000000000808a, 0x8000000080008000,
  0x000000000000808b, 0x0000000080000001, 0x8000000080008081, 0x8000000000008009,
  0x000000000000008a, 0x0000000000000088, 0x0000000080008009, 0x000000008000000a,
  0x000000008000808b, 0x800000000000008b, 0x8000000000008089, 0x8000000000008003,
  0x8000000000008002, 0x8000000000000080, 0x000000000000800a, 0x800000008000000a,
  0x8000000080008081, 0x8000000000008080, 0x0000000080000001, 0x8000000080008008]

/-- Left rotations of the lanes, row by row. -/
def rotations : Array UInt64 := #[
  0, 1, 62, 28, 27,
  36, 44, 6, 55, 20,
  3, 10, 43, 25, 39,
  41, 45, 15, 21, 8,
  18, 2, 61, 56, 14]

def rotateLeft (w n : UInt64) : UInt64 :=
  if n == 0 then w else (w <<< n) ||| (w >>> (64 - n))

/-- Lane `i`, zero outside of the state. -/
def lane (s : State) (i : Nat) : UInt64 := s.getD i 0

/-- A state from the value of each lane. -/
def ofLanes (f : Nat → Nat → UInt64) : State :=
  ((List.range 25).map fun i => f (i % 5) (i / 5)).toArray

/-- Parity of a column. -/
def columnParity (s : State) (x : Nat) : UInt64 :=
  lane s x ^^^ lane s (x + 5) ^^^ lane s (x + 10) ^^^ lane s (x + 15) ^^^ lane s (x + 20)

/-- Adds the parities of the two neighbouring columns to every lane. -/
def theta (s : State) : State :=
  let parity := ((List.range 5).map (columnParity s)).toArray
  ofLanes fun x y =>
    lane s (x + 5 * y) ^^^ lane parity ((x + 4) % 5) ^^^ rotateLeft (lane parity ((x + 1) % 5)) 1

/-- Rotates the lanes and moves them to their new places. -/
def rhoPi (s : State) : State :=
  ofLanes fun x y =>
    let i := (x + 3 * y) % 5 + 5 * x
    rotateLeft (lane s i) (rotations.getD i 0)

/-- The only step that is not linear: each lane with its two right neighbours. -/
def chi (s : State) : State :=
  ofLanes fun x y =>
    lane s (x + 5 * y) ^^^
      ((lane s ((x + 1) % 5 + 5 * y) ^^^ 0xffffffffffffffff) &&& lane s ((x + 2) % 5 + 5 * y))

/-- Mixes a round constant into the first lane. -/
def iota (constant : UInt64) (s : State) : State := s.modify 0 (· ^^^ constant)

def round (s : State) (constant : UInt64) : State := iota constant (chi (rhoPi (theta s)))

def permute (s : State) : State := roundConstants.foldl round s

/-! ## Sponge -/

/-- Bytes absorbed between two permutations. -/
def rate : Nat := 136

/-- The message filled up to a multiple of the rate. -/
def pad (message : List UInt8) : List UInt8 :=
  let missing := rate - message.length % rate
  if missing == 1 then message ++ [0x81]
  else message ++ 0x01 :: (List.replicate (missing - 2) 0 ++ [0x80])

/-- Lane whose least significant byte comes first. -/
def laneOfBytes (bytes : List UInt8) : UInt64 :=
  bytes.foldr (fun b w => (w <<< 8) ||| b.toUInt64) 0

def bytesOfLane (w : UInt64) : List UInt8 :=
  (List.range 8).map fun i => (w >>> (8 * i).toUInt64).toUInt8

/-- Adds a block to the state. -/
def absorb (s : State) (block : List UInt8) : State :=
  ofLanes fun x y =>
    let i := x + 5 * y
    lane s i ^^^ laneOfBytes ((block.drop (8 * i)).take 8)

/-- Absorbs blocks of a padded message, at most `blocks` of them. -/
def absorbAll (blocks : Nat) (s : State) (message : List UInt8) : State :=
  match blocks with
  | 0 => s
  | n + 1 =>
    if message.isEmpty then s
    else absorbAll n (permute (absorb s (message.take rate))) (message.drop rate)

/-- The first 32 bytes of the state after the message. -/
def digest (message : List UInt8) : List UInt8 :=
  let padded := pad message
  let final := absorbAll (padded.length / rate) (Array.replicate 25 0) padded
  (final.toList.take 4).flatMap bytesOfLane

/-! ## Text -/

def hexByte (b : UInt8) : List Char :=
  [Nat.digitChar (b.toNat / 16), Nat.digitChar (b.toNat % 16)]

/-- The first `length` bytes of the digest of a text, in hexadecimal. -/
def hexDigest (length : Nat) (text : String) : String :=
  "0x" ++ String.ofList (((digest text.toUTF8.toList).take length).flatMap hexByte)

end AbiBindings.Keccak
