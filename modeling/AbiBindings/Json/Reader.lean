import AbiBindings.Json.Basic
import AbiBindings.Json.Number

/-!
# Reading JSON

A strict reader: one value, white space around it, nothing else.  Arrays and objects nest up to a
limit, escapes spell whole characters, numbers fit a double.
-/

namespace AbiBindings.Json

/-! ## Lexemes -/

/-- Drops the white space of the format, which is less than the white space of texts. -/
def skipSpace : List Char → List Char
  | [] => []
  | c :: r => if c = ' ' ∨ c = '\t' ∨ c = '\n' ∨ c = '\r' then skipSpace r else c :: r

def hexValue? (c : Char) : Option Nat :=
  if '0' ≤ c ∧ c ≤ '9' then some (c.toNat - '0'.toNat)
  else if 'a' ≤ c ∧ c ≤ 'f' then some (c.toNat - 'a'.toNat + 10)
  else if 'A' ≤ c ∧ c ≤ 'F' then some (c.toNat - 'A'.toNat + 10)
  else none

/-- Value of a run of hexadecimal digits. -/
def hexNumber? (digits : List Char) : Option Nat :=
  digits.foldlM (fun n c => (hexValue? c).map fun d => 16 * n + d) 0

/-- The character that a letter after a backslash stands for. -/
def simpleEscape? (c : Char) : Option Char :=
  match c with
  | '"' => some '"'
  | '\\' => some '\\'
  | '/' => some '/'
  | 'b' => some '\x08'
  | 'f' => some '\x0c'
  | 'n' => some '\n'
  | 'r' => some '\r'
  | 't' => some '\t'
  | _ => none

def isHighSurrogate (unit : Nat) : Bool := 0xd800 ≤ unit && unit ≤ 0xdbff
def isLowSurrogate (unit : Nat) : Bool := 0xdc00 ≤ unit && unit ≤ 0xdfff

/-- What a numeric escape adds to a string. -/
inductive UnitStep where
  /-- A whole character. -/
  | char (c : Char)
  /-- The first half of one. -/
  | half (high : Nat)

/-- A numeric escape, after the first half of a character or not. -/
def unitStep? (high? : Option Nat) (unit : Nat) : Option UnitStep :=
  match high? with
  | some high =>
    if isLowSurrogate unit then
      some (.char (Char.ofNat (0x10000 + (high - 0xd800) * 0x400 + (unit - 0xdc00))))
    else none
  | none =>
    if isHighSurrogate unit then some (.half unit)
    else if isLowSurrogate unit then none
    else some (.char (Char.ofNat unit))

/-- The rest of a string after its opening quote, with the text read so far, last character first,
and the half character that an escape has begun. -/
def readString (high? : Option Nat) (read : List Char) : List Char → Option (String × List Char)
  | '\\' :: 'u' :: a :: b :: c :: d :: r =>
    ((hexNumber? [a, b, c, d]).bind (unitStep? high?)).bind fun step =>
      match step with
      | .char x => readString none (x :: read) r
      | .half high => readString (some high) read r
  | '\\' :: c :: r =>
    if high?.isSome then none
    else (simpleEscape? c).bind fun x => readString none (x :: read) r
  | '"' :: r => if high?.isSome then none else some (String.ofList read.reverse, r)
  | c :: r =>
    if high?.isSome || c == '\\' || c.toNat < 0x20 then none else readString none (c :: read) r
  | [] => none

/-- The digits at the front, and what follows them. -/
def spanDigits (s : List Char) : List Char × List Char := s.span Char.isDigit

/-- A number, and what follows it.  The integer part has no leading zeros. -/
def readNumber (s : List Char) : Option (NumberText × List Char) :=
  let (isNegative, s) := match s with
    | '-' :: r => (true, r)
    | s => (false, s)
  let (whole, s) := spanDigits s
  if whole.isEmpty || (whole.head? == some '0' && whole.length != 1) then none
  else
    let fraction? := match s with
      | '.' :: r =>
        let (digits, rest) := spanDigits r
        if digits.isEmpty then none else some (some digits, rest)
      | s => some (none, s)
    fraction?.bind fun (fraction, s) =>
      let exponent? := match s with
        | c :: r =>
          if c = 'e' ∨ c = 'E' then
            let (isNegative, r) := match r with
              | '-' :: r => (true, r)
              | '+' :: r => (false, r)
              | r => (false, r)
            let (digits, rest) := spanDigits r
            if digits.isEmpty then none else some (some (isNegative, digits), rest)
          else some (none, c :: r)
        | [] => some (none, [])
      exponent?.map fun (exponent, s) => (⟨isNegative, whole, fraction, exponent⟩, s)

/-- The value of a number in range. -/
def numberValue? (t : NumberText) : Option Json :=
  match t.integer? with
  | some n => some (.integer n)
  | none => if t.isInRange then some .real else none

/-! ## Values -/

mutual

/-- A value with white space before it.  Arrays and objects nest at most `depth` deep. -/
def readValue (fuel depth : Nat) (s : List Char) : Option (Json × List Char) :=
  match fuel with
  | 0 => none
  | fuel + 1 =>
    match skipSpace s with
    | 'n' :: 'u' :: 'l' :: 'l' :: r => some (.null, r)
    | 't' :: 'r' :: 'u' :: 'e' :: r => some (.bool true, r)
    | 'f' :: 'a' :: 'l' :: 's' :: 'e' :: r => some (.bool false, r)
    | '"' :: r => (readString none [] r).map fun (t, r) => (.string t, r)
    | '[' :: r =>
      match depth with
      | 0 => none
      | depth + 1 =>
        match skipSpace r with
        | ']' :: r => some (.array [], r)
        | r => readItems fuel depth [] r
    | '{' :: r =>
      match depth with
      | 0 => none
      | depth + 1 =>
        match skipSpace r with
        | '}' :: r => some (.object [], r)
        | r => readFields fuel depth [] r
    | r => (readNumber r).bind fun (t, r) => (numberValue? t).map fun v => (v, r)

/-- The items of an array from the first or a comma on, after the ones already read, last one
first. -/
def readItems (fuel depth : Nat) (read : List Json) (s : List Char) : Option (Json × List Char) :=
  match fuel with
  | 0 => none
  | fuel + 1 =>
    (readValue fuel depth s).bind fun (v, r) =>
      match skipSpace r with
      | ',' :: r => readItems fuel depth (v :: read) r
      | ']' :: r => some (.array (v :: read).reverse, r)
      | _ => none

/-- The fields of an object from the first or a comma on, after the ones already read, last one
first. -/
def readFields (fuel depth : Nat) (read : List (String × Json)) (s : List Char) :
    Option (Json × List Char) :=
  match fuel with
  | 0 => none
  | fuel + 1 =>
    match skipSpace s with
    | '"' :: r =>
      (readString none [] r).bind fun (name, r) =>
        match skipSpace r with
        | ':' :: r =>
          (readValue fuel depth r).bind fun (v, r) =>
            match skipSpace r with
            | ',' :: r => readFields fuel depth ((name, v) :: read) r
            | '}' :: r => some (.object ((name, v) :: read).reverse, r)
            | _ => none
        | _ => none
    | _ => none

end

/-- How deep arrays and objects of a document may nest. -/
def nestingLimit : Nat := 127

/-- The value of a document whose arrays and objects nest at most `depth` deep. -/
def parseWithin (depth : Nat) (text : String) : Option Json :=
  let s := text.toList
  (readValue (2 * s.length + 2) depth s).bind fun (v, r) =>
    if (skipSpace r).isEmpty then some v else none

/-- The value of a document. -/
def parse? (text : String) : Option Json := parseWithin nestingLimit text

end AbiBindings.Json
