import AbiBindings.Json.Number
import AbiBindings.Json.Reader

/-!
# Numbers, dates and truth values of TOML

Integers have 64 bits and a sign; floats must not exceed the range of doubles upwards; dates must
exist.  Readers give back what follows.  A float counts as a number without a value, and a date or
time as an object of one field.
-/

namespace AbiBindings.Toml

/-! ## Digits -/

/-- Digits of a base with underscores between them: after a digit, more digits or an underscore
that a digit follows. -/
def readMoreDigits (isDigit : Char → Bool) (read : List Char) :
    List Char → Option (List Char × List Char)
  | [] => some (read.reverse, [])
  | '_' :: c :: r => if isDigit c then readMoreDigits isDigit (c :: read) r else none
  | ['_'] => none
  | c :: r =>
    if isDigit c then readMoreDigits isDigit (c :: read) r else some (read.reverse, c :: r)

/-- At least one digit of a base. -/
def readDigits? (isDigit : Char → Bool) : List Char → Option (List Char × List Char)
  | [] => none
  | c :: r => if isDigit c then readMoreDigits isDigit [c] r else none

/-- Decimal digits without leading zeros. -/
def readDecimal? : List Char → Option (List Char × List Char)
  | '0' :: r => some (['0'], r)
  | s => readDigits? Char.isDigit s

/-- A sign, if there is one: whether it is a minus. -/
def readSign : List Char → Option Bool × List Char
  | '+' :: r => (some false, r)
  | '-' :: r => (some true, r)
  | s => (none, s)

/-- The value of digits in a base. -/
def valueIn (base : Nat) (digits : List Char) : Nat :=
  digits.foldl (fun n c => base * n + (Json.hexValue? c).getD 0) 0

/-! ## Integers -/

/-- An integer of 64 bits with a sign. -/
def integer64? (isNegative : Bool) (n : Nat) : Option Json :=
  if isNegative then if n ≤ 0x8000000000000000 then some (.integer (-n)) else none
  else if n < 0x8000000000000000 then some (.integer n) else none

/-- A natural number with the mark of another base in front. -/
def readMarked? (base : Nat) (isDigit : Char → Bool) (s : List Char) :
    Option (Json × List Char) :=
  (readDigits? isDigit s).bind fun (digits, r) =>
    (integer64? false (valueIn base digits)).map fun v => (v, r)

def readInteger? : List Char → Option (Json × List Char)
  | '0' :: 'x' :: r => readMarked? 16 (fun c => (Json.hexValue? c).isSome) r
  | '0' :: 'o' :: r => readMarked? 8 (fun c => '0' ≤ c && c ≤ '7') r
  | '0' :: 'b' :: r => readMarked? 2 (fun c => c == '0' || c == '1') r
  | s =>
    let (sign, r) := readSign s
    (readDecimal? r).bind fun (digits, r) =>
      (integer64? (sign == some true) (valueIn 10 digits)).map fun v => (v, r)

/-! ## Floats -/

/-- Half a step above the largest double: from here on a number counts as infinite. -/
def infiniteFrom : Nat := 0x3fffffffffffff <<< 970

/-- The number `digits * 10 ^ exponent` is larger than every double. -/
def isInfinite (digits : List Char) (exponent : Int) : Bool :=
  let significand := valueIn 10 digits
  let places := (toString significand).length
  if significand = 0 then false
  else if 400 < places + exponent then true
  else if places + exponent < 300 then false
  else if 0 ≤ exponent then infiniteFrom ≤ significand * Nat.pow 10 exponent.toNat
  else infiniteFrom * Nat.pow 10 (-exponent).toNat ≤ significand

/-- An exponent, after its letter. -/
def readExponent? (s : List Char) : Option (Int × List Char) :=
  let (sign, r) := readSign s
  (readDigits? Char.isDigit r).map fun (digits, r) =>
    let n : Int := valueIn 10 digits
    (if sign == some true then -n else n, r)

/-- An exponent with its letter, or nothing. -/
def readOptionalExponent? : List Char → Option (Option Int × List Char)
  | c :: r =>
    if c = 'e' ∨ c = 'E' then (readExponent? r).map fun (e, r) => (some e, r)
    else some (none, c :: r)
  | [] => some (none, [])

/-- The end of a float: a number in range. -/
def float? (sign : Option Bool) (digits : List Char) (exponent : Int) (r : List Char) :
    Option (Json × List Char) :=
  if sign != some true && isInfinite digits exponent then none else some (.real, r)

/-- What comes next as a float. -/
inductive FloatReading where
  /-- A float or what failed inside of one. -/
  | float (result : Option (Json × List Char))
  /-- No float. -/
  | other

/-- A float with a fraction or an exponent, or one of the named ones. -/
def readFloat (s : List Char) : FloatReading :=
  let (sign, r) := readSign s
  match r with
  | 'i' :: 'n' :: 'f' :: r => .float (some (.real, r))
  | 'n' :: 'a' :: 'n' :: r => .float (some (.real, r))
  | r =>
    match readDecimal? r with
    | none => .other
    | some (whole, '.' :: r) =>
      .float <| (readDigits? Char.isDigit r).bind fun (fraction, r) =>
        (readOptionalExponent? r).bind fun (e, r) =>
          float? sign (whole ++ fraction) (e.getD 0 - fraction.length) r
    | some (whole, c :: r) =>
      if c = 'e' ∨ c = 'E' then
        .float <| (readExponent? r).bind fun (e, r) => float? sign whole e r
      else .other
    | some (_, []) => .other

/-! ## Dates and times -/

/-- A number of exactly so many digits. -/
def readFixed? (count : Nat) (s : List Char) : Option (Nat × List Char) :=
  let digits := s.take count
  if digits.length = count ∧ digits.all Char.isDigit then some (valueIn 10 digits, s.drop count)
  else none

/-- A character that has to come next. -/
def expect? (c : Char) : List Char → Option (List Char)
  | [] => none
  | d :: r => if d = c then some r else none

def isLeapYear (year : Nat) : Bool := year % 4 == 0 && (year % 100 != 0 || year % 400 == 0)

def daysIn (year month : Nat) : Nat :=
  if month = 2 then if isLeapYear year then 29 else 28
  else if month = 4 ∨ month = 6 ∨ month = 9 ∨ month = 11 then 30
  else 31

/-- Month and day after the year and its dash. -/
def readMonthDay? (year : Nat) (s : List Char) : Option (List Char) := do
  let (month, r) ← readFixed? 2 s
  guard (1 ≤ month ∧ month ≤ 12)
  let r ← expect? '-' r
  let (day, r) ← readFixed? 2 r
  guard (1 ≤ day ∧ day ≤ daysIn year month)
  return r

/-- Hours followed by a colon. -/
def readHours? (s : List Char) : Option (List Char) := do
  let (hours, r) ← readFixed? 2 s
  guard (hours ≤ 23)
  expect? ':' r

/-- A fraction of a second, or nothing. -/
def readSecondFraction? : List Char → Option (List Char)
  | '.' :: r =>
    if (r.head?.map Char.isDigit).getD false then some (r.dropWhile Char.isDigit)
    else some ('.' :: r)
  | s => some s

/-- Minutes and seconds after the hours. -/
def readMinutesSeconds? (s : List Char) : Option (List Char) := do
  let (minutes, r) ← readFixed? 2 s
  guard (minutes ≤ 59)
  let r ← expect? ':' r
  let (seconds, r) ← readFixed? 2 r
  guard (seconds ≤ 60)
  readSecondFraction? r

/-- A time zone, or nothing. -/
def readZone? : List Char → Option (List Char)
  | 'Z' :: r | 'z' :: r => some r
  | '+' :: r | '-' :: r => do
    let r ← readHours? r
    let (minutes, r) ← readFixed? 2 r
    guard (minutes ≤ 59)
    return r
  | s => some s

/-- A time after a date, or nothing. -/
def readTimeAfterDate? (s : List Char) : Option (List Char) :=
  match s with
  | c :: r =>
    if c = 'T' ∨ c = 't' ∨ c = ' ' then
      match readHours? r with
      | some r => (readMinutesSeconds? r).bind readZone?
      | none => some s
    else some s
  | [] => some []

/-- What a date or time is read as. -/
def dateValue : Json := .object [("date", .null)]

/-- What comes next as a date or time. -/
inductive DateReading where
  /-- What follows a date or time, or what failed inside of one. -/
  | date (result : Option (List Char))
  /-- No date. -/
  | other

/-- A date, a time, or both. -/
def readDate (s : List Char) : DateReading :=
  match readFixed? 4 s with
  | some (year, '-' :: r) => .date ((readMonthDay? year r).bind readTimeAfterDate?)
  | _ =>
    match readHours? s with
    | some r => .date (readMinutesSeconds? r)
    | none => .other

/-! ## All -/

/-- A value that starts with a sign or a digit. -/
def readNumeric? (s : List Char) : Option (Json × List Char) :=
  match readDate s with
  | .date r => r.map fun r => (dateValue, r)
  | .other =>
    match readFloat s with
    | .float r => r
    | .other => readInteger? s

/-- A value without parts that is no string. -/
def readScalar? : List Char → Option (Json × List Char)
  | 't' :: 'r' :: 'u' :: 'e' :: r => some (.bool true, r)
  | 'f' :: 'a' :: 'l' :: 's' :: 'e' :: r => some (.bool false, r)
  | 'i' :: 'n' :: 'f' :: r => some (.real, r)
  | 'n' :: 'a' :: 'n' :: r => some (.real, r)
  | c :: r => if c = '+' ∨ c = '-' ∨ c.isDigit then readNumeric? (c :: r) else none
  | [] => none

end AbiBindings.Toml
