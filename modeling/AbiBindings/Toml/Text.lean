import AbiBindings.Json.Reader

/-!
# Strings and white space of TOML

Strings stand between single or double quotes, on one line or, between three of them, on several.
Escapes count between double quotes only.  All readers take the text from a point on and give back
what follows.
-/

namespace AbiBindings.Toml

/-! ## Characters -/

/-- A space or a tab. -/
def isSpace (c : Char) : Bool := c == ' ' || c == '\t'

/-- A character that may stand inside of a line: no control but the tab. -/
def isLineChar (c : Char) : Bool := c == '\t' || (0x20 ≤ c.toNat && c.toNat != 0x7f)

/-- A character of a key without quotes. -/
def isBareKeyChar (c : Char) : Bool := c.isAlphanum || c == '-' || c == '_'

/-! ## White space -/

def skipSpaces (s : List Char) : List Char := s.dropWhile isSpace

/-- The text after the end of a line, if one comes next. -/
def afterNewline? : List Char → Option (List Char)
  | '\n' :: r => some r
  | '\r' :: '\n' :: r => some r
  | _ => none

/-- Drops a comment, up to the end of its line. -/
def skipComment : List Char → List Char
  | '#' :: r => r.dropWhile isLineChar
  | s => s

/-- What follows a line that holds nothing more but spaces and a comment. -/
def endLine? (s : List Char) : Option (List Char) :=
  match skipComment (skipSpaces s) with
  | [] => some []
  | s => afterNewline? s

/-- Drops spaces and ends of lines. -/
def skipBlankLines : List Char → List Char
  | [] => []
  | '\n' :: r => skipBlankLines r
  | '\r' :: '\n' :: r => skipBlankLines r
  | c :: r => if isSpace c then skipBlankLines r else c :: r

/-- Drops spaces, ends of lines and comments, at most `fuel` comments of them. -/
def skipFiller (fuel : Nat) (s : List Char) : List Char :=
  match fuel, skipBlankLines s with
  | fuel + 1, '#' :: r => skipFiller fuel (r.dropWhile isLineChar)
  | _, r => r

/-! ## Strings -/

/-- The character with a number, unless the number is that of a surrogate or none. -/
def scalar? (n : Nat) : Option Char :=
  if n < 0xd800 ∨ (0xdfff < n ∧ n ≤ 0x10ffff) then some (Char.ofNat n) else none

/-- The character that a letter after a backslash stands for. -/
def simpleEscape? (c : Char) : Option Char :=
  match c with
  | 'b' => some '\x08'
  | 't' => some '\t'
  | 'n' => some '\n'
  | 'f' => some '\x0c'
  | 'r' => some '\r'
  | '"' => some '"'
  | '\\' => some '\\'
  | _ => none

/-- The character of an escape, after its backslash, and what follows. -/
def readEscape? : List Char → Option (Char × List Char)
  | 'u' :: r =>
    if r.length < 4 then none
    else ((Json.hexNumber? (r.take 4)).bind scalar?).map fun c => (c, r.drop 4)
  | 'U' :: r =>
    if r.length < 8 then none
    else ((Json.hexNumber? (r.take 8)).bind scalar?).map fun c => (c, r.drop 8)
  | c :: r => (simpleEscape? c).map fun x => (x, r)
  | [] => none

/-- What a backslash at the end of a line joins: the rest of the line is blank, and all white space
up to the next text goes. -/
def joinedLine? (s : List Char) : Option (List Char) :=
  (afterNewline? (skipSpaces s)).map skipBlankLines

/-- The rest of a string in double quotes on one line. -/
def readBasic (fuel : Nat) (read : List Char) (s : List Char) : Option (String × List Char) :=
  match fuel, s with
  | fuel + 1, c :: r =>
    if c = '"' then some (String.ofList read.reverse, r)
    else if c = '\\' then (readEscape? r).bind fun (x, r) => readBasic fuel (x :: read) r
    else if isLineChar c then readBasic fuel (c :: read) r
    else none
  | _, _ => none

/-- The rest of a string in single quotes on one line. -/
def readLiteral (read : List Char) : List Char → Option (String × List Char)
  | [] => none
  | c :: r =>
    if c = '\'' then some (String.ofList read.reverse, r)
    else if isLineChar c then readLiteral (c :: read) r
    else none

/-- Three quotes end a string of several lines; up to two more right before them belong to it. -/
def closing? (quote : Char) (s : List Char) : Option (List Char × List Char) :=
  let quotes := s.takeWhile (· == quote)
  if quotes.length < 3 then none
  else
    let own := min (quotes.length - 3) 2
    some (quotes.take own, s.drop (own + 3))

/-- The rest of a string of several lines. -/
def readLines (escapes : Bool) (quote : Char) (fuel : Nat) (read : List Char) (s : List Char) :
    Option (String × List Char) :=
  match fuel with
  | 0 => none
  | fuel + 1 =>
    match closing? quote s with
    | some (own, r) => some (String.ofList (own.reverse ++ read).reverse, r)
    | none =>
      match afterNewline? s with
      | some r => readLines escapes quote fuel ('\n' :: read) r
      | none =>
        match s with
        | [] => none
        | c :: r =>
          if escapes && c == '\\' then
            match joinedLine? r with
            | some r => readLines escapes quote fuel read r
            | none => (readEscape? r).bind fun (x, r) => readLines escapes quote fuel (x :: read) r
          else if isLineChar c then readLines escapes quote fuel (c :: read) r
          else none

/-- Drops the end of a line right after the opening quotes. -/
def dropFirstNewline (s : List Char) : List Char := (afterNewline? s).getD s

/-- A string on one line, if one comes next. -/
def readLineString? : List Char → Option (String × List Char)
  | '"' :: r => readBasic (r.length + 1) [] r
  | '\'' :: r => readLiteral [] r
  | _ => none

/-- A string of either form. -/
def readString? : List Char → Option (String × List Char)
  | '"' :: '"' :: '"' :: r => readLines true '"' (r.length + 1) [] (dropFirstNewline r)
  | '\'' :: '\'' :: '\'' :: r => readLines false '\'' (r.length + 1) [] (dropFirstNewline r)
  | s => readLineString? s

end AbiBindings.Toml
