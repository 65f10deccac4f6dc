import AbiBindings.Toml.Scalar
import AbiBindings.Toml.Table
import AbiBindings.Toml.Text

/-!
# Reading TOML

A document is a sequence of lines: keys with values, headers of tables and of items of arrays of
tables, comments and blank lines.  It is read into the value that JSON would give it.
-/

namespace AbiBindings.Toml

/-! ## Keys -/

/-- Arrays and inline tables nest less deep than this, and a key has fewer parts. -/
def nestingLimit : Nat := 80

/-- One part of a key, with or without quotes. -/
def readKeyPart? (s : List Char) : Option (String × List Char) :=
  match s with
  | '"' :: _ | '\'' :: _ => readLineString? s
  | _ =>
    let part := s.takeWhile isBareKeyChar
    if part.isEmpty then none else some (String.ofList part, s.dropWhile isBareKeyChar)

/-- The parts of a key after those already read, last one first; spaces may surround each part. -/
def readKeyParts (fuel : Nat) (read : List String) (s : List Char) :
    Option (List String × List Char) :=
  match fuel with
  | 0 => none
  | fuel + 1 =>
    (readKeyPart? (skipSpaces s)).bind fun (part, r) =>
      match skipSpaces r with
      | '.' :: r => readKeyParts fuel (part :: read) r
      | r => some ((part :: read).reverse, r)

/-- A key: the parts before its last dot, and the part after it. -/
def readKey? (s : List Char) : Option (List String × String × List Char) :=
  (readKeyParts nestingLimit [] s).bind fun (parts, r) =>
    if nestingLimit ≤ parts.length then none
    else parts.getLast?.map fun last => (parts.dropLast, last, r)

/-! ## Values -/

mutual

/-- A value.  Arrays and inline tables nest less than `depth` deep. -/
def readValue (fuel depth : Nat) (s : List Char) : Option (Json × List Char) :=
  match fuel with
  | 0 => none
  | fuel + 1 =>
    match s with
    | '"' :: _ | '\'' :: _ => (readString? s).map fun (t, r) => (.string t, r)
    | '[' :: r =>
      match depth with
      | 0 | 1 => none
      | depth + 1 => readItems fuel depth [] r
    | '{' :: r =>
      match depth with
      | 0 | 1 => none
      | depth + 1 =>
        match skipSpaces r with
        | '}' :: r => some (.object [], r)
        | r => readFields fuel depth ⟨false, false, []⟩ r
    | s => readScalar? s

/-- The items of an array after those already read, last one first.  White space, ends of lines and
comments may surround them, and a comma may follow the last one. -/
def readItems (fuel depth : Nat) (read : List Json) (s : List Char) : Option (Json × List Char) :=
  match fuel with
  | 0 => none
  | fuel + 1 =>
    match skipFiller s.length s with
    | ']' :: r => some (.array read.reverse, r)
    | r =>
      (readValue fuel depth r).bind fun (v, r) =>
        match skipFiller r.length r with
        | ',' :: r => readItems fuel depth (v :: read) r
        | ']' :: r => some (.array (v :: read).reverse, r)
        | _ => none

/-- The fields of an inline table after those of `t`. -/
def readFields (fuel depth : Nat) (t : Table) (s : List Char) : Option (Json × List Char) :=
  match fuel with
  | 0 => none
  | fuel + 1 =>
    (readKey? s).bind fun (path, key, r) =>
      match r with
      | '=' :: r =>
        (readValue fuel depth (skipSpaces r)).bind fun (v, r) =>
          (t.addValue path key v).bind fun t =>
            match skipSpaces r with
            | ',' :: r => readFields fuel depth t r
            | '}' :: r => some (t.toJson, r)
            | _ => none
      | _ => none

end

/-! ## Documents -/

/-- What is read of a document: all tables but the current one, which the last header began. -/
structure Document where
  root : Table
  current : Table
  path : List String
  name : Option String
  isItem : Bool

namespace Document

/-- A document without lines.  The current table is the outermost one. -/
def start : Document := ⟨.defined [], .defined [], [], none, false⟩

/-- All tables of a document, the current one in its place. -/
def finish (d : Document) : Option Table :=
  match d.name with
  | none => some d.current
  | some name =>
    d.root.change false (fun parent =>
      if d.isItem then
        match parent.get? name with
        | some (.tables items) => some (parent.set name (.tables (items ++ [d.current.fields])))
        | none => some (parent.set name (.tables [d.current.fields]))
        | _ => none
      else some (parent.set name d.current.item)) d.path

/-- The table at a key that a header may define: it is new, or only tables inside it have been
named. -/
def definable? (name : String) (parent : Table) : Option Table :=
  match parent.get? name with
  | none => some (.defined [])
  | some (.table true false fields) => some (.defined fields)
  | _ => none

/-- The table that a path leads to. -/
def tableAt? : List String → Table → Option Table
  | [], t => some t
  | key :: path, t =>
    match t.get? key with
    | none => tableAt? path ⟨true, false, []⟩
    | some (.value _) => none
    | some (.table isImplicit isDotted fields) => tableAt? path ⟨isImplicit, isDotted, fields⟩
    | some (.tables items) => items.getLast?.bind fun last => tableAt? path (.defined last)

/-- Begins a table. -/
def beginTable (path : List String) (name : String) (d : Document) : Option Document := do
  let root ← d.finish
  let parent ← tableAt? path root
  let table ← definable? name parent
  let root ← root.change false (fun parent => some (parent.erase name)) path
  return ⟨root, table, path, some name, false⟩

/-- Begins an item of an array of tables. -/
def beginItem (path : List String) (name : String) (d : Document) : Option Document := do
  let root ← d.finish
  let parent ← tableAt? path root
  match parent.get? name with
  | none | some (.tables _) => return ⟨root, .defined [], path, some name, true⟩
  | _ => none

/-- Adds a key and its value to the current table. -/
def addValue (path : List String) (key : String) (v : Json) (d : Document) : Option Document :=
  (d.current.addValue path key v).map fun t => { d with current := t }

end Document

/-- One header, key with its value, comment or blank line, with the end of its line. -/
def readLine (d : Document) (s : List Char) : Option (Document × List Char) :=
  match s with
  | '[' :: '[' :: r =>
    (readKey? r).bind fun (path, key, r) =>
      match r with
      | ']' :: ']' :: r =>
        (endLine? r).bind fun r => (d.beginItem path key).map fun d => (d, r)
      | _ => none
  | '[' :: r =>
    (readKey? r).bind fun (path, key, r) =>
      match r with
      | ']' :: r => (endLine? r).bind fun r => (d.beginTable path key).map fun d => (d, r)
      | _ => none
  | '#' :: _ | '\n' :: _ | '\r' :: _ => (endLine? s).map fun r => (d, r)
  | _ =>
    (readKey? s).bind fun (path, key, r) =>
      match r with
      | '=' :: r =>
        (readValue (2 * r.length + 2) nestingLimit (skipSpaces r)).bind fun (v, r) =>
          (endLine? r).bind fun r => (d.addValue path key v).map fun d => (d, r)
      | _ => none

/-- The lines of a document, at most `fuel` of them. -/
def readDocument (fuel : Nat) (d : Document) (s : List Char) : Option Document :=
  match fuel with
  | 0 => none
  | fuel + 1 =>
    match skipSpaces s with
    | [] => some d
    | s => (readLine d s).bind fun (d, r) => readDocument fuel d r

/-- Drops a byte order mark. -/
def dropMark : List Char → List Char
  | c :: r => if c = '\ufeff' then r else c :: r
  | [] => []

/-- The value of a document. -/
def parse? (text : String) : Option Json :=
  let s := dropMark text.toList
  ((readDocument (s.length + 1) Document.start s).bind Document.finish).map Table.toJson

end AbiBindings.Toml
