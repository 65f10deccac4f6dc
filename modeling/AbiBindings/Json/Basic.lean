/-!
# Data

The values of the data formats that ABIs and configurations are written in.  An object keeps its
fields as they were written; of several fields of one name the last one counts.

    (object (fs ++ [(k, v)])).field? k = some v            (field?_object_append_self)
-/

namespace AbiBindings

/-- A value of a data format. -/
inductive Json where
  | null
  | bool (value : Bool)
  /-- A number written without fraction and exponent that fits 64 bits. -/
  | integer (value : Int)
  /-- Any other number; nothing depends on its value. -/
  | real
  | string (text : String)
  | array (items : List Json)
  | object (fields : List (String × Json))

namespace Json

/-! ## Algorithm -/

/-- The last field of a name. -/
def lastField? (name : String) (fields : List (String × Json)) : Option Json :=
  (fields.reverse.find? fun f => f.1 == name).map (·.2)

/-- A field of an object; other values have none. -/
def field? (name : String) : Json → Option Json
  | .object fields => lastField? name fields
  | _ => none

def string? : Json → Option String
  | .string s => some s
  | _ => none

def bool? : Json → Option Bool
  | .bool b => some b
  | _ => none

def array? : Json → Option (List Json)
  | .array items => some items
  | _ => none

def integer? : Json → Option Int
  | .integer n => some n
  | _ => none

/-- A field that is a string. -/
def stringField? (name : String) (v : Json) : Option String := (v.field? name).bind string?

/-- A field that is a truth value; one that is missing or something else counts as false. -/
def flag (name : String) (v : Json) : Bool := ((v.field? name).bind bool?).getD false

/-- A field that is an array. -/
def arrayField? (name : String) (v : Json) : Option (List Json) := (v.field? name).bind array?

/-! ## Lemmas -/

theorem field?_object_append_self (fs : List (String × Json)) (k : String) (v : Json) :
    (object (fs ++ [(k, v)])).field? k = some v := by
  simp [field?, lastField?]

theorem field?_object_append_of_ne (fs : List (String × Json)) {k l : String} (v : Json)
    (h : l ≠ k) : (object (fs ++ [(l, v)])).field? k = (object fs).field? k := by
  simp [field?, lastField?, h]

end Json

end AbiBindings
