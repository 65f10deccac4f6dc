import AbiBindings.Json.Basic

/-!
# Tables of TOML

A table is defined once: by a header, by dotted keys, or by the headers of tables inside it, in
which case a later header may still define it.  Dotted keys add to tables that dotted keys made,
and to no others.
-/

namespace AbiBindings.Toml

/-! ## Tables -/

/-- What a key stands for. -/
inductive Item where
  | value (v : Json)
  /-- A table; whether only tables inside it or dotted keys have named it, and which. -/
  | table (isImplicit isDotted : Bool) (fields : List (String × Item))
  /-- Tables of one name, first one first. -/
  | tables (items : List (List (String × Item)))

/-- A table on its own. -/
structure Table where
  isImplicit : Bool
  isDotted : Bool
  fields : List (String × Item)

/-- A table that a header defines. -/
def Table.defined (fields : List (String × Item)) : Table := ⟨false, false, fields⟩

def Table.item (t : Table) : Item := .table t.isImplicit t.isDotted t.fields

def Table.get? (key : String) (t : Table) : Option Item := t.fields.lookup key

/-- Replaces or adds what a key stands for. -/
def setField (key : String) (item : Item) : List (String × Item) → List (String × Item)
  | [] => [(key, item)]
  | (k, i) :: rest => if k = key then (k, item) :: rest else (k, i) :: setField key item rest

def Table.set (key : String) (item : Item) (t : Table) : Table :=
  { t with fields := setField key item t.fields }

def Table.erase (key : String) (t : Table) : Table :=
  { t with fields := t.fields.filter fun f => f.1 != key }

/-! ## Changes -/

/-- Changes the table that a path leads to.  Missing tables are made on the way; with `dotted` the
path is that of a dotted key, which leads through no table that a header defined. -/
def Table.change (dotted : Bool) (f : Table → Option Table) : List String → Table → Option Table
  | [], t => f t
  | key :: path, t =>
    match t.get? key with
    | none =>
      (Table.change dotted f path ⟨true, dotted, []⟩).map fun child => t.set key child.item
    | some (.value _) => none
    | some (.table isImplicit isDotted fields) =>
      if dotted && !isImplicit then none
      else
        (Table.change dotted f path ⟨isImplicit, isDotted, fields⟩).map fun child =>
          t.set key child.item
    | some (.tables items) =>
      match items.reverse with
      | [] => none
      | last :: before =>
        (Table.change dotted f path (.defined last)).map fun child =>
          t.set key (.tables (child.fields :: before).reverse)

/-- Adds a key and its value.  All but the last part of a dotted key lead to a table that dotted
keys made. -/
def Table.addValue (path : List String) (key : String) (v : Json) (t : Table) : Option Table :=
  t.change true (fun inner =>
    if inner.isDotted == path.isEmpty || (inner.get? key).isSome then none
    else some (inner.set key (.value v))) path

/-! ## Values -/

mutual

/-- The value that an item is read as. -/
def Item.toJson : Item → Json
  | .value v => v
  | .table _ _ fields => .object (fieldsToJson fields)
  | .tables items => .array (itemsToJson items)

def fieldsToJson : List (String × Item) → List (String × Json)
  | [] => []
  | (key, i) :: r => (key, i.toJson) :: fieldsToJson r

def itemsToJson : List (List (String × Item)) → List Json
  | [] => []
  | fields :: r => .object (fieldsToJson fields) :: itemsToJson r

end

def Table.toJson (t : Table) : Json := .object (fieldsToJson t.fields)

end AbiBindings.Toml
