import Groundwork.Datum

/-!
Tables of a TOML document while it is read. A table remembers how it came to be, because only some
tables may be added to later: none may be defined twice.
-/

namespace Groundwork.Toml

/-- What a key holds. -/
inductive Item where
  /-- A value, which is closed: nothing can be added to it. -/
  | value (value : Datum)
  /-- A table; `implied` if no header defined it, `dotted` if a key with dots did. -/
  | table (implied dotted : Bool) (fields : List (String × Item))
  /-- A list of tables from headers in double brackets, the last one first. -/
  | tables (tables : List (List (String × Item)))
deriving Inhabited

abbrev Fields := List (String × Item)

namespace Fields

def get? (fields : Fields) (key : String) : Option Item :=
  (fields.find? (fun field => field.1 == key)).map (·.2)

/-- Sets a key, in its old place if it has one. -/
def set (fields : Fields) (key : String) (item : Item) : Fields :=
  if (fields.any (fun field => field.1 == key)) then
    fields.map (fun field => if field.1 == key then (key, item) else field)
  else fields ++ [(key, item)]

end Fields

/-- Changes the fields that a path of keys leads to, making tables on the way. In a list of tables
the way goes through the last. With `dotted` no table that has a header of its own may be on it.
The change is told whether the table it works on was made by keys with dots. -/
def descend (dotted : Bool) (change : Bool → Fields → Except String Fields)
    : List String → Bool → Fields → Except String Fields
  | [], isDotted, fields => change isDotted fields
  | key :: path, _, fields => do
      match fields.get? key with
      | none =>
          let inner ← descend dotted change path dotted []
          return fields.set key (.table true dotted inner)
      | some (.table implied byDots inner) =>
          if dotted && !implied then throw "duplicate key"
          let inner ← descend dotted change path byDots inner
          return fields.set key (.table implied byDots inner)
      | some (.tables (last :: others)) =>
          let last ← descend dotted change path false last
          return fields.set key (.tables (last :: others))
      | some _ => throw "cannot extend value with a dotted key"

/-- Sets the value of a key with dots within a table. -/
def insertValue (path : List String) (key : String) (value : Datum) (fields : Fields)
    : Except String Fields :=
  descend true (fun isDotted fields => do
    if isDotted == path.isEmpty then throw "duplicate key"
    if (fields.get? key).isSome then throw "duplicate key"
    return fields.set key (.value value)) path false fields

/-- Opens the table of a header. -/
def openTable (path : List String) (key : String) (root : Fields) : Except String Fields :=
  descend false (fun _ fields => do
    match fields.get? key with
    | none => return fields.set key (.table false false [])
    | some (.table true false inner) => return fields.set key (.table false false inner)
    | some _ => throw "duplicate key") path false root

/-- Opens one more table of the list that a header in double brackets names. -/
def appendTable (path : List String) (key : String) (root : Fields) : Except String Fields :=
  descend false (fun _ fields => do
    match fields.get? key with
    | none => return fields.set key (.tables [[]])
    | some (.tables tables) => return fields.set key (.tables ([] :: tables))
    | some _ => throw "duplicate key") path false root

mutual

/-- The finished value of an item. -/
def Item.toDatum : Item → Datum
  | .value value => value
  | .table _ _ fields => .object (Dictionary.ofList (fieldsToData fields))
  | .tables tables => .list (tablesToData tables).reverse

def fieldsToData : List (String × Item) → List (String × Datum)
  | [] => []
  | (key, item) :: fields => (key, item.toDatum) :: fieldsToData fields

def tablesToData : List (List (String × Item)) → List Datum
  | [] => []
  | fields :: tables => .object (Dictionary.ofList (fieldsToData fields)) :: tablesToData tables

end

end Groundwork.Toml
