import Groundwork.Decimal.Shortest
import Groundwork.Dictionary

/-!
The values of run options: what JSON and TOML documents hold. Whole numbers and fractions are
different kinds, so `1` and `1.0` are not the same value.
-/

namespace Groundwork

/-- A value of a document. The fields of an object are in ascending order of their names. A moment
is a date, a time or both; as an option it is an object with a single field. -/
inductive Datum where
  | null
  | bool (value : Bool)
  | int (value : Int)
  | float (value : Float)
  | text (value : String)
  | list (items : List Datum)
  | object (fields : List (String × Datum))
  | moment (written : String)
deriving Inhabited

namespace Datum

/-- The field of the object that a moment is. -/
def momentField : String := "$__toml_private_datetime"

/-- The fields of the object that a moment is. -/
def momentFields (written : String) : List (String × Datum) := [(momentField, .text written)]

/-- The value with a moment as an object. -/
def opened : Datum → Datum
  | .moment written => .object (momentFields written)
  | value => value

mutual

/-- Whether two values are of one kind and equal; fractions compare as numbers. -/
def same : Datum → Datum → Bool
  | .null, .null => true
  | .bool a, .bool b => a == b
  | .int a, .int b => a == b
  | .float a, .float b => a == b
  | .text a, .text b => a == b
  | .list a, .list b => sameItems a b
  | .object a, .object b => sameFields a b
  | .moment a, .moment b => a == b
  | _, _ => false

def sameItems : List Datum → List Datum → Bool
  | [], [] => true
  | a :: as, b :: bs => same a b && sameItems as bs
  | _, _ => false

def sameFields : List (String × Datum) → List (String × Datum) → Bool
  | [], [] => true
  | (k, a) :: as, (l, b) :: bs => k == l && same a b && sameFields as bs
  | _, _ => false

end

/-- `false`, null, zero and what is empty are not truthy. -/
def isTruthy : Datum → Bool
  | .null => false
  | .bool b => b
  | .int n => n != 0
  | .float x => x != 0.0
  | .text s => !s.isEmpty
  | .list items => !items.isEmpty
  | .object fields => !fields.isEmpty
  | .moment _ => true

end Datum

/-- Options of a run by name. -/
abbrev Options := Dictionary String Datum

end Groundwork
