import Groundwork.Bits
import Groundwork.Datum
import Groundwork.Path
import Groundwork.Text.Quoted

/-!
Decoding values of documents into what they stand for. A decoder takes the fields of an object in
their order and stops at the first fault.
-/

namespace Groundwork

/-- The format of the document that a value comes from; some faults are told in its own words. -/
inductive DocumentFormat where
  | json
  | toml
deriving Repr, DecidableEq

/-- Why a value does not stand for what is asked for. -/
inductive DecodeFault where
  | missingField (name : String)
  | unknownField (name : String) (expected : List String)
  | unknownVariant (name : String) (expected : List String)
  | wrongKind (found expected : String)
  | wrongValue (found expected : String)
  | wrongLength (length : Nat) (expected : String)
  | other (message : String)
deriving Repr, DecidableEq

namespace DecodeFault

/-- A list of the names that would do. -/
def oneOf (names : List String) : String :=
  let ticked := names.map (fun name => s!"`{name}`")
  match ticked with
  | [] => "none"
  | [a] => a
  | [a, b] => s!"{a} or {b}"
  | _ => "one of " ++ ", ".intercalate ticked

def message : DecodeFault → String
  | missingField name => s!"missing field `{name}`"
  | unknownField name expected => s!"unknown field `{name}`, expected {oneOf expected}"
  | unknownVariant name expected => s!"unknown variant `{name}`, expected {oneOf expected}"
  | wrongKind found expected => s!"invalid type: {found}, expected {expected}"
  | wrongValue found expected => s!"invalid value: {found}, expected {expected}"
  | wrongLength length expected => s!"invalid length {length}, expected {expected}"
  | other message => message

end DecodeFault

namespace Decode

def numberWords : Decimal.NumberWords := ⟨"inf", "NaN"⟩

/-- JSON documents write very large and very small numbers with an exponent. -/
def jsonForm : Decimal.CompactForm := ⟨-3, 16, true⟩

/-- A value as faults describe it. -/
def describe (format : DocumentFormat) : Datum → String
  | .null => "null"
  | .bool b => s!"boolean `{b}`"
  | .int n => s!"integer `{n}`"
  | .float x =>
      match format with
      | .json => s!"floating point `{Decimal.compact numberWords jsonForm x}`"
      | .toml => s!"floating point `{Decimal.positionalWithPoint numberWords x}`"
  | .text s => s!"string {Text.quoted s}"
  | .list _ => "sequence"
  | .object _ | .moment _ => "map"

def wrongKind {α : Type} (format : DocumentFormat) (found : Datum) (expected : String)
    : Except DecodeFault α := .error (.wrongKind (describe format found) expected)

def text (format : DocumentFormat) (expected : String) : Datum → Except DecodeFault String
  | .text s => .ok s
  | found => wrongKind format found expected

def string (format : DocumentFormat) : Datum → Except DecodeFault String :=
  text format "a string"

def path (format : DocumentFormat) (found : Datum) : Except DecodeFault Path :=
  (text format "path string" found).map Path.ofString

def bool (format : DocumentFormat) : Datum → Except DecodeFault Bool
  | .bool b => .ok b
  | found => wrongKind format found "a boolean"

/-- A whole number of sixty-four bits without sign, which faults call by `kind`. -/
def natural (format : DocumentFormat) (kind : String) : Datum → Except DecodeFault Nat
  | .int n =>
      if Bits.isUnsigned 64 n then .ok n.toNat
      else .error (.wrongValue (describe format (.int n)) kind)
  | found => wrongKind format found kind

def list {α : Type} (format : DocumentFormat) (item : Datum → Except DecodeFault α)
    : Datum → Except DecodeFault (List α)
  | .list items => items.mapM item
  | found => wrongKind format found "a sequence"

/-- Nothing for null, else what the decoder makes of the value. -/
def option {α : Type} (inner : Datum → Except DecodeFault α)
    : Datum → Except DecodeFault (Option α)
  | .null => .ok none
  | found => (inner found).map some

mutual

/-- The value as an option: numbers that are no decimals count as null, and whole numbers must fit
sixty-four bits. -/
def plain : Datum → Except DecodeFault Datum
  | .int n =>
      if Bits.isSigned 64 n || Bits.isUnsigned 64 n then .ok (.int n)
      else .error (.wrongKind s!"integer `{n}` as i128" "any valid JSON value")
  | .float x => .ok (if x.isFinite then .float x else .null)
  | .list items => do return .list (← plainItems items)
  | .object fields => do return .object (← plainFields fields)
  | .moment written => .ok (.object (Datum.momentFields written))
  | found => .ok found

def plainItems : List Datum → Except DecodeFault (List Datum)
  | [] => .ok []
  | item :: items => do return (← plain item) :: (← plainItems items)

def plainFields : List (String × Datum) → Except DecodeFault (List (String × Datum))
  | [] => .ok []
  | (key, value) :: fields => do return (key, ← plain value) :: (← plainFields fields)

end

mutual

/-- Passes over a value. Whole numbers must fit into one hundred and twenty-eight bits. -/
def ignored : Datum → Except DecodeFault Unit
  | .int n =>
      if Bits.isSigned 128 n || Bits.isUnsigned 128 n then .ok ()
      else .error (.other "integer number overflowed")
  | .list items => ignoredItems items
  | .object fields => ignoredFields fields
  | _ => .ok ()

def ignoredItems : List Datum → Except DecodeFault Unit
  | [] => .ok ()
  | item :: items => do
      ignored item
      ignoredItems items

def ignoredFields : List (String × Datum) → Except DecodeFault Unit
  | [] => .ok ()
  | (_, value) :: fields => do
      ignored value
      ignoredFields fields

end

/-- A bag of options. -/
def options (format : DocumentFormat) (found : Datum) : Except DecodeFault Options :=
  match found.opened with
  | .object fields => plainFields fields
  | _ => wrongKind format found "a map"

/-- A required field, found or missing. -/
def required {α : Type} (name : String) : Option α → Except DecodeFault α
  | some a => .ok a
  | none => .error (.missingField name)

/-- A required item of a structure that is given as a list. -/
def requiredItem {α : Type} (index : Nat) (expected : String) : Option α → Except DecodeFault α
  | some a => .ok a
  | none => .error (.wrongLength index expected)

/-- Refuses items beyond those that a structure has, where the format does. -/
def noMoreItems (format : DocumentFormat) (length : Nat) (most : Nat) : Except DecodeFault Unit :=
  match format with
  | .json =>
      if most < length then .error (.wrongLength length "fewer elements in array") else .ok ()
  | .toml => .ok ()

end Decode

end Groundwork
