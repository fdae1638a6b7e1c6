import Groundwork.Bits
import Groundwork.Template.Operation

/-!
The arguments of filters, tests and functions. Arguments are taken from the front, each as the type
that is asked for; named arguments come last, as one map.
-/

namespace Groundwork.Template

/-- Takes arguments from a list. -/
abbrev Take := StateT (List Value) (Except TemplateFault)

/-- How a value is read as an argument of a type. -/
abbrev Reading (α : Type) := Value → Except TemplateFault α

namespace Reading

def refuse {α : Type} (v : Value) : Except TemplateFault α :=
  TemplateFault.invalid s!"cannot convert {v.kind.describe}"

/-- Any value as its text. -/
def shown : Reading String
  | .map _ .arguments => TemplateFault.invalid "cannot convert keyword arguments to string"
  | v => .ok v.display

/-- A text only. -/
def text : Reading String
  | .text s _ => .ok s
  | v => refuse v

def bool : Reading Bool
  | .bool b => .ok b
  | v => refuse v

/-- A whole number below a bound. -/
def below (bound : Nat) : Reading Nat := fun v =>
  match v.asNat? with
  | some n => if n < bound then .ok n else refuse v
  | none => refuse v

def count : Reading Nat := below (Bits.count 64)

/-- A whole number that some bits can hold with its sign. -/
def signed (bits : Nat) : Reading Int := fun v =>
  match v.asInt? with
  | some n => if Bits.isSigned bits n then .ok n else refuse v
  | none => refuse v

/-- Any value. -/
def whatever : Reading Value := .ok

end Reading

namespace Take

/-- The next argument, whatever it is. -/
def value : Take Value := do
  match ← get with
  | [] => throw ⟨.missingArgument, ""⟩
  | v :: rest =>
      set rest
      return v

/-- The next argument as a type. -/
def one {α : Type} (read : Reading α) : Take α := do
  let v ← value
  read v

/-- The next argument, if there is one that is defined and not none. -/
def optional {α : Type} (read : Reading α) : Take (Option α) := do
  match ← get with
  | [] => return none
  | .null :: rest | .undefined _ :: rest =>
      set rest
      return none
  | v :: rest =>
      set rest
      some <$> (read v : Except TemplateFault α)

/-- All the arguments left. -/
def rest : Take (List Value) := do
  let all ← get
  set ([] : List Value)
  return all

/-- The named arguments. -/
def named : Take (List (Value × Value)) := do
  match ← get with
  | .map entries .arguments :: rest =>
      set rest
      return entries
  | _ => return []

/-- Refuses arguments that are left over. -/
def finish : Take Unit := do
  if !(← get).isEmpty then throw ⟨.tooManyArguments, ""⟩

/-- What is made of the arguments once all are taken. Arguments left over are the first fault. -/
def result {α : Type} (outcome : Except TemplateFault α) : Take α := do
  finish
  outcome

/-- Fails once all arguments are taken. -/
def fail {α : Type} (kind : TemplateFaultKind) (detail : String) : Take α :=
  result (.error ⟨kind, detail⟩)

/-- Takes arguments and refuses those left over. -/
def run {α : Type} (take : Take α) (arguments : List Value) : Except TemplateFault α := do
  let (a, _) ← StateT.run (do let a ← take; finish; return a) arguments
  return a

end Take

/-- Named arguments. -/
abbrev NamedValues := List (Value × Value)

namespace NamedValues

/-- A named argument as a type, if it is given and not none. -/
def get? {α : Type} (values : NamedValues) (name : String) (read : Reading α)
    : Except TemplateFault (Option α) :=
  match Value.valueAt? values (.ofText name) with
  | none => .ok none
  | some .null => .ok none
  | some (.undefined _) => .ok none
  | some v => some <$> read v

/-- Refuses named arguments with other names, or with names that are no texts. -/
def only (values : NamedValues) (names : List String) : Except TemplateFault Unit :=
  values.forM fun entry =>
    match entry.1.asText? with
    | none => TemplateFault.invalid "non-string keyword arguments"
    | some name =>
        if names.contains name then .ok ()
        else .error ⟨.tooManyArguments, s!"unknown keyword argument {name}"⟩

end NamedValues

end Groundwork.Template
