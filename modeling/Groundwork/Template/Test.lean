import Groundwork.Template.Argument
import Groundwork.Unicode.Letter

/-!
The tests of templates, which answer a question about a value.
-/

namespace Groundwork.Template.Test

/-- The names of all tests, in their order. -/
def names : List String :=
  ["!=", "<", "<=", "==", ">", ">=", "boolean", "defined", "divisibleby", "endingwith", "eq",
    "equalto", "escaped", "even", "false", "filter", "float", "ge", "greaterthan", "gt", "in",
    "int", "integer", "iterable", "le", "lessthan", "lower", "lt", "mapping", "ne", "none",
    "number", "odd", "safe", "sameas", "sequence", "startingwith", "string", "test", "true",
    "undefined", "upper"]

def isWhole : Value → Bool
  | .int _ => true
  | _ => false

def isFraction : Value → Bool
  | .float _ => true
  | _ => false

def isBool (b : Bool) : Value → Bool
  | .bool c => b == c
  | _ => false

/-- Whether dividing leaves no remainder. -/
def isDivisible (v divisor : Value) : Bool :=
  match Value.operands? false v divisor with
  | some (.ints m n) => n != 0 && m % n == 0
  | some (.floats x y) => Decimal.remainder x y == 0.0
  | _ => false

/-- Whether two values are the same: one thing, or equal ones of one kind that are no things. -/
def isSame (a b : Value) : Bool :=
  if a.isThing || b.isThing then Value.isSameThing a b
  else a.kind == b.kind && isWhole a == isWhole b && Value.equal a b

/-- A test of one value. -/
def ofOne (p : Value → Bool) : Take Bool := p <$> Take.value

/-- A test of two values. -/
def ofTwo (p : Value → Value → Bool) : Take Bool := do
  let a ← Take.value
  let b ← Take.value
  return p a b

/-- Whether all the letters of a text are of a set. -/
def allIn (set : Unicode.CharSet) : Take Bool := do
  let text ← Take.one Reading.text
  return text.toList.all set.contains

/-- The test of a name, where `filters` are the names of the filters. -/
def take? (filters : List String) : String → Option (Take Bool)
  | "undefined" => some (ofOne Value.isUndefined)
  | "defined" => some (ofOne fun v => !v.isUndefined)
  | "none" => some (ofOne fun v => v.kind == .null)
  | "safe" | "escaped" => some (ofOne Value.isSafe)
  | "boolean" => some (ofOne fun v => v.kind == .bool)
  | "odd" => some (ofOne fun v => v.asInt?.any (· % 2 != 0))
  | "even" => some (ofOne fun v => v.asInt?.any (· % 2 == 0))
  | "divisibleby" => some (ofTwo isDivisible)
  | "number" => some (ofOne fun v => v.kind == .number)
  | "int" | "integer" => some (ofOne isWhole)
  | "float" => some (ofOne isFraction)
  | "string" => some (ofOne fun v => v.kind == .text)
  | "sequence" => some (ofOne fun v => v.kind == .list)
  | "iterable" => some (ofOne fun v => v.members?.isSome)
  | "mapping" => some (ofOne fun v => v.kind == .map)
  | "startingwith" => some do
      let text ← Take.one Reading.shown
      let start ← Take.one Reading.shown
      return start.toList.isPrefixOf text.toList
  | "endingwith" => some do
      let text ← Take.one Reading.shown
      let ending ← Take.one Reading.shown
      return ending.toList.isSuffixOf text.toList
  | "lower" => some (allIn Unicode.smallSet)
  | "upper" => some (allIn Unicode.capitalSet)
  | "sameas" => some (ofTwo isSame)
  | "eq" | "equalto" | "==" => some (ofTwo Value.equal)
  | "ne" | "!=" => some (ofTwo fun a b => !Value.equal a b)
  | "lt" | "lessthan" | "<" => some (ofTwo fun a b => Value.order a b == .lt)
  | "le" | "<=" => some (ofTwo fun a b => Value.order a b != .gt)
  | "gt" | "greaterthan" | ">" => some (ofTwo fun a b => Value.order a b == .gt)
  | "ge" | ">=" => some (ofTwo fun a b => Value.order a b != .lt)
  | "in" => some do
      let part ← Take.value
      let whole ← Take.value
      match whole with
      | .undefined false => Take.fail .undefined ""
      | _ =>
          match Value.contains whole part with
          | .ok found => return found
          | .error _ => return false
  | "true" => some (ofOne (isBool true))
  | "false" => some (ofOne (isBool false))
  | "filter" => some do return filters.contains (← Take.one Reading.text)
  | "test" => some do return names.contains (← Take.one Reading.text)
  | _ => none

/-- Applies a test to a value and arguments. -/
def apply (filters : List String) (name : String) (arguments : List Value)
    : Except TemplateFault Bool :=
  match take? filters name with
  | some take => take.run arguments
  | none => .error ⟨.unknownTest, s!"test {name} is unknown"⟩

end Groundwork.Template.Test
