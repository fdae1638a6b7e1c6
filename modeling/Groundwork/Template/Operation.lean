import Groundwork.Bits
import Groundwork.Template.Node
import Groundwork.Text.Search

/-!
What the operators of templates compute. Whole numbers stay whole unless they are divided, and
operands of types that do not go together are faults.
-/

namespace Groundwork.Template.Value

/-- Results that are too large for whole numbers are faults. -/
def checked (n : Int) : Except TemplateFault Value :=
  if inRange n then .ok (.int n) else TemplateFault.invalid "unable to calculate"

/-- The fault of an operator on values that it does not take. -/
def unsupported {α : Type} (sign : String) (a b : Value) : Except TemplateFault α :=
  TemplateFault.invalid
    s!"tried to use {sign} operator on unsupported types {a.kind.describe} and {b.kind.describe}"

/-- An operator on numbers. -/
def arithmetic (sign : String) (onInts : Int → Int → Except TemplateFault Value)
    (onFloats : Float → Float → Float) (a b : Value) : Except TemplateFault Value :=
  match operands? true a b with
  | some (.ints m n) => onInts m n
  | some (.floats x y) => .ok (.float (onFloats x y))
  | _ => unsupported sign a b

def isSequence : Value → Bool
  | .sequence .. => true
  | _ => false

/-- Whether the number of members is known. -/
def isCounted (v : Value) : Bool := v.length?.isSome

/-- Texts are joined, sequences follow one another, numbers are added. -/
def add (a b : Value) : Except TemplateFault Value :=
  match a, b with
  | .sequence _ xs, .sequence _ ys =>
      .ok (ofShape (.stream (a.isCounted && b.isCounted)) (xs ++ ys))
  | .text s _, .text t _ => .ok (ofText (s ++ t))
  | _, _ => arithmetic "+" (fun m n => checked (m + n)) (· + ·) a b

/-- How often a text or sequence is repeated. -/
def times (count : Value) : Except TemplateFault Nat :=
  match count.asNat? with
  | some n => .ok n
  | none => TemplateFault.invalid "can only be multiplied with integers"

def multiply (a b : Value) : Except TemplateFault Value :=
  let repeatText (s : String) (count : Value) : Except TemplateFault Value := do
    let n ← times count
    return ofText (String.join (List.replicate n s))
  let repeatItems (v : Value) (items : List Value) (count : Value)
      : Except TemplateFault Value := do
    let n ← times count
    if v.isCounted then return stream (List.replicate n items).flatten
    else TemplateFault.invalid "cannot repeat unsized iterables"
  match a, b with
  | .text s _, _ => repeatText s b
  | _, .text s _ => repeatText s a
  | .sequence _ items, _ => repeatItems a items b
  | _, .sequence _ items => repeatItems b items a
  | _, _ => arithmetic "*" (fun m n => checked (m * n)) (· * ·) a b

/-- Division gives a fraction always. -/
def divide (a b : Value) : Except TemplateFault Value :=
  match a.asFloat? true, b.asFloat? true with
  | some x, some y => .ok (.float (x / y))
  | _, _ => unsupported "/" a b

/-- The quotient whose remainder is not negative. -/
def divideWhole (a b : Value) : Except TemplateFault Value :=
  arithmetic "//"
    (fun m n => if n == 0 then TemplateFault.invalid "unable to calculate" else checked (m / n))
    Decimal.euclideanQuotient a b

/-- The remainder. That of whole numbers is not negative, and their quotient has to be in range. -/
def modulo (a b : Value) : Except TemplateFault Value :=
  arithmetic "%"
    (fun m n =>
      if n == 0 || (n == -1 && m == Bits.least 128) then TemplateFault.invalid "unable to calculate"
      else checked (m % n))
    Decimal.remainder a b

def powerInt (m n : Int) : Except TemplateFault Value :=
  match n with
  | .negSucc _ => TemplateFault.invalid "unable to calculate"
  | .ofNat n =>
      if Bits.count 32 ≤ n then TemplateFault.invalid "unable to calculate"
      else if m == 0 || m == 1 then .ok (.int (if n == 0 then 1 else m))
      else if m == -1 then .ok (.int (if n % 2 == 0 then 1 else -1))
      else if 127 < n then TemplateFault.invalid "unable to calculate"
      else checked (Int.pow m n)

def power (a b : Value) : Except TemplateFault Value := arithmetic "**" powerInt Float.pow a b

/-- The number with the other sign. The first whole number beyond the positive ones stays as it
is. -/
def negate (v : Value) : Except TemplateFault Value :=
  match v with
  | .float x => .ok (.float (-x))
  | .int n => if n == Bits.count 127 then .ok v else checked (-n)
  | _ => TemplateFault.invalid "not a number"

/-- Whether a value is among the members of another: a part of a text, a key of a map, an item of
a sequence. -/
def contains (whole part : Value) : Except TemplateFault Bool :=
  match whole with
  | .undefined _ => .ok false
  | .text s _ => .ok (Text.find? part.display.toList s.toList).isSome
  | .map entries _ => .ok (valueAt? entries part).isSome
  | .sequence _ items => .ok (items.any (equal part ·))
  | .function _ => .ok false
  | _ => TemplateFault.invalid "cannot perform a containment check on this value"

/-! ## Slices -/

/-- A bound of a slice, if it is given. -/
def bound? (v : Value) : Except TemplateFault (Option Int) :=
  match v with
  | .null => .ok none
  | _ =>
      match v.asInt? with
      | some n =>
          if Bits.isSigned 64 n then .ok (some n)
          else TemplateFault.invalid "cannot convert to i64"
      | none => TemplateFault.invalid s!"cannot convert {v.kind.describe} to i64"

/-- Every `step`-th item from the first on; `skip` items come before the next. -/
def every {α : Type} (step : Nat) (skip : Nat) : List α → List α
  | [] => []
  | a :: rest =>
      match skip with
      | 0 => a :: every step (step - 1) rest
      | skip + 1 => every step skip rest

/-- The place of a position in so many items; negative ones count from the end. -/
def placeIn (length : Nat) (position : Int) : Nat :=
  if position < 0 then (length + position).toNat else position.toNat

/-- The first place of a slice and the number of places that it reaches over. -/
def extent (length : Nat) (start stop : Option Int) : Nat × Nat :=
  let first := placeIn length (start.getD 0)
  (first, ((stop.map (placeIn length)).getD length) - first)

/-- The items from a position up to another. -/
def forwards {α : Type} (start stop : Option Int) (step : Nat) (items : List α) : List α :=
  let (first, count) := extent items.length start stop
  every step 0 ((items.drop first).take count)

/-- The items from a position down to another. With zero as the last position its item belongs to
them. -/
def backwards {α : Type} (start stop : Option Int) (step : Nat) (items : List α) : List α :=
  let first := min ((start.map (placeIn items.length)).getD items.length) (items.length - 1)
  let last := (stop.map (placeIn items.length)).getD 0
  let count := if last == 0 then (first + step) / step else (first - last + step - 1) / step
  (every step 0 ((items.take (first + 1)).drop last).reverse).take count

/-- A part of a sequence whose length is not known. Bounds that would need it take it for empty. -/
def uncounted (start stop : Option Int) (step : Nat) (items : List Value) : Value :=
  let (first, count) := extent 0 start stop
  ofShape (.stream (count == 0)) (every step 0 ((items.drop first).take count))

/-- A part of a text or sequence. -/
def slice (v start stop step : Value) : Except TemplateFault Value := do
  let start ← bound? start
  let stop ← bound? stop
  let step := (← bound? step).getD 1
  if step == 0 then TemplateFault.invalid "cannot slice by step size of 0"
  else
    let part {α : Type} (items : List α) : List α :=
      if 0 < step then forwards start stop step.toNat items
      else backwards start stop (-step).toNat items
    match v with
    | .undefined _ => return list []
    | .null => return list []
    | .text s _ => return ofChars (part s.toList)
    | .sequence _ items =>
        if step < 0 || v.isCounted then return stream (part items)
        else return uncounted start stop step.toNat items
    | _ => TemplateFault.invalid s!"value of type {v.kind.describe} cannot be sliced"

/-- The result of an operator on two values. -/
def operate (operator : Operator) (a b : Value) : Except TemplateFault Value :=
  match operator with
  | .add => add a b
  | .subtract => arithmetic "-" (fun m n => checked (m - n)) (· - ·) a b
  | .multiply => multiply a b
  | .divide => divide a b
  | .divideWhole => divideWhole a b
  | .modulo => modulo a b
  | .power => power a b
  | .join => .ok (ofText (a.display ++ b.display))
  | .equal => .ok (.bool (equal a b))
  | .notEqual => .ok (.bool (!equal a b))
  | .less => .ok (.bool (order a b == .lt))
  | .lessEqual => .ok (.bool (order a b != .gt))
  | .greater => .ok (.bool (order a b == .gt))
  | .greaterEqual => .ok (.bool (order a b != .lt))
  | .member =>
      match b with
      | .undefined false => TemplateFault.undefined
      | _ => (contains b a).map .bool

end Groundwork.Template.Value
