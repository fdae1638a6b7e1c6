import Groundwork.Bits
import Groundwork.Datum
import Groundwork.Decimal.Fraction
import Groundwork.Template.Fault
import Groundwork.Text.Quoted

/-!
The values that templates compute with: those of documents, values that are not defined, lazy
streams, and things of a template itself such as loops and namespaces. Values of different kinds
have an order, in which the entries of a map are kept.
-/

namespace Groundwork.Template

/-- The shapes of sequences: a list, a key with the members that share it, and a stream, whose
length may not be known before it is read. -/
inductive Shape where
  | list
  | group
  | stream (counted : Bool)
deriving Repr, DecidableEq

/-- A mark that tells a sequence or map from others with the same members. It has one once it was
kept under a name. -/
abbrev Mark := Option Nat

/-- Whether two marks are those of one thing. -/
def Mark.isSame (a b : Mark) : Bool := a.isSome && a == b

/-- The form of a sequence. -/
structure Form where
  shape : Shape
  mark : Mark
deriving Repr, DecidableEq

/-- The forms of maps: one of a document or template, the named arguments of a call, what an
imported template defined, with the text that it wrote, and the members of a namespace, a loop or a
routine, with what it is known by. -/
inductive MapForm where
  | plain (mark : Mark)
  | arguments
  | module (written : String)
  | space (id : Nat)
  | loop (id : Nat) (written : String)
  | routine (id : Nat) (name : String)
deriving Repr, DecidableEq

/-- Whether two forms are those of one map. -/
def MapForm.isSame : MapForm → MapForm → Bool
  | .plain a, .plain b => a.isSame b
  | .space a, .space b => a == b
  | .loop a _, .loop b _ => a == b
  | .routine a _, .routine b _ => a == b
  | _, _ => false

/-- What is written for a map of a form, if its members are not. -/
def MapForm.written? : MapForm → Option String
  | .module written => some written
  | .loop _ written => some written
  | .routine _ name => some ("<macro " ++ name ++ ">")
  | _ => none

/-- The functions that every template may call. -/
inductive Builtin where
  | range
  | dictionary
  | debug
  | namespaces
deriving Repr, DecidableEq

def Builtin.all : List Builtin := [.debug, .dictionary, .namespaces, .range]

def Builtin.name : Builtin → String
  | .range => "range"
  | .dictionary => "dict"
  | .debug => "debug"
  | .namespaces => "namespace"

def Builtin.ofName? (name : String) : Option Builtin := all.find? (·.name == name)

def Builtin.toString : Builtin → String
  | .range => "minijinja::functions::builtins::range"
  | .dictionary => "minijinja::functions::builtins::dict"
  | .debug => "minijinja::functions::builtins::debug"
  | .namespaces => "minijinja::functions::builtins::namespace"

/-- A value. Loops, namespaces and routines are numbered by the machine that runs a template;
filters and operators see their members. Those of loops and routines have an order of their own,
all other maps are in the order of their keys. -/
inductive Value where
  | undefined (silent : Bool)
  | null
  | bool (value : Bool)
  | int (value : Int)
  | float (value : Float)
  | text (value : String) (safe : Bool)
  | sequence (form : Form) (items : List Value)
  | map (entries : List (Value × Value)) (form : MapForm)
  | function (builtin : Builtin)
  | routine (id : Nat) (name : String)
  | loop (id : Nat)
  | space (id : Nat)
  /-- Stands for a member that could not be made; looking at it is a fault. -/
  | invalid (fault : TemplateFault)
deriving Inhabited

/-- The kinds of values, in their order. -/
inductive Kind where
  | undefined
  | null
  | bool
  | number
  | text
  | list
  | map
  | stream
  | plain
  | invalid
deriving Repr, DecidableEq

namespace Kind

def rank : Kind → Nat
  | .undefined => 0
  | .null => 1
  | .bool => 2
  | .number => 3
  | .text => 4
  | .list => 5
  | .map => 6
  | .stream => 7
  | .plain => 8
  | .invalid => 9

def describe : Kind → String
  | .undefined => "undefined"
  | .null => "none"
  | .bool => "bool"
  | .number => "number"
  | .text => "string"
  | .list => "sequence"
  | .map => "map"
  | .stream => "iterator"
  | .plain => "plain object"
  | .invalid => "invalid value"

end Kind

namespace Value

def ofText (text : String) : Value := .text text false

def ofChars (chars : List Char) : Value := ofText (String.ofList chars)

/-- A new sequence. -/
def ofShape (shape : Shape) (items : List Value) : Value := .sequence ⟨shape, none⟩ items

def list (items : List Value) : Value := ofShape .list items

/-- A stream of a known length. -/
def stream (items : List Value) : Value := ofShape (.stream true) items

/-- A new map of entries in the order of their keys. -/
def ofMap (entries : List (Value × Value)) : Value := .map entries (.plain none)

def kind : Value → Kind
  | .undefined _ => .undefined
  | .null => .null
  | .bool _ => .bool
  | .int _ => .number
  | .float _ => .number
  | .text .. => .text
  | .sequence ⟨.stream _, _⟩ _ => .stream
  | .sequence .. => .list
  | .map .. => .map
  | .routine .. => .map
  | .loop _ => .map
  | .space _ => .map
  | .function _ => .plain
  | .invalid _ => .invalid

def isUndefined : Value → Bool
  | .undefined _ => true
  | _ => false

def isSafe : Value → Bool
  | .text _ safe => safe
  | _ => false

def asText? : Value → Option String
  | .text s _ => some s
  | _ => none

/-! ## Numbers -/

/-- The whole numbers that arithmetic can hold. -/
def inRange (n : Int) : Bool := Bits.least 128 ≤ n && n ≤ Bits.greatest 128

/-- The whole number that a value stands for; truth values count as one and zero. A fraction stands
for one if sixty-four bits hold it, and the first above these for the greatest of them. -/
def asInt? : Value → Option Int
  | .bool b => some (if b then 1 else 0)
  | .int n => if inRange n then some n else none
  | .float x =>
      match Decimal.whole? x with
      | some n =>
          if Bits.isSigned 64 n then some n
          else if n == Bits.count 63 then some (Bits.greatest 64)
          else none
      | none => none
  | _ => none

/-- A whole number from zero on. -/
def asNat? (v : Value) : Option Nat :=
  match v.asInt? with
  | some (.ofNat n) => if n < Bits.count 64 then some n else none
  | _ => none

/-- Whether a whole number is the greatest of those without sign; the fraction above it counts as
the same. -/
def isGreatestWord (n : Int) : Bool := n + 1 == Bits.count 64 || n + 1 == Bits.count 128

/-- The fraction that a number is, if it loses nothing or may lose something. -/
def asFloat? (lossy : Bool) : Value → Option Float
  | .bool b => some (if b then 1.0 else 0.0)
  | .int n =>
      let x := Float.ofInt n
      if lossy || Decimal.whole? x == some n || isGreatestWord n then some x else none
  | .float x => some x
  | _ => none

/-- Two values as operands of one type. -/
inductive Operands where
  | ints (a b : Int)
  | floats (a b : Float)
  | texts (a b : String)

/-- Whether a whole number needs more than sixty-four bits without sign. -/
def isLong : Value → Bool
  | .int n => Bits.count 64 ≤ n
  | _ => false

/-- Brings two values to one type: fractions if one of them is a fraction, else whole numbers. Two
long ones of which one is beyond the range of arithmetic wrap around in it. -/
def operands? (lossy : Bool) : Value → Value → Option Operands
  | .text a _, .text b _ => some (.texts a b)
  | .float a, b => (b.asFloat? lossy).map (.floats a ·)
  | a, .float b => (a.asFloat? lossy).map (.floats · b)
  | a, b =>
      match a.asInt?, b.asInt? with
      | some m, some n => some (.ints m n)
      | _, _ =>
          match a, b with
          | .int m, .int n =>
              if a.isLong && b.isLong then some (.ints (Bits.wrap 128 m) (Bits.wrap 128 n))
              else none
          | _, _ => none

/-! ## Texts of values -/

/-- How numbers that are no decimals are written. -/
def numberWords : Decimal.NumberWords := ⟨"inf", "NaN"⟩

/-- Fractions inside other values have an exponent outside of four places below and sixteen digits
above the point. -/
def nestedForm : Decimal.CompactForm := ⟨-3, 16, false⟩

def streamMark : String := "<iterator>"

mutual

/-- The text of a value inside another. -/
def nested : Value → String
  | .undefined _ => "undefined"
  | .null => "none"
  | .bool b => if b then "true" else "false"
  | .int n => toString n
  | .float x => Decimal.compact numberWords nestedForm x
  | .text s _ => Text.quoted s
  | .sequence ⟨.stream false, _⟩ _ => streamMark
  | .sequence _ items => "[" ++ ", ".intercalate (nestedItems items) ++ "]"
  | .map entries form =>
      form.written?.getD ("\x7b" ++ ", ".intercalate (nestedEntries entries) ++ "\x7d")
  | .function f => f.toString
  | .routine _ name => "<macro " ++ name ++ ">"
  | .loop _ => "<loop>"
  | .space _ => "<namespace>"
  | .invalid fault => "<invalid value: " ++ fault.message ++ ">"

def nestedItems : List Value → List String
  | [] => []
  | v :: rest => nested v :: nestedItems rest

def nestedEntries : List (Value × Value) → List String
  | [] => []
  | (k, v) :: rest => (nested k ++ ": " ++ nested v) :: nestedEntries rest

end

/-- The text of a value on its own. -/
def display : Value → String
  | .undefined _ => ""
  | .float x => Decimal.positionalWithPoint numberWords x
  | .text s _ => s
  | v => nested v

/-- Moves every line after the first to the right. -/
def indented (text : String) : String :=
  String.ofList (text.toList.flatMap fun c => if c == '\n' then "\n    ".toList else [c])

/-- Parts between brackets, each on lines of its own. -/
def bracketed (opening closing : String) (parts : List String) : String :=
  if parts.isEmpty then opening ++ closing
  else opening ++ "\n" ++ String.join (parts.map fun p => "    " ++ indented p ++ ",\n") ++ closing

mutual

/-- The text of a value over several lines. -/
def pretty : Value → String
  | .sequence ⟨.stream false, _⟩ _ => streamMark
  | .sequence _ items => bracketed "[" "]" (prettyItems items)
  | .map entries form => form.written?.getD (bracketed "\x7b" "\x7d" (prettyEntries entries))
  | v => nested v

def prettyItems : List Value → List String
  | [] => []
  | v :: rest => pretty v :: prettyItems rest

def prettyEntries : List (Value × Value) → List String
  | [] => []
  | (k, v) :: rest => (pretty k ++ ": " ++ pretty v) :: prettyEntries rest

end

/-! ## Order and equality -/

/-- The order of two values of one kind that hold no others. -/
def orderScalars (a b : Value) : Ordering :=
  match operands? false a b with
  | some (.ints m n) => compare m n
  | some (.floats x y) => compare (Decimal.rank x) (Decimal.rank y)
  | some (.texts s t) => compareOfLessAndEq s t
  | none => compareOfLessAndEq a.nested b.nested

mutual

/-- The order of values: first by kind, then by value. -/
def order : Value → Value → Ordering
  | .sequence f xs, .sequence g ys =>
      if f.mark.isSame g.mark then .eq
      else
        match compare (kind (.sequence f [])).rank (kind (.sequence g [])).rank with
        | .eq => orderItems xs ys
        | different => different
  | .map xs f, .map ys g => if f.isSame g then .eq else orderEntries xs ys
  | a, b =>
      match compare a.kind.rank b.kind.rank with
      | .eq => orderScalars a b
      | different => different

def orderItems : List Value → List Value → Ordering
  | [], [] => .eq
  | [], _ :: _ => .lt
  | _ :: _, [] => .gt
  | a :: as, b :: bs =>
      match order a b with
      | .eq => orderItems as bs
      | different => different

def orderEntries : List (Value × Value) → List (Value × Value) → Ordering
  | [], [] => .eq
  | [], _ :: _ => .lt
  | _ :: _, [] => .gt
  | (k, a) :: as, (l, b) :: bs =>
      match order k l with
      | .eq =>
          match order a b with
          | .eq => orderEntries as bs
          | different => different
      | different => different

end

/-- The value of a key. -/
def valueAt? (entries : List (Value × Value)) (key : Value) : Option Value :=
  (entries.find? fun entry => order key entry.1 == .eq).map (·.2)

/-- Whether two values that hold no others are equal: numbers and truth values by what they stand
for. -/
def equalScalars (a b : Value) : Bool :=
  match a, b with
  | .undefined _, .undefined _ => true
  | .null, .null => true
  | .loop i, .loop j => i == j
  | .space i, .space j => i == j
  | .routine i _, .routine j _ => i == j
  | .function f, .function g => f == g
  | _, _ =>
      match operands? false a b with
      | some (.ints m n) => m == n
      | some (.floats x y) => x == y
      | some (.texts s t) => s == t
      | none => false

mutual

/-- Whether two values are equal. Sequences are equal if their members are, whatever their form;
maps of any form are equal if they have the same keys with equal members. A thing is equal to
itself. -/
def equal : Value → Value → Bool
  | .sequence f xs, .sequence g ys => f.mark.isSame g.mark || equalItems xs ys
  | .map xs f, .map ys g => f.isSame g || (xs.length == ys.length && equalEntries ys xs)
  | a, b => equalScalars a b

def equalItems : List Value → List Value → Bool
  | [], [] => true
  | a :: as, b :: bs => equal a b && equalItems as bs
  | _, _ => false

/-- Whether the members of a map are equal to those of the same keys in another. -/
def equalEntries (others : List (Value × Value)) : List (Value × Value) → Bool
  | [] => true
  | (k, a) :: rest =>
      (match valueAt? others k with
        | some b => equal a b
        | none => false) && equalEntries others rest

end

/-! ## Members -/

/-- Sets the value of a key, at its place in the order of keys. -/
def setEntry (key value : Value) : List (Value × Value) → List (Value × Value)
  | [] => [(key, value)]
  | (k, v) :: rest =>
      match order key k with
      | .eq => (k, value) :: rest
      | .lt => (key, value) :: (k, v) :: rest
      | .gt => (k, v) :: setEntry key value rest

def ofEntries (entries : List (Value × Value)) : List (Value × Value) :=
  entries.foldl (fun map entry => setEntry entry.1 entry.2 map) []

/-- Whether a value counts as true. -/
def isTrue : Value → Bool
  | .undefined _ => false
  | .null => false
  | .bool b => b
  | .int n => n != 0
  | .float x => x != 0.0
  | .text s _ => !s.isEmpty
  | .sequence ⟨.stream false, _⟩ _ => true
  | .sequence _ items => !items.isEmpty
  | .map entries _ => !entries.isEmpty
  | .invalid _ => false
  | _ => true

/-- What a loop over the value goes through: the members of a sequence, the keys of a map, the
characters of a text, nothing for values that are absent. -/
def members? : Value → Option (List Value)
  | .undefined _ => some []
  | .null => some []
  | .text s _ => some (s.toList.map fun c => ofChars [c])
  | .sequence _ items => some items
  | .map entries _ => some (entries.map (·.1))
  | _ => none

/-- The number of members, if it is known before they are read. -/
def length? : Value → Option Nat
  | .text s _ => some s.length
  | .sequence ⟨.stream false, _⟩ _ => none
  | .sequence _ items => some items.length
  | .map entries _ => some entries.length
  | _ => none

/-- The number of members that a loop over the value knows of. It does not count the characters of
a text beforehand. -/
def loopLength? : Value → Option Nat
  | .undefined _ => some 0
  | .null => some 0
  | .text s _ => if s.isEmpty then some 0 else none
  | v => v.length?

/-- The position that a number means in a sequence; negative ones count from the end. -/
def position? (key : Value) (length : Option Nat) : Option Nat :=
  match key.asInt? with
  | some (.ofNat n) => some n
  | some (.negSucc n) => length.bind fun l => if n < l then some (l - (n + 1)) else none
  | none => none

/-- The attribute of a value. -/
def attribute? (v : Value) (name : String) : Option Value :=
  match v with
  | .map entries _ => valueAt? entries (ofText name)
  | .sequence ⟨.group, _⟩ [key, members] =>
      match name with
      | "grouper" => some key
      | "list" => some members
      | _ => none
  | _ => none

/-- The member of a value at a key or position. -/
def item? (v key : Value) : Option Value :=
  match v with
  | .map entries _ => valueAt? entries key
  | .text s _ =>
      (position? key (some s.length)).bind fun i => (s.toList[i]?).map fun c => ofChars [c]
  | .sequence ⟨.group, _⟩ _ =>
      match key with
      | .text name _ => v.attribute? name
      | _ => (position? key v.length?).bind fun i => (v.members?.getD [])[i]?
  | .sequence _ items => (position? key v.length?).bind fun i => items[i]?
  | _ => none

/-- The position that a part of a path means: digits, which may follow a plus sign, of a number that
sixty-four bits hold. -/
def pathPosition? (part : String) : Option Nat :=
  let digits :=
    match part.toList with
    | '+' :: digits => digits
    | digits => digits
  if digits.isEmpty || !digits.all Char.isDigit then none
  else
    let n := digits.foldl (fun n c => 10 * n + (c.toNat - '0'.toNat)) 0
    if n < Bits.count 64 then some n else none

/-- Follows names and positions that are separated by points. -/
def path? (v : Value) (path : List String) : Except TemplateFault Value :=
  path.foldlM (fun v part =>
    if v.isUndefined then TemplateFault.undefined
    else
      let found :=
        match pathPosition? part with
        | some n => v.item? (.int n)
        | none => v.attribute? part
      .ok (found.getD (.undefined false))) v

/-! ## Marks -/

/-- Whether a value is a thing of its own. -/
def isThing : Value → Bool
  | .sequence .. | .map .. | .function _ => true
  | _ => false

/-- Whether two values are one thing. -/
def isSameThing : Value → Value → Bool
  | .sequence f _, .sequence g _ => f.mark.isSame g.mark
  | .map _ f, .map _ g => f.isSame g
  | .function f, .function g => f == g
  | _, _ => false

mutual

/-- The value with marks from a number on for what has none, and the next number. What has a mark
has marks within. -/
def marked (next : Nat) : Value → Value × Nat
  | .sequence ⟨shape, none⟩ items =>
      let (items, next) := markedItems next items
      (.sequence ⟨shape, some next⟩ items, next + 1)
  | .map entries (.plain none) =>
      let (entries, next) := markedEntries next entries
      (.map entries (.plain (some next)), next + 1)
  | v => (v, next)

def markedItems (next : Nat) : List Value → List Value × Nat
  | [] => ([], next)
  | v :: rest =>
      let (v, next) := v.marked next
      let (rest, next) := markedItems next rest
      (v :: rest, next)

def markedEntries (next : Nat) : List (Value × Value) → List (Value × Value) × Nat
  | [] => ([], next)
  | (k, v) :: rest =>
      let (v, next) := v.marked next
      let (rest, next) := markedEntries next rest
      ((k, v) :: rest, next)

end

/-! ## References -/

mutual

/-- The value with what the machine knows by a number in place of its members. -/
def referred : Value → Value
  | .sequence form items => .sequence form (referredItems items)
  | .map _ (.space id) => .space id
  | .map _ (.loop id _) => .loop id
  | .map _ (.routine id name) => .routine id name
  | .map entries form => .map (referredEntries entries) form
  | v => v

def referredItems : List Value → List Value
  | [] => []
  | v :: rest => v.referred :: referredItems rest

def referredEntries : List (Value × Value) → List (Value × Value)
  | [] => []
  | (k, v) :: rest => (k, v.referred) :: referredEntries rest

end

/-! ## Values of documents -/

mutual

def ofDatum : Datum → Value
  | .null => .null
  | .bool b => .bool b
  | .int n => .int n
  | .float x => .float x
  | .text s => ofText s
  | .list items => list (ofItems items)
  | .object fields => ofMap (ofFields fields)
  | .moment written => ofMap [(ofText Datum.momentField, ofText written)]

def ofItems : List Datum → List Value
  | [] => []
  | d :: rest => ofDatum d :: ofItems rest

def ofFields : List (String × Datum) → List (Value × Value)
  | [] => []
  | (name, d) :: rest => (ofText name, ofDatum d) :: ofFields rest

end

end Value

end Groundwork.Template
