import Groundwork.Bits
import Groundwork.Datum
import Groundwork.Text.Quoted
import Groundwork.Text.Search
import Groundwork.Text.Blank

/-!
Option assignments as they are given on a command line: `key=value`, or a bare `key` that is set
to true.
-/

namespace Groundwork

/-- An option and its value. -/
structure Assignment where
  key : String
  value : Datum

namespace Assignment

/-- The whole number that a text spells: digits with or without a sign, within sixty-four bits. -/
def parseInt? (text : List Char) : Option Int :=
  let (negative, digits) :=
    match text with
    | '-' :: rest => (true, rest)
    | '+' :: rest => (false, rest)
    | _ => (false, text)
  if digits.isEmpty || !digits.all Char.isDigit then none
  else
    let magnitude : Nat := digits.foldl (fun n c => 10 * n + (c.toNat - '0'.toNat)) 0
    let value : Int := if negative then -magnitude else magnitude
    if Bits.isSigned 64 value then some value else none

/-- The value that a text gives an option: a truth value or a whole number if it looks like one,
else the text itself. -/
def parseValue (text : List Char) : Datum :=
  if text == "true".toList then .bool true
  else if text == "false".toList then .bool false
  else
    match parseInt? text with
    | some n => .int n
    | none => .text (String.ofList text)

/-- Why a text is no assignment. -/
inductive Fault where
  | emptyKey (text : String)
deriving Repr, DecidableEq

def Fault.message : Fault → String
  | .emptyKey text => s!"option assignment {Text.quoted text} has an empty key"

/-- The assignment that a text spells. The first equals sign ends the key; blanks around the key do
not count. -/
def parse (text : String) : Except Fault Assignment :=
  let (key, value) :=
    match Text.splitOnce '=' text.toList with
    | some (key, value) => (Text.trim key, parseValue value)
    | none => (Text.trim text.toList, Datum.bool true)
  if key.isEmpty then .error (.emptyKey text) else .ok ⟨String.ofList key, value⟩

end Assignment

end Groundwork
