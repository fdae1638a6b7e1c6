import Groundwork.Template.Value
import Groundwork.Text.Conversion

/-!
Formats with conversions: a percent sign, a name, flags, a width, a precision and a letter that says
how an argument is written. Arguments are taken in their order or, after a name, from a map.
-/

namespace Groundwork.Template.Format

open Conversion

/-- A conversion of the next argument, or of the one with a name. -/
structure Directive where
  name : Option String
  conversion : Conversion

/-- A number at the front of a text that sixty-four bits hold, if there are digits. -/
def readSize (text : List Char) : Except TemplateFault (Option Nat × List Char) :=
  let (n, rest) := readNumber text
  if rest.length == text.length then .ok (none, text)
  else if n < Bits.count 64 then .ok (some n, rest)
  else TemplateFault.invalid "number in format is too large"

/-- The name in parentheses at the front of a text, if there is one. -/
def readName (text : List Char) : Except TemplateFault (Option String × List Char) :=
  match text with
  | '(' :: rest =>
      match rest.dropWhile (· != ')') with
      | [] => TemplateFault.invalid "incomplete format key"
      | _ :: after => .ok (some (String.ofList (rest.takeWhile (· != ')'))), after)
  | _ => .ok (none, text)

/-- The conversion after a percent sign, and the text after it. Letters that tell of a length mean
nothing. -/
def readDirective (text : List Char) : Except TemplateFault (Directive × List Char) := do
  let (name, rest) ← readName text
  let (conversion, rest) := readFlags {} rest
  let (width, rest) ← readSize rest
  let (precision, rest) ←
    match rest with
    | '.' :: rest => readSize rest
    | _ => .ok (none, rest)
  match rest.dropWhile ['h', 'l', 'L'].contains with
  | letter :: rest =>
      return (⟨name, { conversion with width := width.getD 0, precision, letter }⟩, rest)
  | [] => TemplateFault.invalid "incomplete format"

/-- A text brought to the width of a conversion, which counts its bytes. -/
def padText (conversion : Conversion) (text : List Char) : List Char :=
  let blanks := List.replicate (conversion.width - (String.ofList text).utf8ByteSize) ' '
  if conversion.leftAligned then text ++ blanks else blanks ++ text

/-- A point at the end of digits that have none. -/
def withPoint (digits : List Char) : List Char :=
  if digits.contains '.' then digits else digits ++ ['.']

/-- The digits of a fraction without its sign. The alternate form has always a point and, with a
precision, keeps the zeros of the shorter way; as a text a whole number other than zero ends
in `.0`. -/
def fractionDigits (conversion : Conversion) (units : Nat) : List Char :=
  let places := conversion.precision.getD 6
  match conversion.letter.toLower with
  | 'e' =>
      let text := Decimal.scientificPlaces units places
      let digits := text.takeWhile (· != 'e')
      if conversion.alternate then withPoint digits ++ text.drop digits.length else text
  | 'f' =>
      let digits := Decimal.fixedPlaces units places
      if conversion.alternate then withPoint digits else digits
  | 'g' =>
      let keepsZeros := conversion.alternate && conversion.precision.isSome
      Decimal.generalPlaces units places keepsZeros
  | _ =>
      let digits := Decimal.generalPlaces units places false
      if units == 0 || digits.contains 'e' || digits.contains '.' then digits
      else digits ++ ['.', '0']

/-- A fraction as a conversion writes it. -/
def fractionText (conversion : Conversion) (x : Float) : List Char :=
  let digits :=
    match Decimal.units? x with
    | none => if x.isNaN then "nan".toList else "inf".toList
    | some (_, units) => fractionDigits conversion units
  let digits := if conversion.letter.isUpper then digits.map Char.toUpper else digits
  let negative := Decimal.isNegativeBits x.toBits.toNat && !x.isNaN
  padNumber conversion (signOf conversion negative) digits

/-- The text of an argument by a conversion, if they go together. Whole numbers have no
precision. -/
def convert? (conversion : Conversion) (v : Value) : Option (List Char) :=
  let whole (base : Nat) (lead : List Char) : Option (List Char) :=
    match v with
    | .int n => some (wholeText { conversion with precision := none } base lead n)
    | _ => none
  match conversion.letter with
  | 's' =>
      match v with
      | .float x => some (fractionText conversion x)
      | _ =>
          let text := v.display.toList
          some (padText conversion (text.take (conversion.precision.getD text.length)))
  | 'd' | 'i' => whole 10 []
  | 'x' => whole 16 ['0', 'x']
  | 'X' => whole 16 ['0', 'X']
  | 'o' => whole 8 ['0', 'o']
  | 'e' | 'E' | 'f' | 'F' | 'g' | 'G' =>
      match v with
      | .int n => some (fractionText conversion (Float.ofInt n))
      | .float x => some (fractionText conversion x)
      | _ => none
  | _ => none

/-- The argument of a directive, and the arguments left. Names are looked up in a map that is the
only argument. -/
def argument (directive : Directive) (arguments : List Value)
    : Except TemplateFault (Value × List Value) :=
  match directive.name, arguments with
  | none, v :: others => .ok (v, others)
  | none, [] => TemplateFault.invalid "not enough arguments for format string"
  | some name, [.map entries _] =>
      match Value.valueAt? entries (.ofText name) with
      | some v => .ok (v, arguments)
      | none => TemplateFault.invalid s!"missing argument {name}"
  | some _, _ => TemplateFault.invalid "format requires a mapping"

/-- What a format writes with some arguments; `fuel` bounds its length. -/
def formatFrom : Nat → List Char → List Value → Except TemplateFault (List Char)
  | 0, _, _ => .ok []
  | fuel + 1, text, arguments => do
      match text with
      | [] => return []
      | '%' :: '%' :: rest => return '%' :: (← formatFrom fuel rest arguments)
      | '%' :: rest =>
          let (directive, rest) ← readDirective rest
          let (v, others) ← argument directive arguments
          match convert? directive.conversion v with
          | none => TemplateFault.invalid "unsupported conversion"
          | some written => return written ++ (← formatFrom fuel rest others)
      | c :: rest => return c :: (← formatFrom fuel rest arguments)

/-- What a format writes with some arguments. -/
def format (text : String) (arguments : List Value) : Except TemplateFault String :=
  (formatFrom (text.length + 1) text.toList arguments).map String.ofList

end Groundwork.Template.Format
