import Groundwork.Decimal.Fraction
import Groundwork.Shell.Arithmetic
import Groundwork.Text.Conversion

/-!
Formatted output: escapes of characters, and formats with arguments that are used again as long as
arguments are left.
-/

namespace Groundwork.Shell.Format

/-! ## Escapes -/

/-- Escapes of a single letter. -/
def letterEscapes : List (Char × UInt8) :=
  [('a', 7), ('b', 8), ('e', 27), ('f', 12), ('n', 10), ('r', 13), ('t', 9), ('v', 11), ('\\', 92)]

def isOctal (c : Char) : Bool := '0' ≤ c && c ≤ '7'

def octalValue (digits : List Char) : UInt8 :=
  UInt8.ofNat (digits.foldl (fun n c => 8 * n + (c.toNat - '0'.toNat)) 0)

def charBytes (c : Char) : List UInt8 := (String.singleton c).toUTF8.data.toList

/-- Which escapes there are besides single letters and octal digits. -/
structure EscapeRules where
  /-- A `c` ends all output. -/
  stops : Bool := false
  /-- Up to three octal digits follow a zero. -/
  zeroLed : Bool := false
  /-- An `x` begins a number to the base sixteen. -/
  hex : Bool := false
  /-- A quote stands for itself. -/
  quote : Bool := false

/-- What an escape stands for. -/
inductive Escape where
  | bytes (bytes : List UInt8)
  /-- All output ends here. -/
  | stop

/-- The escape after a backslash, and the text after it. A backslash that begins no escape stands
for itself. -/
def readEscape (rules : EscapeRules) (text : List Char) : Escape × List Char :=
  match text with
  | [] => (.bytes [92], [])
  | c :: rest =>
      let hexDigits := (rest.take 2).takeWhile Arithmetic.isHexDigit
      if c == 'c' && rules.stops then (.stop, rest)
      else if c == '"' && rules.quote then (.bytes [34], rest)
      else if c == 'x' && rules.hex && !hexDigits.isEmpty then
        (.bytes [UInt8.ofNat (Arithmetic.ofDigits 16 hexDigits).toNat],
          rest.drop hexDigits.length)
      else if c == '0' && rules.zeroLed then
        let digits := (rest.take 3).takeWhile isOctal
        (.bytes [octalValue digits], rest.drop digits.length)
      else if isOctal c then
        let digits := (text.take 3).takeWhile isOctal
        (.bytes [octalValue digits], text.drop digits.length)
      else
        match letterEscapes.find? (·.1 == c) with
        | some (_, byte) => (.bytes [byte], rest)
        | none => (.bytes [92], text)

/-- The bytes of a text with escapes, and whether output goes on after it; `fuel` bounds its
length. -/
def unescapeFrom (rules : EscapeRules) (fuel : Nat) (text : List Char) : List (List UInt8) × Bool :=
  match fuel with
  | 0 => ([], true)
  | fuel + 1 =>
      match text with
      | [] => ([], true)
      | '\\' :: rest =>
          match readEscape rules rest with
          | (.stop, _) => ([], false)
          | (.bytes bytes, rest) =>
              let (others, goesOn) := unescapeFrom rules fuel rest
              (bytes :: others, goesOn)
      | c :: rest =>
          let (others, goesOn) := unescapeFrom rules fuel rest
          (charBytes c :: others, goesOn)

/-- The bytes of a text with escapes, and whether output goes on after it. -/
def unescape (rules : EscapeRules) (text : String) : List UInt8 × Bool :=
  let (bytes, goesOn) := unescapeFrom rules (text.length + 1) text.toList
  (bytes.flatten, goesOn)

/-! ## Lines of words -/

/-- The escapes of the shell's own `echo`. -/
def shellEscapes : EscapeRules := { stops := true, zeroLed := true }

/-- The escapes of the program `echo`. -/
def programEscapes : EscapeRules := { stops := true, zeroLed := true, hex := true }

/-- What the shell's own `echo` writes. Without a newline at the end if the first argument is
`-n`. -/
def echo (arguments : List String) : List UInt8 :=
  let (ends, arguments) :=
    match arguments with
    | "-n" :: rest => (false, rest)
    | arguments => (true, arguments)
  let (bytes, goesOn) := unescape shellEscapes (" ".intercalate arguments)
  if goesOn && ends then bytes ++ [10] else bytes

/-- The switches before the other arguments of `echo`. -/
def splitSwitches : List String → List Char × List String
  | [] => ([], [])
  | argument :: rest =>
      match argument.toList with
      | '-' :: c :: letters =>
          if (c :: letters).all "neE".toList.contains then
            let (others, operands) := splitSwitches rest
            (c :: letters ++ others, operands)
          else ([], argument :: rest)
      | _ => ([], argument :: rest)

/-- What the program `echo` writes: escapes stand for themselves unless the last switch about them
is `e`, and `n` keeps the newline away. -/
def echoWithSwitches (arguments : List String) : List UInt8 :=
  let (switches, operands) := splitSwitches arguments
  let text := " ".intercalate operands
  let (bytes, goesOn) :=
    if (switches.filter (· != 'n')).getLast? == some 'e' then unescape programEscapes text
    else (text.toUTF8.data.toList, true)
  if goesOn && !switches.contains 'n' then bytes ++ [10] else bytes

/-! ## Numbers -/

/-- A number at the start of an argument. -/
structure NumberReading (α : Type) where
  value : α
  /-- Whether there was a number at all, and whether something follows it. -/
  found : Bool := true
  more : Bool := false
  tooLarge : Bool := false

def isBlank (c : Char) : Bool := c == ' ' || ('\t' ≤ c && c ≤ '\r')

/-- The sign at the start of a text. -/
def splitSign : List Char → Bool × List Char
  | '-' :: rest => (true, rest)
  | '+' :: rest => (false, rest)
  | rest => (false, rest)

/-- Reads a whole number of 64 bits, with a sign or without. A quote gives the code of what follows
it. -/
def readWhole (signed : Bool) (argument : String) : NumberReading Int :=
  match argument.toList with
  | '\'' :: rest | '"' :: rest =>
      ⟨((rest.take 1).flatMap charBytes).head?.elim 0 fun b => (b.toNat : Int), true, false, false⟩
  | text =>
      let (negative, digits) := splitSign (text.dropWhile isBlank)
      if !digits.head?.any Char.isDigit then
        ⟨0, argument.isEmpty, !argument.isEmpty, false⟩
      else
        let (value, rest) := Arithmetic.readNumber digits
        let limit : Int :=
          if signed then if negative then Arithmetic.greatest + 1 else Arithmetic.greatest
          else 2 * Arithmetic.greatest + 1
        let kept := min value limit
        ⟨if negative then -kept else kept, true, !rest.isEmpty, limit < value⟩

/-- Reads a number with a point or an exponent. -/
def readFraction (argument : String) : NumberReading Float :=
  match argument.toList with
  | '\'' :: rest | '"' :: rest =>
      ⟨Float.ofNat (((rest.take 1).flatMap charBytes).head?.elim 0 UInt8.toNat), true, false, false⟩
  | text =>
      let (negative, digits) := splitSign (text.dropWhile isBlank)
      let signed (x : Float) : Float := if negative then -x else x
      let lower := digits.map Char.toLower
      let named (name : String) (x : Float) : Option (NumberReading Float) :=
        if name.toList.isPrefixOf lower then
          some ⟨signed x, true, name.length < lower.length, false⟩
        else none
      match (named "infinity" (1.0 / 0.0)).orElse fun _ =>
          (named "inf" (1.0 / 0.0)).orElse fun _ => named "nan" (0.0 / 0.0) with
      | some reading => reading
      | none =>
          let whole := digits.takeWhile Char.isDigit
          let rest := digits.drop whole.length
          let (fraction, rest) :=
            match rest with
            | '.' :: rest => (rest.takeWhile Char.isDigit, rest.dropWhile Char.isDigit)
            | rest => ([], rest)
          if whole.isEmpty && fraction.isEmpty then
            ⟨0.0, argument.isEmpty, !argument.isEmpty, false⟩
          else if "0x".toList.isPrefixOf lower then
            let (value, rest) := Arithmetic.readNumber lower
            ⟨signed (Float.ofInt value), true, !rest.isEmpty, false⟩
          else
            let (exponent, rest) := readExponent rest
            let significand := (Arithmetic.ofDigits 10 (whole ++ fraction)).toNat
            let x := Decimal.scaled significand (exponent - fraction.length)
            ⟨signed x, true, !rest.isEmpty, x.isInf⟩
where
  /-- Reads an exponent, if there is one. -/
  readExponent (text : List Char) : Int × List Char :=
    match text with
    | e :: rest =>
        let (negative, digits) := splitSign rest
        if (e == 'e' || e == 'E') && digits.head?.any Char.isDigit then
          let value := min (Arithmetic.ofDigits 10 (digits.takeWhile Char.isDigit)) 100000
          (if negative then -value else value, digits.dropWhile Char.isDigit)
        else (0, text)
    | [] => (0, [])

/-! ## Formats -/

/-- How a format is read and its faults are worded. -/
structure Dialect where
  /-- Escapes of the format itself. -/
  formatEscapes : EscapeRules
  /-- Escapes of arguments. -/
  argumentEscapes : EscapeRules
  quoted : String → String
  invalid : String → String
  missing : String → String
  noNumber : String
  notWhole : String
  /-- Whether an empty argument is a number. -/
  emptyIsZero : Bool

/-- The `printf` of the shell itself. -/
def Dialect.shell : Dialect where
  formatEscapes := {}
  argumentEscapes := shellEscapes
  quoted := id
  invalid := (s!"{·}: invalid directive")
  missing := fun _ => "missing format character"
  noNumber := "expected numeric value"
  notWhole := "not completely converted"
  emptyIsZero := true

/-- The program `printf`. -/
def Dialect.program : Dialect where
  formatEscapes := { stops := true, hex := true, quote := true }
  argumentEscapes := { stops := true, zeroLed := true, hex := true, quote := true }
  quoted := (s!"'{·}'")
  invalid := (s!"{·}: invalid conversion specification")
  missing := (s!"{·}: invalid conversion specification")
  noNumber := "expected a numeric value"
  notWhole := "value not completely converted"
  emptyIsZero := false

/-- A part of a format. -/
inductive Part where
  | bytes (bytes : List UInt8)
  /-- A conversion, whose width and precision may be arguments. -/
  | conversion (conversion : Conversion) (widthGiven precisionGiven : Bool)
  | invalid (text : String)
  | missing (text : String)
  | stop

/-- Reads a conversion after its percent sign. -/
def readConversion (text : List Char) : Part × List Char :=
  let (conversion, afterFlags) := Conversion.readFlags {} text
  let (widthGiven, width, rest) : Bool × Nat × List Char :=
    match afterFlags with
    | '*' :: rest => (true, 0, rest)
    | rest => (false, Conversion.readNumber rest)
  let (precisionGiven, precision, rest) : Bool × Option Nat × List Char :=
    match rest with
    | '.' :: '*' :: rest => (true, none, rest)
    | '.' :: rest =>
        let (number, rest) := Conversion.readNumber rest
        (false, some number, rest)
    | rest => (false, none, rest)
  let spelled (rest : List Char) : String :=
    String.ofList ('%' :: text.take (text.length - rest.length))
  match rest with
  | letter :: rest =>
      if "sbcdiouxXeEfFgG".toList.contains letter then
        (.conversion { conversion with width, precision, letter } widthGiven precisionGiven, rest)
      else (.invalid (spelled rest), rest)
  | [] => (.missing (spelled []), [])

/-- The parts of a format; `fuel` bounds its length. -/
def readParts (rules : EscapeRules) (fuel : Nat) (text : List Char) : List Part :=
  match fuel with
  | 0 => []
  | fuel + 1 =>
      match text with
      | [] => []
      | '%' :: '%' :: rest => .bytes [37] :: readParts rules fuel rest
      | '%' :: rest =>
          let (part, rest) := readConversion rest
          part :: readParts rules fuel rest
      | '\\' :: rest =>
          match readEscape rules rest with
          | (.bytes bytes, rest) => .bytes bytes :: readParts rules fuel rest
          | (.stop, _) => [.stop]
      | c :: rest => .bytes (charBytes c) :: readParts rules fuel rest

/-- What has been written of a format. -/
structure Writing where
  arguments : List String
  /-- Pieces of the output, the last one first. -/
  pieces : List (List UInt8) := []
  /-- Faults that do not end the output, the last one first. -/
  warnings : List String := []
  /-- A fault that ends it. -/
  fault : Option String := none
  stopped : Bool := false

namespace Writing

/-- The next argument. -/
def next (writing : Writing) : String × Writing :=
  (writing.arguments.head?.getD "", { writing with arguments := writing.arguments.drop 1 })

def add (writing : Writing) (bytes : List UInt8) : Writing :=
  { writing with pieces := bytes :: writing.pieces }

/-- Notes what is wrong with a number. -/
def check {α : Type} (dialect : Dialect) (argument : String) (given : Bool)
    (reading : NumberReading α) (writing : Writing) : Writing :=
  let warn (text : String) : Writing :=
    { writing with warnings := s!"{dialect.quoted argument}: {text}" :: writing.warnings }
  if !given then writing
  else if !reading.found || (argument.isEmpty && !dialect.emptyIsZero) then warn dialect.noNumber
  else if reading.more then warn dialect.notWhole
  else if reading.tooLarge then warn "Numerical result out of range"
  else writing

/-- The next argument as a whole number. -/
def nextWhole (dialect : Dialect) (signed : Bool) (writing : Writing) : Int × Writing :=
  let given := !writing.arguments.isEmpty
  let (argument, writing) := writing.next
  let reading := readWhole signed argument
  (reading.value, writing.check dialect argument given reading)

end Writing

/-- Bytes brought to the width of a conversion. -/
def pad (conversion : Conversion) (bytes : List UInt8) : List UInt8 :=
  let missing := conversion.width - bytes.length
  if conversion.leftAligned then bytes ++ List.replicate missing 32
  else List.replicate missing 32 ++ bytes

/-- A whole number as a conversion writes it. -/
def wholeText (conversion : Conversion) (value : Int) : List Char :=
  let conversion :=
    if conversion.precision.isSome then { conversion with zeroPadded := false } else conversion
  let isSigned := conversion.letter == 'd' || conversion.letter == 'i'
  let size := if isSigned then value.natAbs else (value % Bits.count 64).toNat
  let base := match conversion.letter with
    | 'o' => 8
    | 'x' | 'X' => 16
    | _ => 10
  let digits := if size == 0 && conversion.precision == some 0 then [] else Nat.toDigits base size
  let digits := if conversion.letter == 'X' then digits.map Char.toUpper else digits
  let digits := List.replicate (conversion.precision.getD 0 - digits.length) '0' ++ digits
  let digits :=
    if conversion.alternate && base == 8 && digits.head? != some '0' then '0' :: digits else digits
  let lead := if conversion.alternate && base == 16 && size != 0 then ['0', conversion.letter]
    else []
  let sign := if isSigned then conversion.signOf (value < 0) else []
  conversion.padNumber (sign ++ lead) digits

/-- Writes an argument by a conversion. -/
def convert (dialect : Dialect) (conversion : Conversion) (writing : Writing) : Writing :=
  let cut (bytes : List UInt8) : List UInt8 :=
    match conversion.precision with
    | some precision => bytes.take precision
    | none => bytes
  match conversion.letter with
  | 's' =>
      let (argument, writing) := writing.next
      writing.add (pad conversion (cut argument.toUTF8.data.toList))
  | 'b' =>
      let (argument, writing) := writing.next
      let (bytes, goesOn) := unescape dialect.argumentEscapes argument
      { writing.add (pad conversion (cut bytes)) with stopped := !goesOn }
  | 'c' =>
      let (argument, writing) := writing.next
      writing.add (pad conversion (((argument.toUTF8.data.toList ++ [0]).take 1)))
  | letter =>
      if letter == 'd' || letter == 'i' || "ouxX".toList.contains letter then
        let (value, writing) := writing.nextWhole dialect (letter == 'd' || letter == 'i')
        writing.add ((wholeText conversion value).flatMap charBytes)
      else
        let given := !writing.arguments.isEmpty
        let (argument, writing) := writing.next
        let reading := readFraction argument
        let conversion :=
          if reading.value.isFinite then conversion else { conversion with zeroPadded := false }
        (writing.check dialect argument given reading).add
          ((conversion.fractionText reading.value).flatMap charBytes)

/-- Writes a part of a format. -/
def writePart (dialect : Dialect) (writing : Writing) (part : Part) : Writing :=
  if writing.stopped || writing.fault.isSome then writing
  else
    match part with
    | .bytes bytes => writing.add bytes
    | .invalid text => { writing with fault := some (dialect.invalid text) }
    | .missing text => { writing with fault := some (dialect.missing text) }
    | .stop => { writing with stopped := true }
    | .conversion conversion widthGiven precisionGiven =>
        let (conversion, writing) :=
          if widthGiven then
            let (width, writing) := writing.nextWhole dialect true
            ({ conversion with
                width := width.natAbs
                leftAligned := conversion.leftAligned || width < 0 }, writing)
          else (conversion, writing)
        let (conversion, writing) :=
          if precisionGiven then
            let (precision, writing) := writing.nextWhole dialect true
            ({ conversion with
                precision := if precision < 0 then none else some precision.toNat }, writing)
          else (conversion, writing)
        convert dialect conversion writing

/-- Writes parts again as long as arguments are left; `fuel` bounds the rounds. -/
def writeAll (dialect : Dialect) (fuel : Nat) (parts : List Part) (writing : Writing) : Writing :=
  match fuel with
  | 0 => writing
  | fuel + 1 =>
      let after := parts.foldl (writePart dialect) writing
      if after.stopped || after.fault.isSome || after.arguments.isEmpty ||
          after.arguments.length == writing.arguments.length then after
      else writeAll dialect fuel parts after

/-- What `printf` writes. -/
def printf (dialect : Dialect) (format : String) (arguments : List String) : Writing :=
  writeAll dialect (arguments.length + 1)
    (readParts dialect.formatEscapes (format.length + 1) format.toList) { arguments }

/-- The bytes that were written. -/
def Writing.bytes (writing : Writing) : ByteArray := ⟨writing.pieces.reverse.flatten.toArray⟩

end Groundwork.Shell.Format
