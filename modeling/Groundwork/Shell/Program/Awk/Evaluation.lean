import Groundwork.Shell.Program.Awk.Run

/-!
What scripts of `awk` do: values of expressions, effects of statements, and rules applied to
records.
-/

namespace Groundwork.Shell.Program.Awk

/-! ## Functions on texts -/

/-- A part of a text from a place, of a length if one is given. -/
def partOf (text : ByteArray) (start : Float) (length : Option Float) : ByteArray :=
  let length := length.getD 2147483647.0
  let length := if start < 1.0 then length + (start - 1.0) else length
  let first := if start < 1.0 then 0 else start.toUInt64.toNat - 1
  if length > 0.0 then text.extract first (first + length.toUInt64.toNat) else .empty

/-- The place of a text in another one, which is zero if it is not there; `fuel` bounds it. -/
def placeOf (needle text : ByteArray) (fuel place : Nat) : Nat :=
  match fuel with
  | 0 => 0
  | fuel + 1 =>
      if text.size < place + needle.size then 0
      else if startsAt needle text needle.size place then place + 1
      else placeOf needle text fuel (place + 1)
where
  startsAt (needle text : ByteArray) (count place : Nat) : Bool :=
    match count with
    | 0 => true
    | count + 1 =>
        byteAt needle count == byteAt text (place + count) && startsAt needle text count place

def mapBytes (change : UInt8 → UInt8) (text : ByteArray) : ByteArray := ⟨text.data.map change⟩

def lowerByte (b : UInt8) : UInt8 := if 65 ≤ b && b ≤ 90 then b + 32 else b

def upperByte (b : UInt8) : UInt8 := if 97 ≤ b && b ≤ 122 then b - 32 else b

/-- What takes the place of a match. An ampersand stands for the match unless there is a backslash
before it; a backslash before another one stands for one of them. -/
def replacementOf (found : List UInt8) : List UInt8 → List UInt8
  | 92 :: 38 :: rest => 38 :: replacementOf found rest
  | 92 :: 92 :: rest => 92 :: replacementOf found rest
  | 38 :: rest => found ++ replacementOf found rest
  | b :: rest => b :: replacementOf found rest
  | [] => []

/-- A text with matches replaced, all of them or the first one, and their number. -/
def replaceIn (pattern : Expression) (replacement : List UInt8) (all : Bool) (text : ByteArray)
    : ByteArray × Nat :=
  let found := if all then pattern.findAll {} text
    else (pattern.find? {} text 0).toList
  let plain := !(replacement.contains 38 || replacement.contains 92)
  let (result, place) := found.foldl (fun (result, place) (one : Expression.Match) =>
    let part := text.extract one.start one.stop
    let other := if plain then replacement else replacementOf part.data.toList replacement
    (result ++ text.extract place one.start ++ ⟨other.toArray⟩, one.stop)) (ByteArray.empty, 0)
  (result ++ text.extract place text.size, found.length)

/-- A number as a whole one of 64 bits. -/
def wholeOf (x : Float) : Int :=
  if x.isNaN then -9223372036854775808
  else if x ≥ 9223372036854775808.0 then 9223372036854775807
  else if x ≤ -9223372036854775808.0 then -9223372036854775807
  else x.toInt64.toInt

/-! ## Formats -/

/-- What has been written of a format, and the arguments that are left. -/
structure Formatting where
  written : ByteArray := .empty
  arguments : List Value
  number : Nat := 0
  fault : Option String := none

namespace Formatting

/-- Takes the next argument. -/
def next (formatting : Formatting) : Option (Value × Formatting) :=
  match formatting.arguments with
  | [] => none
  | value :: rest =>
      some (value, { formatting with arguments := rest, number := formatting.number + 1 })

/-- Writes an argument by a conversion. -/
def convert (texts : Value → ByteArray) (conversion : Conversion) (value : Value)
    (formatting : Formatting) : Formatting :=
  let add (bytes : List UInt8) : Formatting :=
    { formatting with written := formatting.written ++ ⟨bytes.toArray⟩ }
  let cut (bytes : List UInt8) : List UInt8 :=
    match conversion.precision with
    | some precision => bytes.take precision
    | none => bytes
  match conversion.letter with
  | 's' => add (Format.pad conversion (cut (texts value).data.toList))
  | 'c' =>
      let byte := match value with
        | .number x => UInt8.ofNat ((wholeOf x % 256).toNat)
        | value => (texts value).data.getD 0 0
      add (Format.pad conversion [byte])
  | letter =>
      let x := value.toNumber
      if "diouxX".toList.contains letter then
        add ((Format.wholeText conversion (wholeOf x)).flatMap Format.charBytes)
      else
        let conversion := if x.isFinite then conversion else { conversion with zeroPadded := false }
        let shown := if x.isNaN then conversion.padNumber ['-'] "nan".toList
          else conversion.fractionText x
        add (shown.flatMap Format.charBytes)

/-- Writes a format; `fuel` bounds its length. -/
def run (texts : Value → ByteArray) (name : String) (whole : String) (fuel : Nat)
    (format : List UInt8) (formatting : Formatting) : Formatting :=
  match fuel with
  | 0 => formatting
  | fuel + 1 =>
      let missing : Formatting :=
        { formatting with fault := some s!"not enough arguments passed to {name}(\x22{whole}\x22)" }
      match format with
      | [] => formatting
      | 37 :: 37 :: rest =>
          run texts name whole fuel rest { formatting with written := formatting.written.push 37 }
      | 37 :: rest =>
          let spec := (rest.takeWhile isSpecByte).map fun b => Char.ofNat b.toNat
          let letter := rest.drop spec.length |>.take 1
          let after := rest.drop (spec.length + 1)
          let text := spec ++ letter.map fun b => Char.ofNat b.toNat
          match Format.readConversion text with
          | (.conversion conversion widthGiven precisionGiven, _) =>
              let width? : Option (Conversion × Formatting) :=
                if widthGiven then
                  formatting.next.map fun (value, formatting) =>
                    let width := wholeOf value.toNumber
                    ({ conversion with
                        width := width.natAbs
                        leftAligned := conversion.leftAligned || width < 0 }, formatting)
                else some (conversion, formatting)
              let both? : Option (Conversion × Formatting) := width?.bind fun (conversion, now) =>
                if precisionGiven then
                  now.next.map fun (value, now) =>
                    let precision := wholeOf value.toNumber
                    ({ conversion with
                        precision := if precision < 0 then none else some precision.toNat }, now)
                else some (conversion, now)
              match both?.bind fun (conversion, now) =>
                  now.next.map fun (value, now) => now.convert texts conversion value with
              | some now => run texts name whole fuel after now
              | none => missing
          | _ =>
              if formatting.arguments.isEmpty then missing
              else
                { formatting with
                  fault := some (s!"improper conversion(number {formatting.number + 1}) in " ++
                    s!"{name}(\x22{whole}\x22)") }
      | b :: rest =>
          run texts name whole fuel rest { formatting with written := formatting.written.push b }
where
  /-- Whether a byte stands between a percent sign and the letter of a conversion. -/
  isSpecByte (b : UInt8) : Bool :=
    isDigit b || b == 45 || b == 43 || b == 32 || b == 35 || b == 46 || b == 42

end Formatting

/-! ## Evaluation -/

def ofBool (b : Bool) : Value := .number (if b then 1.0 else 0.0)

def ofNatural (n : Nat) : Value := .number (Float.ofNat n)

/-- What is left of a division, with the sign of the number that is divided. -/
def remainderOf (x y : Float) : Float :=
  if x.abs < 4503599627370496.0 && y.abs < 4503599627370496.0 && x.floor == x && y.floor == y &&
      !(y == 0.0) then
    Float.ofInt (Int.tmod x.toInt64.toInt y.toInt64.toInt)
  else Decimal.remainder x y

def Operator.apply (operator : Operator) (x y : Float) : Float :=
  match operator with
  | .add => x + y
  | .subtract => x - y
  | .multiply => x * y
  | .divide => x / y
  | .remainder => remainderOf x y
  | .power => Float.pow x y

/-- A number without its fraction. -/
def withoutFraction (x : Float) : Float := if x < 0.0 then x.ceil else x.floor

/-- A function of a number. -/
def numeric? (name : String) (x : Float) : Option Float :=
  match name with
  | "sin" => some x.sin
  | "cos" => some x.cos
  | "exp" => some x.exp
  | "log" => some x.log
  | "sqrt" => some x.sqrt
  | "int" => some (withoutFraction x)
  | _ => none

/-- Lets a little time pass. -/
def tick : Engine Unit := do
  modifyThe Machine fun machine =>
    { machine with world := { machine.world with clock := machine.world.clock + 1 } }
  checkTime

/-- The next number of a row that has no order in sight. -/
def nextRandom : Engine Float := do
  let random := ((← get).random * 6364136223846793005 + 1442695040888963407) % Nat.pow 2 64
  modify fun run => { run with random }
  return Float.ofNat (random / Nat.pow 2 33) / 2147483648.0

/-- Whether a pattern matches somewhere in a text. -/
def matches? (pattern : Pattern) (text : ByteArray) : Bool :=
  (pattern.expression.find? {} text 0).isSome

/-- How many rounds a loop has at most. -/
def roundLimit : Nat := 4000000

/-- Does something again as long as it says so. A loop without an end is stopped. -/
def again (step : Engine Bool) : Engine Unit := do
  let mut goesOn := true
  for _ in [0:roundLimit] do
    goesOn ← step
    if !goesOn then break
  if goesOn then throwThe Halt .late

mutual

/-- The value of an expression; `fuel` bounds how deep evaluation goes. -/
def value (fuel : Nat) (e : Expr) : Engine Value :=
  match fuel with
  | 0 => throwThe Halt .late
  | fuel + 1 =>
      match e with
      | .number x => return .number x
      | .text bytes => return .text bytes
      | .plainly e => value fuel e
      | .pattern pattern => do
          joinFields
          return ofBool (matches? pattern (← get).record)
      | .name "NF" => do
          divide
          match ← slot "NF" with
          | .value value => return value
          | _ => return .unset
      | .name name => do
          match ← slot name with
          | .value value => return value
          | _ => return .unset
      | .element table keys => do
          let key ← key fuel keys
          let number ← tableOf table
          changeTable number (·.use key true)
          return (← tableAt number).get key
      | .field index => do fieldAt (← fieldIndex (← value fuel index))
      | .negate e => return .number (-(← value fuel e).toNumber)
      | .plus e => return .number (← value fuel e).toNumber
      | .deny e => return ofBool (!(← value fuel e).holds)
      | .arithmetic operator left right => do
          let x := (← value fuel left).toNumber
          return .number (operator.apply x (← value fuel right).toNumber)
      | .relate relation left right => do
          let a ← value fuel left
          let b ← value fuel right
          let format ← globalText "CONVFMT"
          return ofBool (relation.holds (a.compareTo? format b))
      | .matching positive left right => do
          let text ← toText (← value fuel left)
          let pattern ← pattern fuel right
          return ofBool (matches? pattern text == positive)
      | .both left right => do
          let first := (← value fuel left).holds
          if first then return ofBool (← value fuel right).holds else return ofBool false
      | .either left right => do
          let first := (← value fuel left).holds
          if first then return ofBool true else return ofBool (← value fuel right).holds
      | .choose condition yes no => do
          let chosen := (← value fuel condition).holds
          value fuel (if chosen then yes else no)
      | .join left right => do
          let a ← toText (← value fuel left)
          return .text (a ++ (← toText (← value fuel right)))
      | .within keys table => do
          let key ← key fuel keys
          let number ← tableOf table
          changeTable number (·.use key false)
          return ofBool ((← tableAt number).contains key)
      | .assign none target e => do
          let new ← value fuel e
          assign fuel target new
          return new
      | .assign (some operator) target e => do
          let y := (← value fuel e).toNumber
          let new := Value.number (operator.apply (← value fuel target).toNumber y)
          assign fuel target new
          return new
      | .count up after target => do
          let before := (← value fuel target).toNumber
          let new := if up then before + 1.0 else before - 1.0
          assign fuel target (.number new)
          return .number (if after then before else new)
      | .read source target => readLine fuel source target
      | .call name arguments => call fuel name arguments
      | .builtin name arguments => builtin fuel name arguments
      | .several parts => return .text (← keyText fuel parts)

/-- Keys of several parts as one text. -/
def keyText (fuel : Nat) (keys : List Expr) : Engine ByteArray :=
  match fuel with
  | 0 => throwThe Halt .late
  | fuel + 1 => do
      match keys with
      | [] => return .empty
      | [key] => toText (← value fuel key)
      | key :: rest =>
          let text ← toText (← value fuel key)
          return text ++ (← globalText "SUBSEP") ++ (← keyText fuel rest)

/-- The key that expressions stand for. -/
def key (fuel : Nat) (keys : List Expr) : Engine Table.Key :=
  match fuel with
  | 0 => throwThe Halt .late
  | fuel + 1 => do
      match keys with
      | [single] => keyOfValue (← value fuel single)
      | keys => return .text (← keyText fuel keys)

/-- The pattern that an expression stands for. -/
def pattern (fuel : Nat) (e : Expr) : Engine Pattern :=
  match fuel with
  | 0 => throwThe Halt .late
  | fuel + 1 => do
      match e with
      | .pattern pattern => return pattern
      | e => patternOf (← toText (← value fuel e))

/-- Sets what an expression names. -/
def assign (fuel : Nat) (target : Expr) (new : Value) : Engine Unit :=
  match fuel with
  | 0 => throwThe Halt .late
  | fuel + 1 => do
      match target with
      | .name name => setVariable name new
      | .plainly target => assign fuel target new
      | .element table keys =>
          let key ← key fuel keys
          let number ← tableOf table
          changeTable number fun table => (table.use key true).set key new
      | .field index => setField (← fieldIndex (← value fuel index)) new
      | _ => pure ()

/-- Reads a line. The value tells whether there was one, or that it cannot be read. -/
def readLine (fuel : Nat) (source : Source) (target : Option Expr) : Engine Value :=
  match fuel with
  | 0 => throwThe Halt .late
  | fuel + 1 => do
      let found : Option (Option ByteArray) ← match source with
        | .input => some <$> nextRecord 100000
        | .file name => readFrom false (textOf (← toText (← value fuel name)))
        | .command text => readFrom true (textOf (← toText (← value fuel text)))
      match found with
      | none => return .number (-1.0)
      | some none => return .number 0.0
      | some (some record) =>
          match target with
          | none => setRecord record
          | some target => assign fuel target (.given record)
          return .number 1.0

/-- Calls a function of the script. -/
def call (fuel : Nat) (name : String) (arguments : List Expr) : Engine Value :=
  match fuel with
  | 0 => throwThe Halt .late
  | fuel + 1 => do
      match (← get).script.functions.lookup name with
      | none => return .unset
      | some function =>
          let given ← slots fuel arguments
          let before := (← get).locals
          let names := function.parameters.zipIdx
          let locals : Std.HashMap String Slot := names.foldl (fun locals (name, i) =>
            locals.insert name (given.getD i .free)) {}
          modify fun run => { run with locals }
          let result ← tryCatch (do execute fuel function.body; return Value.unset) fun
            | .give value => return value
            | other => throw other
          modify fun run => { run with locals := before }
          return result

/-- What arguments stand for. Names without a value can become tables of the function. -/
def slots (fuel : Nat) (arguments : List Expr) : Engine (List Slot) :=
  match fuel with
  | 0 => throwThe Halt .late
  | fuel + 1 => do
      match arguments with
      | [] => return []
      | argument :: rest =>
          let first ← match argument with
            | .name name =>
                match ← slot name with
                | .free =>
                    if name == "NF" then Slot.value <$> value fuel argument
                    else Slot.table <$> tableOf name
                | .table number => pure (.table number)
                | .value _ => Slot.value <$> value fuel argument
            | argument => Slot.value <$> value fuel argument
          return first :: (← slots fuel rest)

/-- The values of expressions. -/
def values (fuel : Nat) (arguments : List Expr) : Engine (List Value) :=
  match fuel with
  | 0 => throwThe Halt .late
  | fuel + 1 => do
      match arguments with
      | [] => return []
      | argument :: rest =>
          let first ← value fuel argument
          return first :: (← values fuel rest)

/-- Arguments by a format. -/
def formattedText (fuel : Nat) (name : String) (arguments : List Expr) : Engine Formatting :=
  match fuel with
  | 0 => throwThe Halt .late
  | fuel + 1 => do
      match ← values fuel arguments with
      | [] => return { arguments := [] }
      | format :: rest =>
          let bytes ← toText format
          let conversion ← globalText "CONVFMT"
          let start : Formatting := { arguments := rest }
          return Formatting.run (·.toBytes conversion) name (textOf bytes) (bytes.size + 1)
            bytes.data.toList start

/-- Calls a function of the language. -/
def builtin (fuel : Nat) (name : String) (arguments : List Expr) : Engine Value :=
  match fuel with
  | 0 => throwThe Halt .late
  | fuel + 1 => do
      match name, arguments with
      | "length", [] =>
          joinFields
          return ofNatural (← get).record.size
      | "length", [.name name] =>
          match ← slot name with
          | .table number => return ofNatural (← tableAt number).size
          | _ => return ofNatural (← toText (← value fuel (.name name))).size
      | "length", [e] => return ofNatural (← toText (← value fuel e)).size
      | "substr", text :: start :: rest =>
          let text ← toText (← value fuel text)
          let start := (← value fuel start).toNumber
          let length ← match rest with
            | [] => pure none
            | length :: _ => some <$> (Value.toNumber <$> value fuel length)
          return .text (partOf text start length)
      | "index", [text, needle] =>
          let text ← toText (← value fuel text)
          let needle ← toText (← value fuel needle)
          return ofNatural (if text.isEmpty then 0 else placeOf needle text (text.size + 1) 0)
      | "split", text :: .name table :: rest =>
          let text ← toText (← value fuel text)
          let separator ← match rest with
            | [] => separatorOf (← globalText "FS")
            | .pattern pattern :: _ => pure (Separator.pattern pattern)
            | e :: _ => separatorOf (← toText (← value fuel e))
          let parts := separator.split false text
          let number ← tableOf table
          changeTable number fun _ =>
            if parts.isEmpty then {} else Table.ofList (parts.toList.map Value.given)
          return ofNatural parts.size
      | "sub", e :: replacement :: rest => replace fuel false e replacement rest
      | "gsub", e :: replacement :: rest => replace fuel true e replacement rest
      | "match", [text, e] =>
          let text ← toText (← value fuel text)
          let pattern ← pattern fuel e
          let (start, length) : Float × Float := match pattern.expression.find? {} text 0 with
            | some found =>
                (Float.ofNat (found.start + 1), Float.ofNat (found.stop - found.start))
            | none => (0.0, -1.0)
          setGlobal "RSTART" (.number start)
          setGlobal "RLENGTH" (.number length)
          return .number start
      | "sprintf", arguments =>
          let formatting ← formattedText fuel "sprintf" arguments
          match formatting.fault with
          | some fault => collapse fault
          | none => return .text formatting.written
      | "atan2", [y, x] =>
          let y := (← value fuel y).toNumber
          return .number (Float.atan2 y (← value fuel x).toNumber)
      | "rand", _ => return .number (← nextRandom)
      | "srand", arguments =>
          let seed ← match arguments with
            | [] => pure 1
            | e :: _ => (fun v => (wholeOf v.toNumber).toNat) <$> value fuel e
          let before := (← get).seed
          modify fun run => { run with seed, random := seed }
          return ofNatural before
      | "tolower", [e] => return .text (mapBytes lowerByte (← toText (← value fuel e)))
      | "toupper", [e] => return .text (mapBytes upperByte (← toText (← value fuel e)))
      | "system", [e] =>
          let text := textOf (← toText (← value fuel e))
          pourAll
          return ofNatural (← runCommand text none)
      | "close", [e] =>
          let name := textOf (← toText (← value fuel e))
          return .number (Float.ofInt (← closeNamed name))
      | "fflush", [] =>
          pourAll
          return .number 0.0
      | "fflush", [e] =>
          let name := textOf (← toText (← value fuel e))
          let known := (← get).sinks.any (·.name == name)
          pourAll
          return .number (if known || name.isEmpty then 0.0 else -1.0)
      | name, [e] =>
          let x := (← value fuel e).toNumber
          return .number ((numeric? name x).getD 0.0)
      | _, _ => return .unset

/-- Replaces matches in a variable, or in the record if none is named; the value is their number. -/
def replace (fuel : Nat) (all : Bool) (e replacement : Expr) (rest : List Expr) : Engine Value :=
  match fuel with
  | 0 => throwThe Halt .late
  | fuel + 1 => do
      let pattern ← pattern fuel e
      let replacement ← toText (← value fuel replacement)
      let target := rest.headD (.field (.number 0.0))
      let text ← toText (← value fuel target)
      let (result, count) := replaceIn pattern.expression replacement.data.toList all text
      if 0 < count then assign fuel target (.text result)
      return ofNatural count

/-- Sends bytes to where a statement says. -/
def send (fuel : Nat) (target : Option (TargetKind × Expr)) (bytes : ByteArray) : Engine Unit :=
  match fuel with
  | 0 => throwThe Halt .late
  | fuel + 1 => do
      match target with
      | none => put bytes
      | some (kind, e) => putTo kind (textOf (← toText (← value fuel e))) bytes

/-- Does what a statement says. -/
def execute (fuel : Nat) (statement : Statement) : Engine Unit :=
  match fuel with
  | 0 => throwThe Halt .late
  | fuel + 1 => do
      match statement with
      | .expression e =>
          let _ ← value fuel e
      | .print arguments target =>
          let texts ← match arguments with
            | [] => do
                joinFields
                pure [(← get).record]
            | arguments => (← values fuel arguments).mapM toOutput
          let mark ← globalText "OFS"
          let line := match texts with
            | [] => ByteArray.empty
            | first :: rest => rest.foldl (fun line text => line ++ mark ++ text) first
          send fuel target (line ++ (← globalText "ORS"))
      | .printf arguments target =>
          let formatting ← formattedText fuel "printf" arguments
          send fuel target formatting.written
          if let some fault := formatting.fault then collapse fault
      | .block statements => executeAll fuel statements
      | .choose condition yes no =>
          let chosen := (← value fuel condition).holds
          execute fuel (if chosen then yes else no)
      | .whilst condition body =>
          again do
            let goesOn := (← value fuel condition).holds
            if goesOn then return !(← round fuel body) else return false
      | .doWhile body condition =>
          again do
            let left ← round fuel body
            if left then return false else return (← value fuel condition).holds
      | .loop start condition step body =>
          if let some e := start then
            let _ ← value fuel e
          again do
            let goesOn ← match condition with
              | some e => Value.holds <$> value fuel e
              | none => pure true
            let left ← if goesOn then round fuel body else pure true
            if left then return false
            else
              if let some e := step then
                let _ ← value fuel e
              return true
      | .each name table body =>
          let number ← tableOf table
          let (keys, used) := (← tableAt number).keys
          changeTable number fun _ => used
          for key in keys do
            setVariable name (.given key)
            let left ← round fuel body
            if left then break
      | .delete table none =>
          let number ← tableOf table
          changeTable number fun _ => {}
      | .delete table (some keys) =>
          let key ← key fuel keys
          let number ← tableOf table
          changeTable number (·.erase key)
      | .leave => throw .leave
      | .again => throw .again
      | .next => throw .next
      | .nextFile => throw .nextFile
      | .exit status =>
          if let some e := status then
            let status := (wholeOf (← value fuel e).toNumber % 256).toNat
            modify fun run => { run with status }
          throw .exit
      | .give none => throw (.give .unset)
      | .give (some e) => throw (.give (← value fuel e))

/-- Does what statements say. -/
def executeAll (fuel : Nat) (statements : List Statement) : Engine Unit :=
  match fuel with
  | 0 => throwThe Halt .late
  | fuel + 1 => do
      match statements with
      | [] => pure ()
      | statement :: rest =>
          execute fuel statement
          executeAll fuel rest

/-- Does what the body of a loop says; tells whether the loop is left. -/
def round (fuel : Nat) (body : Statement) : Engine Bool :=
  match fuel with
  | 0 => throwThe Halt .late
  | fuel + 1 => do
      tick
      tryCatch (do execute fuel body; return false) fun
        | .leave => return true
        | .again => return false
        | other => throw other

end

/-! ## Runs -/

/-- How deep evaluation goes at most. -/
def depthLimit : Nat := 20000

/-- Does what a rule says, whose guard holds. -/
def runAction (action : Option Statement) : Engine Unit :=
  execute depthLimit (action.getD (.print [] none))

/-- Whether a rule applies to the record. -/
def applies (index : Nat) (guard : Guard) : Engine Bool := do
  match guard with
  | .begin | .finish => return false
  | .always => return true
  | .one condition => return (← value depthLimit condition).holds
  | .range first last =>
      let inside := (← get).begun.contains index
      let begins ← if inside then pure true
        else Value.holds <$> value depthLimit first
      if begins then
        let ends := (← value depthLimit last).holds
        modify fun run =>
          { run with
            begun := if ends then run.begun.filter (· != index)
              else if inside then run.begun else index :: run.begun }
      return begins

/-- Applies rules to a record. -/
def applyRules : List (Nat × Rule) → Engine Unit
  | [] => pure ()
  | (index, rule) :: rest => do
      let holds ← applies index rule.guard
      if holds then runAction rule.action
      applyRules rest

/-- Applies rules to all records. -/
def applyToRecords (rules : List (Nat × Rule)) : Engine Unit := do
  again do
    match ← nextRecord 100000 with
    | none => return false
    | some record =>
        setRecord record
        tryCatch (do applyRules rules; return true) fun
          | .next => return true
          | .nextFile => do
              modify fun run => { run with input := none }
              return true
          | other => throw other

/-- Does something up to the end of the run, if it comes to that. -/
def untilExit (action : Engine Unit) : Engine Bool :=
  tryCatch (do action; return false) fun
    | .exit => return true
    | _ => return false

/-- Runs all rules of a script. -/
def runScript : Engine Unit := do
  let rules := (← get).script.rules
  let begins := rules.filter fun rule => match rule.guard with
    | .begin => true
    | _ => false
  let finishes := rules.filter fun rule => match rule.guard with
    | .finish => true
    | _ => false
  let others := (rules.filter fun rule => match rule.guard with
    | .begin | .finish => false
    | _ => true).zipIdx.map fun (rule, i) => (i, rule)
  let ended ← untilExit (begins.forM fun rule => runAction rule.action)
  if !ended && !(others.isEmpty && finishes.isEmpty) then
    let _ ← untilExit (applyToRecords others)
  let _ ← untilExit (finishes.forM fun rule => runAction rule.action)
  closeAll

end Groundwork.Shell.Program.Awk
