import Groundwork.Shell.Program.Entry
import Groundwork.Text.NaturalOrder

/-!
The program `sort`, which puts lines in order.
-/

namespace Groundwork.Shell.Program.Sorting

/-! ## Keys -/

/-- By what lines are compared. -/
inductive Kind where
  | bytes
  | number
  | anyNumber
  | amount
  | month
  | version
deriving Repr, DecidableEq

/-- How a key is compared. -/
structure Comparison where
  kind : Kind := .bytes
  folded : Bool := false
  /-- Only letters, digits and blanks count, or only what can be seen. -/
  dictionary : Bool := false
  visible : Bool := false
  skipStart : Bool := false
  skipEnd : Bool := false
  reversed : Bool := false
deriving DecidableEq

/-- Where a key begins or ends: the number of a field, and so many bytes in it. -/
structure Position where
  field : Nat
  offset : Nat

/-- A part of lines by which they are compared. -/
structure Key where
  first : Position := ⟨0, 0⟩
  last : Option Position := none
  comparison : Comparison := {}

def isBlank (b : UInt8) : Bool := b == 32 || b == 9 || b == 10

/-- What follows so many fields. -/
def dropFields (mark : Option UInt8) : Nat → List UInt8 → List UInt8
  | 0, line => line
  | count + 1, line =>
      match mark with
      | some mark => dropFields (some mark) count ((line.dropWhile (· != mark)).drop 1)
      | none => dropFields none count ((line.dropWhile isBlank).dropWhile (!isBlank ·))

/-- How many bytes lie before the end of a position. -/
def lengthTo (mark : Option UInt8) (skips : Bool) (position : Position) (line : List UInt8) : Nat :=
  if position.offset == 0 then
    let before := dropFields mark position.field line
    let field := match mark with
      | some mark => before.takeWhile (· != mark)
      | none =>
          let blanks := before.takeWhile isBlank
          blanks ++ (before.drop blanks.length).takeWhile (!isBlank ·)
    line.length - before.length + field.length
  else
    let before := dropFields mark position.field line
    let after := if skips then before.dropWhile isBlank else before
    min line.length (line.length - after.length + position.offset)

/-- The part of a line that a key means. -/
def Key.part (key : Key) (mark : Option UInt8) (line : List UInt8) : List UInt8 :=
  let start := dropFields mark key.first.field line
  let start := if key.comparison.skipStart then start.dropWhile isBlank else start
  let start := start.drop key.first.offset
  match key.last with
  | none => start
  | some last =>
      start.take (lengthTo mark key.comparison.skipEnd last line - (line.length - start.length))

/-! ## Comparison -/

/-- Compares bytes from the start on. -/
def compareBytes : List UInt8 → List UInt8 → Ordering
  | [], [] => .eq
  | [], _ :: _ => .lt
  | _ :: _, [] => .gt
  | a :: x, b :: y => (compare a.toNat b.toNat).then (compareBytes x y)

def isDigit (b : UInt8) : Bool := 48 ≤ b && b ≤ 57

/-- The number that digits spell. -/
def numberOf (digits : List UInt8) : Int :=
  ((digits.foldl (fun n b => 10 * n + (b.toNat - 48)) 0 : Nat) : Int)

/-- A number with so many of its digits after the point. -/
structure Decimal where
  digits : Int
  places : Nat

/-- The number at the start of a text, and what follows it. -/
def readDecimal (text : List UInt8) : Decimal × List UInt8 :=
  let text := text.dropWhile isBlank
  let (negative, text) : Bool × List UInt8 := match text with
    | 45 :: rest => (true, rest)
    | rest => (false, rest)
  let whole := text.takeWhile isDigit
  let after := text.drop whole.length
  let (places, after) : List UInt8 × List UInt8 := match after with
    | 46 :: rest => (rest.takeWhile isDigit, rest.dropWhile isDigit)
    | rest => ([], rest)
  let value := numberOf (whole ++ places)
  (⟨if negative then -value else value, places.length⟩, after)

/-- Compares numbers. -/
def Decimal.compareTo (a b : Decimal) : Ordering :=
  compare (a.digits * (Nat.pow 10 b.places : Nat)) (b.digits * (Nat.pow 10 a.places : Nat))

/-- The rank of the unit after an amount. -/
def unitRank (text : List UInt8) : Nat :=
  match text with
  | b :: _ => match Char.ofNat b.toNat with
    | 'K' | 'k' => 1
    | 'M' => 2
    | 'G' => 3
    | 'T' => 4
    | 'P' => 5
    | 'E' => 6
    | 'Z' => 7
    | 'Y' => 8
    | _ => 0
  | [] => 0

/-- The rank of an amount: its sign with that of its unit. -/
def amountRank (number : Decimal × List UInt8) : Int :=
  let rank : Int := unitRank number.2 + 1
  if number.1.digits < 0 then -rank else if number.1.digits == 0 then 0 else rank

/-- A number in any notation: its digits with a power of ten, if there is one. -/
def readAnyNumber (text : List UInt8) : Option (Int × Int) :=
  let text := text.dropWhile isBlank
  let unsigned : List UInt8 := match text with
    | 43 :: rest => rest
    | text => text
  let start : List UInt8 := match unsigned with
    | 45 :: rest => rest
    | rest => rest
  let hasDigits := start.head?.any isDigit ||
    (start.head? == some 46 && start.tail.head?.any isDigit)
  if !hasDigits then none
  else
    let (number, after) := readDecimal unsigned
    let exponent : Int := match after with
      | 101 :: rest | 69 :: rest =>
          let (negative, rest) : Bool × List UInt8 := match rest with
            | 45 :: rest => (true, rest)
            | 43 :: rest => (false, rest)
            | rest => (false, rest)
          let value := numberOf ((rest.takeWhile isDigit).take 5)
          if negative then -value else value
      | _ => 0
    some (number.digits, exponent - number.places)

/-- Compares numbers in any notation; what is none comes first. -/
def compareAny (a b : List UInt8) : Ordering :=
  match readAnyNumber a, readAnyNumber b with
  | none, none => .eq
  | none, some _ => .lt
  | some _, none => .gt
  | some (m, p), some (n, q) =>
      let least := min p q
      compare (m * (Nat.pow 10 (p - least).toNat : Nat)) (n * (Nat.pow 10 (q - least).toNat : Nat))

/-- The number of the month that a text begins with. -/
def monthOf (text : List UInt8) : Nat :=
  let name := ((text.dropWhile isBlank).take 3).map fun b =>
    if 97 ≤ b && b ≤ 122 then b - 32 else b
  let names := ["JAN", "FEB", "MAR", "APR", "MAY", "JUN", "JUL", "AUG", "SEP", "OCT", "NOV", "DEC"]
  let place := names.findIdx fun month => month.toUTF8.data.toList == name
  if place < names.length then place + 1 else 0

/-- The bytes that count. -/
def Comparison.kept (comparison : Comparison) (text : List UInt8) : List UInt8 :=
  let text := if comparison.dictionary then
      text.filter fun b => isBlank b || NaturalOrder.isDigit b || NaturalOrder.isLetter b
    else if comparison.visible then text.filter fun b => 32 ≤ b && b ≤ 126
    else text
  if comparison.folded then text.map fun b => if 97 ≤ b && b ≤ 122 then b - 32 else b else text

/-- Compares the parts of two lines. -/
def Comparison.compareParts (comparison : Comparison) (a b : List UInt8) : Ordering :=
  let a := comparison.kept a
  let b := comparison.kept b
  let order := match comparison.kind with
    | .bytes => compareBytes a b
    | .number => (readDecimal a).1.compareTo (readDecimal b).1
    | .anyNumber => compareAny a b
    | .amount =>
        let x := readDecimal a
        let y := readDecimal b
        (compare (amountRank x) (amountRank y)).then (x.1.compareTo y.1)
    | .month => compare (monthOf a) (monthOf b)
    | .version => NaturalOrder.compareNames a b
  if comparison.reversed then order.swap else order

/-- How lines are put in order. -/
structure Plan where
  keys : List Key
  mark : Option UInt8
  /-- Lines that are the same to the keys stay as they are; of those only the first is kept if
  `unique`. -/
  stable : Bool
  unique : Bool
  reversed : Bool

/-- Compares lines by keys. -/
def compareKeys (mark : Option UInt8) (a b : List UInt8) : List Key → Ordering
  | [] => .eq
  | key :: rest =>
      (key.comparison.compareParts (key.part mark a) (key.part mark b)).then
        (compareKeys mark a b rest)

/-- Compares lines. -/
def Plan.compareLines (plan : Plan) (a b : List UInt8) : Ordering :=
  let whole := if plan.reversed then compareBytes b a else compareBytes a b
  if plan.keys.isEmpty then whole
  else
    match compareKeys plan.mark a b plan.keys with
    | .eq => if plan.stable || plan.unique then .eq else whole
    | order => order

/-- Lines of which those that are the same as the one before are left out. -/
def Plan.dropSame (plan : Plan) : List (List UInt8) → List (List UInt8)
  | a :: b :: rest =>
      if plan.compareLines a b == .eq then plan.dropSame (a :: rest)
      else a :: plan.dropSame (b :: rest)
  | lines => lines
termination_by lines => lines.length

/-- Lines of two streams, the lower one of their next lines first. -/
def Plan.mergeLines (plan : Plan) (xs ys : List (List UInt8)) : List (List UInt8) :=
  List.merge xs ys fun a b => plan.compareLines a b != .gt

/-- The number of the first line that comes before the one above it, with the line. -/
def Plan.disorder? (plan : Plan) (number : Nat) : List (List UInt8) → Option (Nat × List UInt8)
  | a :: b :: rest =>
      let order := plan.compareLines a b
      if order == .gt || (plan.unique && order == .eq) then some (number + 1, b)
      else plan.disorder? (number + 1) (b :: rest)
  | _ => none

/-! ## Options -/

/-- A comparison with what a letter adds to it, at the start or at the end of a key. -/
def Comparison.add? (comparison : Comparison) (atEnd : Bool) (letter : Char) : Option Comparison :=
  match letter with
  | 'b' => some (if atEnd then { comparison with skipEnd := true }
      else { comparison with skipStart := true })
  | 'd' => some { comparison with dictionary := true }
  | 'f' => some { comparison with folded := true }
  | 'g' => some { comparison with kind := .anyNumber }
  | 'h' => some { comparison with kind := .amount }
  | 'i' => some { comparison with visible := true }
  | 'M' => some { comparison with kind := .month }
  | 'n' => some { comparison with kind := .number }
  | 'R' => some comparison
  | 'r' => some { comparison with reversed := true }
  | 'V' => some { comparison with kind := .version }
  | _ => none

/-- The letters of a comparison at the start of a text, and the text after them. -/
def readLetters (atEnd : Bool) (comparison : Comparison) : List Char → Comparison × List Char
  | [] => (comparison, [])
  | c :: rest =>
      match comparison.add? atEnd c with
      | some comparison => readLetters atEnd comparison rest
      | none => (comparison, c :: rest)

/-- A number at the start of a text. -/
def readCount (complaint : String) (text : List Char) : Except String (Nat × List Char) :=
  let digits := text.takeWhile Char.isDigit
  if digits.isEmpty then .error complaint
  else .ok ((String.ofList digits).toNat?.getD 0, text.drop digits.length)

/-- Reads a key. -/
def readKey (text : String) : Except String Key := do
  let start := text.toList
  let (field, rest) ← readCount "invalid number at field start" start
  if field == 0 then throw "field number is zero"
  let (offset, rest) ← match rest with
    | '.' :: rest => do
        let (offset, rest) ← readCount "invalid number after '.'" rest
        if offset == 0 then throw "character offset is zero"
        pure (offset - 1, rest)
    | rest => pure (0, rest)
  let (comparison, rest) := readLetters false {} rest
  let first : Position := ⟨field - 1, offset⟩
  match rest with
  | [] => return { first, comparison }
  | ',' :: rest => do
      let (field, rest) ← readCount "invalid number after ','" rest
      if field == 0 then throw "field number is zero"
      let (offset, rest) ← match rest with
        | '.' :: rest => readCount "invalid number after '.'" rest
        | rest => pure (0, rest)
      let (comparison, rest) := readLetters true comparison rest
      if rest.isEmpty then return { first, last := some ⟨field - 1, offset⟩, comparison }
      else throw "stray character in field spec"
  | _ => throw "stray character in field spec"

/-- The letters of a comparison by the names of options. -/
def letterOf (name value : String) : Option Char :=
  match name with
  | "ignore-leading-blanks" => some 'b'
  | "dictionary-order" => some 'd'
  | "ignore-case" => some 'f'
  | "general-numeric-sort" => some 'g'
  | "human-numeric-sort" => some 'h'
  | "ignore-nonprinting" => some 'i'
  | "month-sort" => some 'M'
  | "numeric-sort" => some 'n'
  | "random-sort" => some 'R'
  | "reverse" => some 'r'
  | "version-sort" => some 'V'
  | "sort" =>
      match value with
      | "general-numeric" => some 'g'
      | "human-numeric" => some 'h'
      | "month" => some 'M'
      | "numeric" => some 'n'
      | "random" => some 'R'
      | "version" => some 'V'
      | _ => none
  | name => match name.toList with
    | [c] => if "bdfghiMnRrV".toList.contains c then some c else none
    | _ => none

/-- The letters that exclude one another, if several of them were given. -/
def clash? (letters : List Char) : Option String :=
  let given := "ghMn".toList.filter letters.contains
  let others := (if letters.contains 'R' || letters.contains 'V' then 1 else 0) +
    (if letters.contains 'd' || letters.contains 'i' then 1 else 0)
  if 1 < given.length + others && !given.isEmpty || 1 < given.length then
    some (String.ofList ("dfghiMnRV".toList.filter letters.contains))
  else none

/-- The letters of a key. -/
def lettersOfKey (text : String) : List Char := text.toList.filter "bdfghiMnRrV".toList.contains

/-- How lines are put in order, as options say. -/
def planOf (options : GivenOptions) : Except String Plan := do
  let letters := options.filterMap fun option => letterOf option.1 option.2
  let base := (letters.foldl (fun (comparison : Comparison) c =>
    let comparison := (comparison.add? false c).getD comparison
    if c == 'b' then { comparison with skipEnd := true } else comparison) {})
  let spelled := (options.filter fun option => option.1 == "k" || option.1 == "key").map (·.2)
  let keys ← spelled.mapM fun text =>
    match readKey text with
    | .ok key => .ok key
    | .error message =>
        Except.error s!"{message}: invalid field specification {quote text}"
  if let some clashing := clash? letters then
    throw s!"options '-{clashing}' are incompatible"
  for text in spelled do
    if let some clashing := clash? (lettersOfKey text) then
      throw s!"options '-{clashing}' are incompatible"
  let keys := keys.map fun key =>
    if key.comparison == {} then { key with comparison := base } else key
  let plain := { base with reversed := false } == ({} : Comparison)
  let keys := if keys.isEmpty && !plain then [{ comparison := base }] else keys
  let mark ← match options.last? ["t", "field-separator"] with
    | none => pure none
    | some text =>
        match text.toUTF8.data.toList with
        | [] => throw "empty tab"
        | [b] => pure (some b)
        | [92, 48] => pure (some 0)
        | _ => throw s!"multi-character tab {quote text}"
  return {
    keys, mark
    stable := options.has ["s", "stable"]
    unique := options.has ["u", "unique"]
    reversed := base.reversed }

/-- The options of the program. -/
def options : OptionSet :=
  { letters := "bdfghiMnRrVcCmsuz", marked := "kotST"
    long := ["ignore-leading-blanks", "dictionary-order", "ignore-case", "general-numeric-sort",
      "human-numeric-sort", "ignore-nonprinting", "month-sort", "numeric-sort", "random-sort",
      "reverse", "version-sort", "sort=", "check?", "merge", "stable", "unique", "key=",
      "output=", "field-separator=", "zero-terminated", "buffer-size=", "parallel=",
      "temporary-directory=", "batch-size=", "compress-program=", "random-source=", "debug"] }

/-- The lines of files, or the message about one of them that cannot be read. -/
def readFiles (mark : UInt8) (files : List String)
    : Action (Except String (List (List (List UInt8)))) := do
  let machine ← getThe Machine
  let absent := files.filterMap fun file =>
    if file == "-" || (device? file).isSome || (channelOf? file).isSome then none
    else
      match machine.entry file true with
      | .ok _ => none
      | .error fault => some s!"cannot read: {file}: {reason fault}"
  if let some message := absent.head? then return .error message
  let mut contents := []
  for file in files do
    match ← operandContent file with
    | .ok content => contents := (splitLines mark content).1 :: contents
    | .error fault => return .error s!"read failed: {file}: {reason fault}"
  return .ok contents.reverse

end Sorting

open Sorting in
/-- Puts lines in order. -/
def sort : Program := fun _ arguments =>
  withOptions 2 Sorting.options arguments fun options operands => do
    match planOf options with
    | .error message =>
        report message
        return 2
    | .ok plan =>
        let files := if operands.isEmpty then ["-"] else operands
        let mark : UInt8 := if options.has ["z", "zero-terminated"] then 0 else 10
        let checks := options.has ["c", "C", "check"]
        if checks && 1 < files.length then
          let letter := if options.has ["C"] then "C" else "c"
          report ("extra operand " ++ quote (files.getD 1 "") ++ s!" not allowed with -{letter}")
          return 2
        else
          match ← readFiles mark files with
          | .error message =>
              report message
              return 2
          | .ok contents =>
              if checks then check options plan (files.headD "-") (contents.headD [])
              else
                let lines := if options.has ["m", "merge"] then
                    contents.foldl plan.mergeLines []
                  else contents.flatten.mergeSort fun a b => plan.compareLines a b != .gt
                let lines := if plan.unique then plan.dropSame lines else lines
                let bytes := ofBytes (lines.flatMap (· ++ [mark]))
                match options.last? ["o", "output"] with
                | none =>
                    emit bytes
                    return 0
                | some file =>
                    match ← writeFile file false bytes with
                    | none => return 0
                    | some fault =>
                        report s!"open failed: {file}: {reason fault}"
                        return 2
where
  check (options : GivenOptions) (plan : Plan) (file : String) (lines : List (List UInt8))
      : Action Nat := do
    match plan.disorder? 1 lines with
    | none => return 0
    | some (number, line) =>
        let silent := options.has ["C"] || ["quiet", "silent"].contains
          ((options.last? ["check"]).getD "")
        if !silent then report s!"{file}:{number}: disorder: {bytesText line}"
        return 1

end Groundwork.Shell.Program
