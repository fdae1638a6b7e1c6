import Groundwork.Shell.Program.Lines

/-!
The program `split`, which cuts its input into files of their own.
-/

namespace Groundwork.Shell.Program.Splitting

/-- How an input is cut. -/
inductive Cut where
  | lines (count : Nat)
  | bytes (count : Nat)
  /-- Whole lines of at most so many bytes together. -/
  | full (count : Nat)
  /-- So many pieces of bytes, of lines, or of lines by turns; one of them alone is shown. -/
  | pieces (kind : Char) (alone : Option Nat) (count : Nat)

/-! ## Pieces -/

/-- Pieces of so many elements; `fuel` bounds their number. -/
def inGroups {α : Type} (size fuel : Nat) (elements : List α) : List (List α) :=
  match fuel with
  | 0 => []
  | fuel + 1 =>
      if elements.isEmpty then []
      else elements.take size :: inGroups size fuel (elements.drop size)

/-- Whole lines together as long as they fit; `held` is what fitted so far. -/
def fill (size : Nat) (held : List UInt8) : List (List UInt8) → List (List UInt8)
  | [] => if held.isEmpty then [] else [held]
  | line :: rest =>
      if held.length + line.length ≤ size then fill size (held ++ line) rest
      else
        let before := if held.isEmpty then [] else [held]
        let whole := inGroups size (line.length + 1) line
        if line.length ≤ size then before ++ fill size line rest
        else before ++ whole.dropLast ++ fill size (whole.getLast?.getD []) rest

/-- Lines by the piece in which each one begins, if each piece but the last has so many bytes. -/
def linesByPlace (size count place : Nat) : List (List UInt8) → List (Nat × List UInt8)
  | [] => []
  | line :: rest =>
      let piece := if size == 0 then count - 1 else min (place / size) (count - 1)
      (piece, line) :: linesByPlace size count (place + line.length) rest

/-- The pieces of an input. -/
def Cut.apply (cut : Cut) (mark : UInt8) (content : ByteArray) : List (List UInt8) :=
  let bytes := content.data.toList
  let lines := piecesOf mark content
  match cut with
  | .lines count => (inGroups count (lines.length + 1) lines).map List.flatten
  | .bytes count => inGroups count (bytes.length + 1) bytes
  | .full count => fill count [] lines
  | .pieces kind _ count =>
      let size := bytes.length / count
      let numbers := List.range count
      if kind == 'b' then
        numbers.map fun i =>
          if i + 1 == count then bytes.drop (i * size) else (bytes.drop (i * size)).take size
      else
        let placed := if kind == 'r' then
            lines.zipIdx.map fun (line, i) => (i % count, line)
          else linesByPlace size count 0 lines
        numbers.map fun i =>
          ((placed.filter fun entry => entry.1 == i).map (·.2)).flatten

/-! ## Names -/

/-- What the names of files end in. -/
structure Naming where
  lead : String
  digits : List Char
  /-- How long the part that counts is, and whether it becomes longer when it has to. -/
  length : Nat
  grows : Bool
  first : Nat
  ending : String

/-- The digits of a number, as many as asked for. -/
def digitsOf (digits : List Char) (length number : Nat) : List Char :=
  ((List.range length).map fun i =>
    digits.getD (number / Nat.pow digits.length i % digits.length) 'a').reverse

/-- The part of a name that counts, when it becomes longer each time only the last digit is left for
its first place; `fuel` bounds how often. -/
def Naming.growing (naming : Naming) (fuel : Nat) (lead : List Char) (length number : Nat)
    : List Char :=
  let base := naming.digits.length
  let most := (base - 1) * Nat.pow base (length - 1)
  match fuel with
  | 0 => lead
  | fuel + 1 =>
      if number < most then lead ++ digitsOf naming.digits length number
      else
        naming.growing fuel (lead ++ [naming.digits.getLast?.getD 'z']) (length + 1)
          (number - most)

/-- The name of a file, if there is one left. -/
def Naming.name? (naming : Naming) (number : Nat) : Option String :=
  let number := naming.first + number
  let counted := if naming.grows then some (naming.growing 8 [] naming.length number)
    else if Nat.pow naming.digits.length naming.length ≤ number then none
    else some (digitsOf naming.digits naming.length number)
  counted.map fun counted => naming.lead ++ String.ofList counted ++ naming.ending

/-- How many digits it takes to count so many files. -/
def widthFor (base count : Nat) : Nat :=
  (Nat.toDigits base (count - 1)).length

/-! ## Options -/

/-- A count of something, which is not zero. -/
def countOf (what text : String) : Except String Nat :=
  match sizeOf? text.toList with
  | some 0 | none => .error s!"invalid number of {what}: {quote text}"
  | some count => .ok count

/-- A number of pieces, with what they are made of and which one is shown. -/
def readPieces (text : String) : Except String Cut := do
  let parts := (Text.splitOn '/' text.toList).map String.ofList
  let (kind, parts) : Char × List String := match parts with
    | "l" :: rest => ('l', rest)
    | "r" :: rest => ('r', rest)
    | parts => ('b', parts)
  match parts with
  | [count] => return .pieces kind none (← countOf "chunks" count)
  | [alone, count] => do
      let count ← countOf "chunks" count
      match alone.toNat? with
      | some number =>
          if number == 0 || count < number then throw s!"invalid chunk number: {quote alone}"
          else return .pieces kind (some number) count
      | none => throw s!"invalid chunk number: {quote alone}"
  | _ => throw s!"invalid number of chunks: {quote text}"

/-- How options say that an input is cut, each time they do. -/
def cutsOf (options : GivenOptions) : Except String (List Cut) :=
  options.foldlM (fun cuts (name, value) => do
    match name with
    | "l" | "lines" => return cuts ++ [.lines (← countOf "lines" value)]
    | "b" | "bytes" => return cuts ++ [.bytes (← countOf "bytes" value)]
    | "C" | "line-bytes" => return cuts ++ [.full (← countOf "lines" value)]
    | "n" | "number" => return cuts ++ [← readPieces value]
    | _ => return cuts) []

/-- How options say that files are named. -/
def namingOf (options : GivenOptions) (lead : String) (cut : Cut) : Except String Naming := do
  let numeric? := (options.filter fun option =>
    ["d", "numeric-suffixes", "x", "hex-suffixes"].contains option.1).getLast?
  let (digits, first) : List Char × String := match numeric? with
    | none => ((List.range 26).map fun i => Char.ofNat (97 + i), "")
    | some (name, value) =>
        if ["d", "numeric-suffixes"].contains name then ("0123456789".toList, value)
        else ("0123456789abcdef".toList, value)
  let first ← if first.isEmpty then pure 0
    else match first.toNat? with
      | some number => pure number
      | none => throw s!"{quote first}: invalid start value for numerical suffix"
  let length? := options.last? ["a", "suffix-length"]
  let count := match cut with
    | .pieces _ none count => some count
    | _ => none
  let least := match count with
    | some count => max 2 (widthFor digits.length count)
    | none => 2
  let (length, grows) ← match length? with
    | none => pure (least, count.isNone && numeric?.all (·.2.isEmpty))
    | some text => match text.toNat? with
      | some 0 => pure (least, count.isNone)
      | some length => pure (length, false)
      | none => throw s!"invalid suffix length: {quote text}"
  let ending := (options.last? ["additional-suffix"]).getD ""
  if ending.toList.contains '/' then
    throw s!"invalid suffix {quote ending}, contains directory separator"
  return { lead, digits, length, grows, first, ending }

/-- The byte that ends a line. -/
def markOf (options : GivenOptions) : Except String UInt8 :=
  match options.last? ["t", "separator"] with
  | none => .ok 10
  | some "" => .error "empty record separator"
  | some "\\0" => .ok 0
  | some text =>
      if text.utf8ByteSize == 1 then .ok (text.toUTF8.data.getD 0 10)
      else .error s!"multi-character separator {quote text}"

/-- An option of digits alone stands for a number of lines. -/
def expandNumber (argument : String) : String :=
  match argument.toList with
  | '-' :: rest =>
      if !rest.isEmpty && rest.all Char.isDigit then "-l" ++ String.ofList rest else argument
  | _ => argument

/-- Writes the pieces into files. -/
def writePieces (naming : Naming) (tells : Bool) (number : Nat) : List (List UInt8) → Action Nat
  | [] => return 0
  | piece :: rest => do
      match naming.name? number with
      | none =>
          report "output file suffixes exhausted"
          return 1
      | some name =>
          if tells then say 1 s!"creating file {quote name}\n"
          match ← writeFile name false (ofBytes piece) with
          | some fault =>
              report s!"{name}: {reason fault}"
              return 1
          | none => writePieces naming tells (number + 1) rest

end Splitting

open Splitting in
/-- Cuts the input into files of their own. -/
def split : Program := fun _ arguments =>
  withOptions 1
    { letters := "dexu", marked := "abClnt"
      long := ["suffix-length=", "additional-suffix=", "bytes=", "line-bytes=", "lines=",
        "number=", "numeric-suffixes?", "hex-suffixes?", "elide-empty-files", "separator=",
        "unbuffered", "verbose", "filter="] } (arguments.map expandNumber)
    fun options operands => do
      match cutsOf options, markOf options, operands with
      | .error message, _, _ | _, .error message, _ =>
          report message
          return 1
      | .ok (_ :: _ :: _), _, _ => misuse 1 "cannot split in more than one way"
      | _, _, _ :: _ :: third :: _ => misuse 1 s!"extra operand {quote third}"
      | .ok cuts, .ok mark, operands =>
          let cut := cuts.headD (.lines 1000)
          let operand := operands.headD "-"
          match namingOf options ((operands.drop 1).headD "x") cut with
          | .error message =>
              report message
              return 1
          | .ok naming =>
              match ← operandContent operand with
              | .error .isDirectory =>
                  report s!"{operand}: {reason .isDirectory}"
                  return 1
              | .error fault =>
                  report s!"cannot open {quote operand} for reading: {reason fault}"
                  return 1
              | .ok content =>
                  let pieces := cut.apply mark content
                  match cut with
                  | .pieces _ (some alone) _ =>
                      emit (ofBytes (pieces.getD (alone - 1) []))
                      return 0
                  | _ =>
                      let kept := if options.has ["e", "elide-empty-files"] then
                          pieces.filter (!·.isEmpty) else pieces
                      writePieces naming (options.has ["verbose"]) 0 kept

end Groundwork.Shell.Program
