import Groundwork.Shell.Program.Find
import Groundwork.Text.Digest

/-!
Programs that show bytes in other ways: `od`, `base64` and `base32`, and those that sum them up.
-/

namespace Groundwork.Shell.Program

/-! ## Numbers of bytes -/

namespace Od

/-- What groups of bytes are shown as. -/
inductive Kind where
  | character
  | named
  | octal
  | hexadecimal
  | signed
  | unsigned
deriving DecidableEq

/-- A way of showing bytes, in groups of a size, with the text beside them if asked for. -/
structure View where
  kind : Kind
  size : Nat
  beside : Bool := false

/-- How wide a group is shown. -/
def View.width (view : View) : Nat :=
  match view.kind with
  | .character | .named => 3
  | .octal => (8 * view.size + 2) / 3
  | .hexadecimal => 2 * view.size
  | .signed => match view.size with
    | 1 => 4
    | 2 => 6
    | 4 => 11
    | _ => 20
  | .unsigned => match view.size with
    | 1 => 3
    | 2 => 5
    | 4 => 10
    | _ => 20

/-- The names of bytes that cannot be seen. -/
def names : List String :=
  ["nul", "soh", "stx", "etx", "eot", "enq", "ack", "bel", "bs", "ht", "nl", "vt", "ff", "cr", "so",
    "si", "dle", "dc1", "dc2", "dc3", "dc4", "nak", "syn", "etb", "can", "em", "sub", "esc", "fs",
    "gs", "rs", "us", "sp"]

/-- A byte as a character. -/
def characterText (b : UInt8) : String :=
  match b.toNat with
  | 0 => "\\0"
  | 7 => "\\a"
  | 8 => "\\b"
  | 9 => "\\t"
  | 10 => "\\n"
  | 11 => "\\v"
  | 12 => "\\f"
  | 13 => "\\r"
  | n => if 32 ≤ n && n ≤ 126 then String.singleton (Char.ofNat n) else octalText 3 n

/-- A group of bytes. -/
def View.text (view : View) (bytes : List UInt8) : String :=
  let number := bytes.foldr (fun b n => b.toNat + 256 * n) 0
  let filled (digits : List Char) : String :=
    String.ofList (List.replicate (view.width - digits.length) '0' ++ digits)
  match view.kind with
  | .character => characterText (bytes.headD 0)
  | .named =>
      let n := (bytes.headD 0).toNat % 128
      if n == 127 then "del" else names.getD n (String.singleton (Char.ofNat n))
  | .octal => filled (Nat.toDigits 8 number)
  | .hexadecimal => filled (Nat.toDigits 16 number)
  | .unsigned => toString number
  | .signed =>
      let bound := Nat.pow 256 view.size
      if number < bound / 2 then toString number else toString ((number : Int) - bound)

/-- Bytes in groups of a size, the last one filled up. -/
def groups (size : Nat) (fuel : Nat) (bytes : List UInt8) : List (List UInt8) :=
  match fuel with
  | 0 => []
  | fuel + 1 =>
      if bytes.isEmpty then []
      else
        let group := bytes.take size
        (group ++ List.replicate (size - group.length) 0) :: groups size fuel (bytes.drop size)

/-- A block of bytes in one view; `most` is how wide the widest view of a whole block is. -/
def View.line (view : View) (width most : Nat) (bytes : List UInt8) : String :=
  let count := width / view.size
  let padding := most - (view.width + 1) * count
  let shown := groups view.size (bytes.length + 1) bytes
  let fields := shown.zipIdx.map fun (group, i) =>
    let used := padding * (count - i) / count - padding * (count - i - 1) / count
    alignRight (view.width + 1 + used) (view.text group)
  let body := String.join fields
  if view.beside then
    let seen := bytes.map fun b =>
      if 32 ≤ b && b ≤ 126 then Char.ofNat b.toNat else '.'
    alignLeft most body ++ "  >" ++ String.ofList seen ++ "<"
  else body

/-- The size that a letter or a number after the letter of a view stands for. -/
def readSize (kind : Kind) (text : List Char) : Except String (Nat × List Char) :=
  match kind, text with
  | .character, text | .named, text => .ok (1, text)
  | _, 'C' :: rest => .ok (1, rest)
  | _, 'S' :: rest => .ok (2, rest)
  | _, 'I' :: rest => .ok (4, rest)
  | _, 'L' :: rest => .ok (8, rest)
  | _, text =>
      let digits := text.takeWhile Char.isDigit
      if digits.isEmpty then .ok (4, text)
      else
        match (String.ofList digits).toNat? with
        | some 1 => .ok (1, text.drop digits.length)
        | some 2 => .ok (2, text.drop digits.length)
        | some 4 => .ok (4, text.drop digits.length)
        | some 8 => .ok (8, text.drop digits.length)
        | _ => .error (String.ofList digits)

/-- Reads views; `fuel` bounds their number. -/
def readViews (fuel : Nat) (whole : String) (text : List Char) : Except String (List View) :=
  match fuel with
  | 0 => .ok []
  | fuel + 1 =>
      match text with
      | [] => .ok []
      | c :: rest => do
          let kind ← match c with
            | 'a' => pure Kind.named
            | 'c' => pure .character
            | 'd' => pure .signed
            | 'o' => pure .octal
            | 'u' => pure .unsigned
            | 'x' => pure .hexadecimal
            | c =>
                let shown := quote (String.singleton c)
                throw s!"invalid character {shown} in type string {quote whole}"
          let (size, rest) ← match readSize kind rest with
            | .ok found => pure found
            | .error digits =>
                throw (s!"invalid type string {quote whole};\nthis system doesn't provide a " ++
                  s!"{digits}-byte integral type")
          let (beside, rest) : Bool × List Char := match rest with
            | 'z' :: rest => (true, rest)
            | rest => (false, rest)
          let views ← readViews fuel whole rest
          return { kind, size, beside } :: views

/-- The views that options ask for. -/
def viewsOf : GivenOptions → Except String (List View)
  | [] => .ok []
  | (name, value) :: rest => do
      let found ← match name with
        | "a" => pure [{ kind := Kind.named, size := 1 : View }]
        | "b" => pure [{ kind := .octal, size := 1 }]
        | "c" => pure [{ kind := .character, size := 1 }]
        | "d" => pure [{ kind := .unsigned, size := 2 }]
        | "i" => pure [{ kind := .signed, size := 4 }]
        | "l" => pure [{ kind := .signed, size := 8 }]
        | "o" => pure [{ kind := .octal, size := 2 }]
        | "s" => pure [{ kind := .signed, size := 2 }]
        | "x" => pure [{ kind := .hexadecimal, size := 2 }]
        | "t" | "format" => readViews (value.length + 1) value value.toList
        | _ => pure []
      return found ++ (← viewsOf rest)

/-- A number of bytes, to the base that its start tells, with a unit. -/
def sizeOf? (text : String) : Option Nat :=
  let (base, digits) : Nat × List Char := match text.toList with
    | '0' :: 'x' :: rest | '0' :: 'X' :: rest => (16, rest)
    | '0' :: c :: rest => (8, c :: rest)
    | digits => (10, digits)
  let value (c : Char) : Nat :=
    if c.isDigit then c.toNat - 48
    else if 'a' ≤ c && c ≤ 'f' then c.toNat - 87
    else if 'A' ≤ c && c ≤ 'F' then c.toNat - 55
    else 99
  let number := digits.takeWhile fun c => value c < base
  let unit? := match digits.drop number.length with
    | [] => some 1
    | ['b'] => some 512
    | ['k'] | ['K'] => some 1024
    | ['m'] | ['M'] => some 1048576
    | _ => none
  if number.isEmpty then none
  else unit?.map fun unit => number.foldl (fun n c => base * n + value c) 0 * unit

/-- A place in the bytes. -/
def placeText (base : Nat) (place : Nat) : String :=
  if base == 0 then ""
  else
    let digits := Nat.toDigits base place
    String.ofList (List.replicate ((if base == 16 then 6 else 7) - digits.length) '0' ++ digits)

/-- The lines for bytes from a place on, with a star for those that are like the one above. -/
def dump (views : List View) (base width : Nat) (all : Bool) (fuel place : Nat)
    (before : Option (List UInt8)) (starred : Bool) (bytes : List UInt8) : String :=
  match fuel with
  | 0 => ""
  | fuel + 1 =>
      if bytes.isEmpty then if base == 0 then "" else placeText base place ++ "\n"
      else
        let block := bytes.take width
        let rest := bytes.drop width
        if !all && before == some block && block.length == width && !rest.isEmpty then
          (if starred then "" else "*\n") ++
            dump views base width all fuel (place + width) before true rest
        else
          let most := (views.map fun view => (view.width + 1) * (width / view.size)).foldl max 0
          let lead := placeText base place
          let blank := String.ofList (lead.toList.map fun _ => ' ')
          let lines := views.zipIdx.map fun (view, i) =>
            (if i == 0 then lead else blank) ++ view.line width most block ++ "\n"
          String.join lines ++
            dump views base width all fuel (place + block.length) (some block) false rest

end Od

/-- Shows bytes as numbers. -/
def od : Program := fun _ arguments =>
  withOptions 1
    { letters := "abcdilosxv", marked := "tAjNw"
      long := ["format=", "address-radix=", "skip-bytes=", "read-bytes=", "width?",
        "output-duplicates", "endian="] } (arguments.map spellWidth)
    fun options operands => do
      match Od.viewsOf options with
      | .error message =>
          report message
          return 1
      | .ok views =>
          let views := if views.isEmpty then [{ kind := .octal, size := 2 }] else views
          let radix := (options.last? ["A", "address-radix"]).getD "o"
          match ["d", "o", "x", "n"].findIdx? (· == radix), numbers options with
          | none, _ =>
              report (s!"invalid output address radix '{radix}'; " ++
                "it must be one character from [doxn]")
              return 1
          | _, .error message =>
              report message
              return 1
          | some index, .ok (skip, most, asked) =>
              let base := [10, 8, 16, 0].getD index 8
              let unit := (views.map (·.size)).foldl max 1
              let width := match asked with
                | none => 16
                | some width => if width == 0 || width % unit != 0 then unit else width
              if asked.any (· != width) then
                report s!"warning: invalid width {asked.getD 0}; using {unit} instead"
              let mut bytes : List UInt8 := []
              let mut status := 0
              for operand in (if operands.isEmpty then ["-"] else operands) do
                match ← operandContent operand with
                | .ok content => bytes := bytes ++ content.data.toList
                | .error fault =>
                    report s!"{operand}: {reason fault}"
                    status := 1
              if bytes.isEmpty && status != 0 then return status
              else if bytes.length < skip then
                report "cannot skip past end of combined input"
                return 1
              else
                let rest := bytes.drop skip
                let shown := (most.map fun most => rest.take most).getD rest
                let all := options.has ["v", "output-duplicates"]
                say 1 (Od.dump views base width all (shown.length + 2) skip none false shown)
                return status
where
  /-- An option for the width in full, which can do without a number. -/
  spellWidth (argument : String) : String :=
    match argument.toList with
    | '-' :: 'w' :: rest => if rest.isEmpty then "-w32" else argument
    | _ => argument
  numbers (options : GivenOptions) : Except String (Nat × Option Nat × Option Nat) := do
    let number (names : List String) (letter : String) : Except String (Option Nat) :=
      match options.last? names with
      | none => .ok none
      | some text =>
          match Od.sizeOf? text with
          | some n => .ok (some n)
          | none => .error s!"invalid -{letter} argument {quote text}"
    let skip ← number ["j", "skip-bytes"] "j"
    let most ← number ["N", "read-bytes"] "N"
    let width ← number ["w", "width"] "w"
    return (skip.getD 0, most, width)

/-! ## Bytes as letters -/

namespace Letters

/-- Digits that stand for some bits each, so many of them for whole bytes. -/
structure Code where
  digits : List Char
  bits : Nat
  group : Nat

/-- Digits for six bits each. -/
def sixBits : Code :=
  { digits := "ABCDEFGHIJKLMNOPQRSTUVWXYZabcdefghijklmnopqrstuvwxyz0123456789+/".toList
    bits := 6
    group := 4 }

/-- Digits for five bits each. -/
def fiveBits : Code :=
  { digits := "ABCDEFGHIJKLMNOPQRSTUVWXYZ234567".toList
    bits := 5
    group := 8 }

/-- How many bytes a group of digits holds. -/
def Code.size (code : Code) : Nat := code.bits * code.group / 8

/-- The digits of at most as many bytes as a group holds. -/
def Code.encodeGroup (code : Code) (bytes : List UInt8) : List Char :=
  let number := (bytes ++ List.replicate (code.size - bytes.length) 0).foldl
    (fun n (b : UInt8) => 256 * n + b.toNat) 0
  let used := (8 * bytes.length + code.bits - 1) / code.bits
  (List.range code.group).map fun i =>
    if i < used then
      let place := code.bits * (code.group - 1 - i)
      code.digits.getD (number / Nat.pow 2 place % Nat.pow 2 code.bits) '='
    else '='

/-- The digits of bytes; `fuel` bounds them. -/
def Code.encode (code : Code) (fuel : Nat) (bytes : List UInt8) : List Char :=
  match fuel with
  | 0 => []
  | fuel + 1 =>
      if bytes.isEmpty then []
      else code.encodeGroup (bytes.take code.size) ++ code.encode fuel (bytes.drop code.size)

/-- The bytes of a group of digits, if it is a group. -/
def Code.decodeGroup? (code : Code) (digits : List Char) : Option (List UInt8) := do
  let used := digits.takeWhile (· != '=')
  if digits.length != code.group || used.isEmpty ||
      !(digits.drop used.length).all (· == '=') then none
  else
    let values ← used.mapM fun c =>
      let place := code.digits.findIdx (· == c)
      if place < code.digits.length then some place else none
    let count := used.length * code.bits / 8
    if (8 * count + code.bits - 1) / code.bits != used.length then none
    else
      let number := (values ++ List.replicate (code.group - used.length) 0).foldl
        (fun n value => Nat.pow 2 code.bits * n + value) 0
      some ((List.range count).map fun i => UInt8.ofNat (number / Nat.pow 256 (code.size - 1 - i)))

/-- The bytes of digits up to the first group that is none, and whether all are groups; `fuel`
bounds them. -/
def Code.decode (code : Code) (fuel : Nat) (digits : List Char) : List UInt8 × Bool :=
  match fuel with
  | 0 => ([], true)
  | fuel + 1 =>
      if digits.isEmpty then ([], true)
      else
        match code.decodeGroup? (digits.take code.group) with
        | some bytes =>
            let (rest, whole) := code.decode fuel (digits.drop code.group)
            (bytes ++ rest, whole)
        | none => (partOf (digits.take code.group), false)
where
  /-- The bytes that the first digits of a group hold. -/
  partOf (digits : List Char) : List UInt8 :=
    let known := digits.takeWhile code.digits.contains
    let count := if known.length == code.group then 0 else known.length * code.bits / 8
    let number := ((known.map fun c => code.digits.findIdx (· == c)) ++
      List.replicate (code.group - known.length) 0).foldl
        (fun n value => Nat.pow 2 code.bits * n + value) 0
    (List.range count).map fun i => UInt8.ofNat (number / Nat.pow 256 (code.size - 1 - i))

/-- Text in lines of a width. -/
def wrap (width fuel : Nat) (text : List Char) : List Char :=
  match fuel with
  | 0 => text
  | fuel + 1 =>
      if text.isEmpty then []
      else text.take width ++ '\n' :: wrap width fuel (text.drop width)

end Letters

open Letters in
/-- Shows bytes as digits, or the other way round. -/
def showDigits (code : Code) : Program := fun _ arguments =>
  withOptions 1
    { letters := "di", marked := "w", long := ["decode", "ignore-garbage", "wrap="] } arguments
    fun options operands => do
      let spelled := (options.last? ["w", "wrap"]).getD "76"
      match spelled.toNat?, operands with
      | none, _ =>
          report s!"invalid wrap size: {quote spelled}"
          return 1
      | some _, _ :: second :: _ => misuse 1 s!"extra operand {quote second}"
      | some width, operands =>
          let operand := operands.headD "-"
          match ← operandContent operand with
          | .error .isDirectory =>
              report "read error: Is a directory"
              return 1
          | .error fault =>
              report s!"{operand}: {reason fault}"
              return 1
          | .ok content =>
              if options.has ["d", "decode"] then
                let letters := content.data.toList.map fun b => Char.ofNat b.toNat
                let letters := letters.filter (· != '\n')
                let letters := if options.has ["i", "ignore-garbage"] then
                    letters.filter fun c => c == '=' || code.digits.contains c
                  else letters
                let (bytes, whole) := code.decode (letters.length + 1) letters
                emit (ofBytes bytes)
                if whole then return 0
                else
                  report "invalid input"
                  return 1
              else
                let text := code.encode (content.size + 1) content.data.toList
                say 1 (String.ofList (if width == 0 then text else wrap width text.length text))
                return 0

/-! ## Sums -/

namespace Sums

/-- A name with its sum. -/
def lineOf (title : String) (options : GivenOptions) (name sum : String) : String :=
  if options.has ["tag"] then s!"{title} ({name}) = {sum}\n"
  else sum ++ (if options.has ["b", "binary"] then " *" else "  ") ++ name ++ "\n"

/-- The sum and the name on a line. -/
def readLine? (line : String) : Option (String × String) :=
  let sum := line.toList.takeWhile (· != ' ')
  match line.toList.drop sum.length with
  | ' ' :: ' ' :: name | ' ' :: '*' :: name =>
      let spelled := sum.all fun c => c.isDigit || ('a' ≤ c && c ≤ 'f')
      if sum.isEmpty || name.isEmpty || !spelled then none
      else some (String.ofList sum, String.ofList name)
  | _ => none

/-- Checks the sums that a file lists. -/
def check (sumOf : ByteArray → String) (options : GivenOptions) (file : String) : Action Nat := do
  match ← operandContent file with
  | .error fault =>
      report s!"{file}: {reason fault}"
      return 1
  | .ok content =>
      let lines := (splitLines 10 content).1.map bytesText
      let quiet := options.has ["status"]
      let mut wrong := 0
      let mut absent := 0
      let mut found := 0
      for line in lines do
        match readLine? line with
        | none => pure ()
        | some (sum, name) =>
            found := found + 1
            match ← operandContent name with
            | .error fault =>
                report s!"{name}: {reason fault}"
                if !quiet then say 1 s!"{name}: FAILED open or read\n"
                absent := absent + 1
            | .ok content =>
                if sumOf content == sum then
                  if !quiet && !options.has ["quiet"] then say 1 s!"{name}: OK\n"
                else
                  if !quiet then say 1 s!"{name}: FAILED\n"
                  wrong := wrong + 1
      if found == 0 then
        report s!"{file}: no properly formatted checksum lines found"
        return 1
      else
        let plural (count : Nat) (one many : String) : String := if count == 1 then one else many
        if found < lines.length && !quiet then
          let count := lines.length - found
          let what := plural count "line is" "lines are"
          report s!"WARNING: {count} {what} improperly formatted"
        if 0 < absent && !quiet then
          let what := plural absent "listed file" "listed files"
          report s!"WARNING: {absent} {what} could not be read"
        if 0 < wrong && !quiet then
          let what := plural wrong "computed checksum" "computed checksums"
          report s!"WARNING: {wrong} {what} did NOT match"
        return if wrong + absent == 0 then 0 else 1

end Sums

/-- Sums files up, or checks sums. -/
def sumUp (title : String) (sumOf : ByteArray → String) : Program := fun _ arguments =>
  withOptions 1
    { letters := "bctwz"
      long := ["binary", "check", "tag", "text", "zero", "quiet", "status", "strict", "warn",
        "ignore-missing"] } arguments fun options operands => do
      let operands := if operands.isEmpty then ["-"] else operands
      if options.has ["c", "check"] then forOperands operands (Sums.check sumOf options)
      else
        forOperands operands fun operand => do
          match ← operandContent operand with
          | .ok content =>
              say 1 (Sums.lineOf title options operand (sumOf content))
              return 0
          | .error fault =>
              report s!"{operand}: {reason fault}"
              return 1

/-- Shows cyclic sums and sizes of files. -/
def cksum : Program := fun _ arguments =>
  withOptions 1 {} arguments fun _ operands =>
    forOperands (if operands.isEmpty then [""] else operands) fun operand => do
      match ← operandContent (if operand.isEmpty then "-" else operand) with
      | .ok content =>
          let name := if operand.isEmpty then "" else " " ++ operand
          say 1 s!"{Digest.cyclicSum content} {content.size}{name}\n"
          return 0
      | .error fault =>
          report s!"{operand}: {reason fault}"
          return 1

end Groundwork.Shell.Program
