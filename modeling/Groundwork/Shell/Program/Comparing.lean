import Groundwork.Shell.Program.Find
import Groundwork.Text.Difference
import Std.Data.HashMap

/-!
Programs that compare files: `cmp` and `diff`.
-/

namespace Groundwork.Shell.Program

/-- What these programs add to messages about their arguments. -/
def misuseAloud (message : String) : Action Nat := do
  report message
  report s!"Try '{(← getThe Machine).program} --help' for more information."
  return 2

/-! ## Bytes -/

namespace Cmp

/-- A byte as it is shown. -/
def shownByte (b : UInt8) : String :=
  let plain (b : UInt8) : String :=
    if b < 32 then "^" ++ String.singleton (Char.ofNat (b.toNat + 64))
    else if b == 127 then "^?"
    else String.singleton (Char.ofNat b.toNat)
  if 128 ≤ b then "M-" ++ plain (b - 128) else plain b

/-- The first place at which bytes differ, or where one of them ends. -/
def firstDifference (a b : ByteArray) (fuel place : Nat) : Nat :=
  match fuel with
  | 0 => place
  | fuel + 1 =>
      if place < a.size && place < b.size && a.get! place == b.get! place then
        firstDifference a b fuel (place + 1)
      else place

/-- How many lines end before a place. -/
def lineEnds (bytes : ByteArray) (place : Nat) : Nat :=
  (bytes.extract 0 place).data.toList.count 10

/-- Reads a number of bytes with a unit. -/
def sizeOf (text : String) : Nat :=
  let digits := text.toList.takeWhile Char.isDigit
  let unit := match text.toList.drop digits.length with
    | ['k'] | ['K'] => 1024
    | ['M'] => 1048576
    | _ => 1
  (String.ofList digits).toNat?.getD 0 * unit

/-- Tells how two contents differ. -/
def compareContents (options : GivenOptions) (first second : String) (a b : ByteArray)
    : Action Nat := do
  let silent := options.has ["s", "quiet", "silent"]
  let place := firstDifference a b (a.size + 1) 0
  let common := min a.size b.size
  if place == a.size && place == b.size then return 0
  else if silent then return 1
  else
    let all := options.has ["l", "verbose"]
    let shows := options.has ["b", "print-bytes"]
    if all then
      let width := (toString common).length
      for i in List.range common do
        let x := a.get! i
        let y := b.get! i
        if x != y then
          let number := alignRight width (toString (i + 1))
          if shows then
            say 1 (number ++ " " ++ alignRight 3 (octalText 0 x.toNat) ++ " " ++
              alignLeft 4 (shownByte x) ++ " " ++ alignRight 3 (octalText 0 y.toNat) ++ " " ++
              shownByte y ++ "\n")
          else
            say 1 (number ++ " " ++ alignRight 3 (octalText 0 x.toNat) ++ " " ++
              alignRight 3 (octalText 0 y.toNat) ++ "\n")
    else if place < common then
      let line := lineEnds a place + 1
      if shows then
        let x := a.get! place
        let y := b.get! place
        let values := alignRight 3 (octalText 0 x.toNat) ++ " " ++ shownByte x ++ " " ++
          alignRight 3 (octalText 0 y.toNat) ++ " " ++ shownByte y
        say 1 s!"{first} {second} differ: byte {place + 1}, line {line} is {values}\n"
      else say 1 s!"{first} {second} differ: char {place + 1}, line {line}\n"
    if a.size != b.size && (all || place == common) then
      let shorter := if a.size < b.size then first else second
      if common == 0 then report s!"EOF on {shorter} which is empty"
      else if all then report s!"EOF on {shorter} after byte {common}"
      else
        let lines := lineEnds a common
        if a.get! (common - 1) == 10 then
          report s!"EOF on {shorter} after byte {common}, line {lines}"
        else report s!"EOF on {shorter} after byte {common}, in line {lines + 1}"
    return 1

end Cmp

/-- Compares two files by byte. -/
def cmp : Program := fun _ arguments =>
  let set : OptionSet :=
    { letters := "bls", marked := "in"
      long := ["print-bytes", "ignore-initial=", "verbose", "bytes=", "quiet", "silent"] }
  match set.read (arguments.length + 1) arguments with
  | .error fault => misuseAloud fault.message
  | .ok (options, operands) => do
      match operands with
      | [] => misuseAloud ("missing operand after " ++ quote "cmp")
      | first :: rest =>
          let second := rest.headD "-"
          if 3 < rest.length then misuseAloud ("extra operand " ++ quote (rest.getD 3 ""))
          else
            let skipped := (options.last? ["i", "ignore-initial"]).getD "0"
            let parts := (Text.splitOn ':' skipped.toList).map String.ofList
            let skip (i : Nat) : Nat :=
              match rest[i + 1]? with
              | some text => Cmp.sizeOf text
              | none => Cmp.sizeOf (parts.getD i (parts.headD "0"))
            let limited (bytes : ByteArray) : ByteArray :=
              match options.last? ["n", "bytes"] with
              | some text => bytes.extract 0 (Cmp.sizeOf text)
              | none => bytes
            if first == second then return 0
            else
              let quiet := options.has ["s", "quiet", "silent"]
              match ← operandContent first, ← operandContent second with
              | .ok a, .ok b =>
                  Cmp.compareContents options first second
                    (limited (a.extract (skip 0) a.size)) (limited (b.extract (skip 1) b.size))
              | .error fault, _ => refuse quiet first fault
              | _, .error fault => refuse quiet second fault
where
  refuse (quiet : Bool) (name : String) (fault : FileFault) : Action Nat := do
    if !quiet || fault != .notFound then report s!"{name}: {reason fault}"
    return 2

/-! ## Lines -/

namespace Diff

open Difference (Change)

/-- How changes are shown. -/
inductive Form where
  | normal
  | unified
  | context
  | script
  | commands
  | brief
deriving DecidableEq

/-- How files are compared. -/
structure Settings where
  form : Form
  around : Nat
  options : GivenOptions
  labels : List String
  /-- The options as they were given. -/
  spelled : String
  /-- Changes of lines that one of these matches do not count. -/
  ignored : List Expression

/-- One of two files: its name, and its lines with their ends. -/
structure Side where
  name : String
  lines : Array (List UInt8)

/-- What of a line counts when lines are compared. -/
def keyOf (options : GivenOptions) (line : List UInt8) : List UInt8 :=
  let isSpace (b : UInt8) : Bool := b == 32 || (9 ≤ b && b ≤ 13)
  let folded := if options.has ["i", "ignore-case"] then
      line.map fun b => if 65 ≤ b && b ≤ 90 then b + 32 else b
    else line
  if options.has ["w", "ignore-all-space"] then folded.filter (!isSpace ·)
  else if options.has ["b", "ignore-space-change"] then
    (squeeze isSpace folded).reverse.dropWhile isSpace |>.reverse
  else if options.has ["Z", "ignore-trailing-space"] then
    (folded.reverse.dropWhile isSpace).reverse
  else if options.has ["strip-trailing-cr"] then
    match folded.reverse with
    | 10 :: 13 :: rest => (10 :: rest).reverse
    | _ => folded
  else folded
where
  /-- Bytes with one blank in the place of several. -/
  squeeze (isSpace : UInt8 → Bool) : List UInt8 → List UInt8
    | [] => []
    | b :: rest =>
        let rest := squeeze isSpace rest
        if isSpace b then
          match rest with
          | 32 :: _ => rest
          | rest => 32 :: rest
        else b :: rest

/-- Numbers for lines, the same ones for lines that are the same. -/
def numberLines (options : GivenOptions) (left right : Array (List UInt8))
    : Array Nat × Array Nat :=
  let number (state : Array Nat × Std.HashMap (List UInt8) Nat) (line : List UInt8)
      : Array Nat × Std.HashMap (List UInt8) Nat :=
    let key := keyOf options line
    match state.2[key]? with
    | some n => (state.1.push n, state.2)
    | none => (state.1.push (state.2.size + 1), state.2.insert key (state.2.size + 1))
  let (first, known) := left.foldl number (#[], {})
  let (second, _) := right.foldl number (#[], known)
  (first, second)

/-- Whether a change of a line counts. -/
def counts (settings : Settings) (line : List UInt8) : Bool :=
  let bare := if line.getLast? == some 10 then line.dropLast else line
  let empty := settings.options.has ["B", "ignore-blank-lines"] && bare.isEmpty
  !(empty || settings.ignored.any fun pattern => (pattern.find? {} (ofBytes bare) 0).isSome)

/-- The lines of a part of a file. -/
def Side.part (side : Side) (start count : Nat) : List (List UInt8) :=
  (side.lines.extract start (start + count)).toList

/-- Whether changes count: if one of them does, all do. -/
def countTogether (settings : Settings) (left right : Side) (changes : List Change) : Bool :=
  changes.any fun change =>
    (left.part change.left change.removed ++ right.part change.right change.added).any
      (counts settings)

/-- A line after a mark. -/
def marked (mark : String) (line : List UInt8) : List UInt8 :=
  let ending := if line.getLast? == some 10 then []
    else "\n\\ No newline at end of file\n".toUTF8.data.toList
  mark.toUTF8.data.toList ++ line ++ ending

/-- A range of lines, the first of them counted from zero. -/
def rangeText (start count : Nat) : String :=
  if count == 0 then toString start
  else if count == 1 then toString (start + 1)
  else s!"{start + 1},{start + count}"

/-- A change in the usual form. -/
def normalText (left right : Side) (change : Change) : List UInt8 :=
  let letter := if change.removed == 0 then "a" else if change.added == 0 then "d" else "c"
  let title := rangeText change.left change.removed ++ letter ++
    rangeText change.right change.added ++ "\n"
  title.toUTF8.data.toList ++
    (left.part change.left change.removed).flatMap (marked "< ") ++
    (if letter == "c" then "---\n".toUTF8.data.toList else []) ++
    (right.part change.right change.added).flatMap (marked "> ")

/-- A change as commands of an editor. -/
def scriptText (right : Side) (change : Change) : List UInt8 :=
  let letter := if change.removed == 0 then "a" else if change.added == 0 then "d" else "c"
  let title := rangeText change.left change.removed ++ letter ++ "\n"
  let added := right.part change.right change.added
  title.toUTF8.data.toList ++ added.flatten ++
    (if added.isEmpty then [] else ".\n".toUTF8.data.toList)

/-- A change as commands with counts. -/
def commandText (right : Side) (change : Change) : List UInt8 :=
  let removal := if change.removed == 0 then ""
    else s!"d{change.left + 1} {change.removed}\n"
  let addition := if change.added == 0 then ""
    else s!"a{change.left + change.removed} {change.added}\n"
  (removal ++ addition).toUTF8.data.toList ++
    (right.part change.right change.added).flatten

/-- Changes that are shown together, those with few lines between them. -/
def gather (gap : Nat) : List Change → List (List Change)
  | [] => []
  | change :: rest =>
      match gather gap rest with
      | (next :: more) :: groups =>
          if next.left - (change.left + change.removed) ≤ gap then
            (change :: next :: more) :: groups
          else [change] :: (next :: more) :: groups
      | groups => [change] :: groups

/-- The part of both files that is shown around changes. -/
def surroundings (around : Nat) (left right : Side) (changes : List Change)
    : Change :=
  let first := changes.headD ⟨0, 0, 0, 0⟩
  let last := changes.getLastD first
  let before := min around (min first.left first.right)
  let leftStop := min left.lines.size (last.left + last.removed + around)
  let rightStop := min right.lines.size (last.right + last.added + around)
  let start := first.left - before
  let startRight := first.right - before
  ⟨start, leftStop - start, startRight, rightStop - startRight⟩

/-- A range with the number of its lines. -/
def countedText (start count : Nat) : String :=
  if count == 0 then s!"{start},0"
  else if count == 1 then toString (start + 1)
  else s!"{start + 1},{count}"

/-- Changes with the lines around them, one below the other. -/
def unifiedText (around : Nat) (left right : Side) (changes : List Change) : List UInt8 :=
  let whole := surroundings around left right changes
  let title := s!"@@ -{countedText whole.left whole.removed} " ++
    s!"+{countedText whole.right whole.added} @@\n"
  let (body, place) := changes.foldl (fun (body, place) (change : Change) =>
    (body ++ (left.part place (change.left - place)).flatMap (marked " ") ++
      (left.part change.left change.removed).flatMap (marked "-") ++
      (right.part change.right change.added).flatMap (marked "+"),
      change.left + change.removed)) (([] : List UInt8), whole.left)
  title.toUTF8.data.toList ++ body ++
    (left.part place (whole.left + whole.removed - place)).flatMap (marked " ")

/-- Changes with the lines around them, first of the one file and then of the other. -/
def contextText (around : Nat) (left right : Side) (changes : List Change) : List UInt8 :=
  let whole := surroundings around left right changes
  let range (start count : Nat) : String :=
    if count ≤ 1 then toString (start + count) else s!"{start + 1},{start + count}"
  let halfText (side : Side) (start count : Nat) (spans : List (Nat × Nat × String)) :=
    if spans.all fun span => span.2.1 == 0 then []
    else
      let (body, place) := spans.foldl (fun (body, place) (spot, size, mark) =>
        (body ++ (side.part place (spot - place)).flatMap (marked "  ") ++
          (side.part spot size).flatMap (marked mark), spot + size))
        (([] : List UInt8), start)
      body ++ (side.part place (start + count - place)).flatMap (marked "  ")
  let mark (change : Change) (alone : String) : String :=
    if 0 < change.removed && 0 < change.added then "! " else alone
  ("***************\n" ++ s!"*** {range whole.left whole.removed} ****\n").toUTF8.data.toList ++
    halfText left whole.left whole.removed (changes.map fun change =>
      (change.left, change.removed, mark change "- ")) ++
    s!"--- {range whole.right whole.added} ----\n".toUTF8.data.toList ++
    halfText right whole.right whole.added (changes.map fun change =>
      (change.right, change.added, mark change "+ "))

/-- The title of a file. -/
def titleOf (settings : Settings) (index : Nat) (name : String) : String :=
  (settings.labels[index]?).getD (name ++ "\t1970-01-01 00:00:00.000000000 +0000")

/-- All changes in the form that is asked for. -/
def shown (settings : Settings) (left right : Side) (changes : List Change) : List UInt8 :=
  let counting (changes : List Change) : Bool := countTogether settings left right changes
  let single := changes.filter fun change => counting [change]
  let titles (first second : String) : List UInt8 :=
    (s!"{first} {titleOf settings 0 left.name}\n" ++
      s!"{second} {titleOf settings 1 right.name}\n").toUTF8.data.toList
  let groups := (gather (2 * settings.around) changes).filter counting
  match settings.form with
  | .normal => single.flatMap (normalText left right)
  | .script => single.reverse.flatMap (scriptText right)
  | .commands => single.flatMap (commandText right)
  | .unified => titles "---" "+++" ++ groups.flatMap (unifiedText settings.around left right)
  | .context => titles "***" "---" ++ groups.flatMap (contextText settings.around left right)
  | .brief => []

/-- Compares two contents. Within directories a line with the names comes before the changes. -/
def compareContents (settings : Settings) (within : Bool) (first second : String)
    (a b : ByteArray) : Action Nat := do
  let binary := !settings.options.has ["a", "text"] &&
    (a.data.contains 0 || b.data.contains 0)
  let same : Action Nat := do
    if settings.options.has ["s", "report-identical-files"] then
      say 1 s!"Files {first} and {second} are identical\n"
    return 0
  if a.data == b.data then same
  else if binary then
    if settings.form == .brief then
      say 1 s!"Files {first} and {second} differ\n"
      return 1
    else
      say 1 s!"Binary files {first} and {second} differ\n"
      return 2
  else
    let left : Side := ⟨first, (byteLines a).toArray⟩
    let right : Side := ⟨second, (byteLines b).toArray⟩
    let (x, y) := numberLines settings.options left.lines right.lines
    let margin := if settings.form == .unified || settings.form == .context then settings.around
      else 0
    let changes := Difference.changes x y margin
    if !(changes.any fun change => countTogether settings left right [change]) then same
    else
      if settings.form == .brief then say 1 s!"Files {first} and {second} differ\n"
      else
        if within then say 1 s!"diff{settings.spelled} {first} {second}\n"
        emit (ofBytes (shown settings left right changes))
      return 1

/-- What a name leads to: a directory, or a content. -/
inductive Found where
  | directory
  | content (bytes : ByteArray)
  | absent (fault : FileFault)

/-- What a name leads to. -/
def find (name : String) : Action Found := do
  if (← getThe Machine).leadsToDirectory name then return .directory
  else
    match ← operandContent name with
    | .ok content => return .content content
    | .error fault => return .absent fault

/-- Compares what two names lead to; `fuel` bounds the depth of directories. -/
def compareNames (settings : Settings) (fuel : Nat) (within : Bool) (first second : String)
    : Action Nat :=
  match fuel with
  | 0 => return 2
  | fuel + 1 => do
      let fills := settings.options.has ["N", "new-file"]
      let left ← find first
      let right ← if first == second && first == "-" then pure left else find second
      match left, right with
      | .content a, .content b => compareContents settings within first second a b
      | .directory, .directory =>
          if within && !settings.options.has ["r", "recursive"] then
            say 1 s!"Common subdirectories: {first} and {second}\n"
            return 0
          else compareBelow settings fuel first second
      | .content a, .absent fault =>
          if fills && fault == .notFound then
            compareContents settings within first second a .empty
          else refuse second fault
      | .absent fault, .content b =>
          if fills && fault == .notFound then
            compareContents settings within first second .empty b
          else refuse first fault
      | .absent fault, .absent other =>
          let _ ← refuse first fault
          refuse second other
      | .absent fault, .directory =>
          if fills && within then compareBelow settings fuel first second else refuse first fault
      | .directory, .absent fault =>
          if fills && within then compareBelow settings fuel first second else refuse second fault
      | .directory, .content b =>
          if within then
            let kind := kindText (.node (.file b false))
            say 1 s!"File {first} is a directory while file {second} is a {kind}\n"
            return 1
          else compareNames settings fuel false (joinName first (nameOfPath second)) second
      | .content a, .directory =>
          if within then
            let kind := kindText (.node (.file a false))
            say 1 s!"File {first} is a {kind} while file {second} is a directory\n"
            return 1
          else compareNames settings fuel false first (joinName second (nameOfPath first))
where
  refuse (name : String) (fault : FileFault) : Action Nat := do
    report s!"{name}: {reason fault}"
    return 2
  /-- Compares what lies in two directories. -/
  compareBelow (settings : Settings) (fuel : Nat) (first second : String) : Action Nat := do
    let fills := settings.options.has ["N", "new-file"]
    let left ← namesIn first
    let right ← namesIn second
    let excluded := (settings.options.filter fun option =>
      option.1 == "x" || option.1 == "exclude").map fun option =>
        Glob.ofMarked (option.2.toUTF8.data.toList.map (·, false))
    let names := ((left ++ right.filter (!left.contains ·)).filter fun name =>
      !(excluded.any fun glob => glob.matchBytes {} name.toUTF8.data.toList)).mergeSort
        fun a b => a ≤ b
    let mut status := 0
    for name in names do
      if !right.contains name && !fills then
        say 1 s!"Only in {first}: {name}\n"
        status := max status 1
      else if !left.contains name && !fills then
        say 1 s!"Only in {second}: {name}\n"
        status := max status 1
      else
        let found ← compareNames settings fuel true (joinName first name) (joinName second name)
        status := max status found
    return status
  namesIn (name : String) : Action (List String) := do
    let machine ← getThe Machine
    match machine.entry name true with
    | .ok (location, _) => return (machine.entriesBelow location).map (·.1)
    | .error _ => return []

/-- The options of the program. -/
def options : OptionSet :=
  { letters := "aBbcdeEilnNpPqrstTuvwyZ0123456789", marked := "UCILxXSWFD"
    long := ["unified?", "context?", "brief", "report-identical-files", "recursive", "new-file",
      "ignore-case", "ignore-all-space", "ignore-space-change", "ignore-trailing-space",
      "ignore-blank-lines", "ignore-tab-expansion", "label=", "text", "minimal", "normal", "ed",
      "rcs", "side-by-side", "width=", "exclude=", "color?", "strip-trailing-cr",
      "speed-large-files", "ignore-matching-lines=", "expand-tabs", "initial-tab",
      "no-dereference"] }

/-- How files are compared, as options say. -/
def settingsOf (given : GivenOptions) (arguments operands : List String) : Settings :=
  let form : Form :=
    given.foldl (fun form option =>
      match option.1 with
      | "u" | "U" | "unified" => .unified
      | "c" | "C" | "context" => .context
      | "e" | "ed" => .script
      | "n" | "rcs" => .commands
      | "normal" => .normal
      | _ => form) .normal
  let digits := (given.filter fun option => option.1.toList.all Char.isDigit).map (·.1)
  let around := match given.last? ["U", "C", "unified", "context"] with
    | some text => text.toNat?
    | none => (String.join digits).toNat?
  let spelled := arguments.filter fun argument => !operands.contains argument
  { form := if given.has ["q", "brief"] then .brief else form
    around := around.getD 3
    options := given
    labels := (given.filter fun option => option.1 == "L" || option.1 == "label").map (·.2)
    spelled := String.join (spelled.map fun argument => " " ++ argument)
    ignored := (given.filter fun option =>
      option.1 == "I" || option.1 == "ignore-matching-lines").filterMap fun option =>
        match Expression.parse { extended := false } option.2.toUTF8.data.toList with
        | .ok spelled => some spelled.pattern
        | .error _ => none }

end Diff

/-- Compares files by line. -/
def diff : Program := fun _ arguments => do
  match Diff.options.read (arguments.length + 1) arguments with
  | .error fault => misuseAloud fault.message
  | .ok (options, operands) =>
      match operands with
      | [first, second] =>
          Diff.compareNames (Diff.settingsOf options arguments operands) 64 false first second
      | [] => misuseAloud ("missing operand after " ++ quote (arguments.getLast?.getD "diff"))
      | [only] => misuseAloud s!"missing operand after {quote only}"
      | operands => misuseAloud ("extra operand " ++ quote (operands.getD 2 ""))

end Groundwork.Shell.Program
