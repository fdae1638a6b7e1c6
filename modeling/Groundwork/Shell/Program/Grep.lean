import Groundwork.Pattern.Basic
import Groundwork.Shell.Program.Entry
import Groundwork.Text.Expression

/-!
The program `grep`, which shows the lines that patterns match.
-/

namespace Groundwork.Shell.Program.Grep

/-! ## Patterns -/

/-- Finds the first match in a line from a place on. -/
abbrev Finder := ByteArray → Nat → Option (Nat × Nat)

/-- Which ends of a match are accepted: those of words, of the line, or any. -/
def accepts (words whole : Bool) (line : ByteArray) (start stop : Nat) : Bool :=
  if whole then start == 0 && stop == line.size
  else
    !words || !(Expression.wordBefore line start || Expression.wordAt line stop)

/-- The earliest of several matches, and the longest of those. -/
def earliest (candidates : List (Nat × Nat)) : Option (Nat × Nat) :=
  candidates.foldl (fun best found =>
    match best with
    | none => some found
    | some other =>
        if found.1 < other.1 || (found.1 == other.1 && other.2 < found.2) then some found
        else best) none

/-- Finds what one of some patterns matches. -/
def ofExpressions (fold words whole : Bool) (patterns : List Expression) : Finder :=
  fun line place =>
    earliest (patterns.filterMap fun pattern =>
      (Expression.findWhere? { fold } (accepts words whole line) line pattern place).map
        fun found => (found.start, found.stop))

/-- Finds what a pattern of the other kind matches. -/
def ofSearchPattern (words whole : Bool) (pattern : SearchPattern) : Finder :=
  fun line place =>
    let text := (Text.decodeLossy line).toList
    let offset (count : Nat) : Nat := (String.ofList (text.take count)).utf8ByteSize
    let found := (pattern.findAll text).map fun found => (offset found.start, offset found.stop)
    found.find? fun (start, stop) => place ≤ start && accepts words whole line start stop

/-- What is looked for, with warnings about its spelling. -/
def finder (options : GivenOptions) (patterns : List (List UInt8))
    : Except String (Finder × List String) :=
  let fold := (options.filter fun option =>
    ["i", "y", "ignore-case", "no-ignore-case"].contains option.1).getLast?.any
      fun option => option.1 != "no-ignore-case"
  let words := options.has ["w", "word-regexp"]
  let whole := options.has ["x", "line-regexp"]
  let kind := ((options.filter fun option =>
    ["E", "F", "G", "P", "extended-regexp", "fixed-strings", "basic-regexp",
      "perl-regexp"].contains option.1).getLast?.map (·.1)).getD "G"
  if kind == "F" || kind == "fixed-strings" then
    .ok (ofExpressions fold words whole (patterns.map Expression.literal), [])
  else if kind == "P" || kind == "perl-regexp" then
    let source := bytesText (patterns.headD [])
    match SearchPattern.parse (if fold then "(?i)" ++ source else source) with
    | .ok pattern => .ok (ofSearchPattern words whole pattern, [])
    | .error _ => .error "unmatched parentheses"
  else
    let extended := kind == "E" || kind == "extended-regexp"
    match patterns.mapM (Expression.parse { extended, strict := false }) with
    | .ok spelled =>
        .ok (ofExpressions fold words whole (spelled.map (·.pattern)),
          (spelled.flatMap (·.bare)).map fun text => s!"warning: {text} at start of expression")
    | .error fault => .error fault.message

/-! ## Lines -/

/-- What is shown of lines. -/
structure Style where
  inverted : Bool
  counts : Bool
  /-- Only the names of files are shown: of those with such lines, or of the others. -/
  names : Option Bool
  quiet : Bool
  numbered : Bool
  offsets : Bool
  onlyMatches : Bool
  before : Nat
  after : Nat
  most : Option Nat
  separator : Option String
  /-- What ends a line, and a name before other text. -/
  mark : UInt8
  nameMark : String
  aligned : Bool

/-- A line with its number and the place where it begins. -/
structure NumberedLine where
  number : Nat
  offset : Nat
  bytes : ByteArray

/-- Lines with their numbers. -/
def numberLines (number offset : Nat) : List (List UInt8) → List NumberedLine
  | [] => []
  | line :: rest =>
      ⟨number, offset, ofBytes line⟩ :: numberLines (number + 1) (offset + line.length + 1) rest

/-- All matches in a line that are not empty; `fuel` bounds their number. -/
def matchesIn (find : Finder) (line : ByteArray) (fuel place : Nat) : List (Nat × Nat) :=
  match fuel with
  | 0 => []
  | fuel + 1 =>
      match find line place with
      | none => []
      | some (start, stop) =>
          if start == stop then matchesIn find line fuel (start + 1)
          else (start, stop) :: matchesIn find line fuel stop

/-- What is shown before a line, or before a part of it. -/
def leadOf (style : Style) (name : Option String) (mark : String) (line : NumberedLine)
    (place : Nat) : String :=
  let name := match name with
    | some name => name ++ (if style.nameMark.isEmpty then mark else style.nameMark)
    | none => ""
  let number := if style.numbered then s!"{line.number}{mark}" else ""
  let offset := if style.offsets then s!"{line.offset + place}{mark}" else ""
  let lead := name ++ number ++ offset
  if style.aligned && !lead.isEmpty then lead ++ "\t" else lead

/-- Shows the selected lines with those around them. The first argument is the number of the last
line that was shown, if any; `rest` holds how many lines are shown still after a selected one. -/
def showLines (style : Style) (find : Finder) (name : Option String)
    (shown : Option Nat) (rest : Nat) (count : Nat) (before : List NumberedLine)
    : List NumberedLine → Action (Nat × Option Nat)
  | [] => return (count, shown)
  | line :: lines => do
      let found := find line.bytes 0
      let context := 0 < style.before || 0 < style.after
      if found.isSome != style.inverted && style.most.all (count < ·) then
        let earlier := (before.take style.before).reverse
        let first := (earlier.head?.map (·.number)).getD line.number
        let apart := shown.any (· + 1 < first) || (shown == some 0 && context)
        if context && apart then
          match style.separator with
          | some text => say 1 (text ++ "\n")
          | none => pure ()
        for other in earlier do put other "-"
        if style.onlyMatches then
          if !style.inverted then
            for (start, stop) in matchesIn find line.bytes (line.bytes.size + 2) 0 do
              say 1 (leadOf style name ":" line start)
              emit (line.bytes.extract start stop ++ ofBytes [style.mark])
        else put line ":"
        showLines style find name (some line.number) style.after (count + 1) [] lines
      else if 0 < rest && !style.onlyMatches then
        put line "-"
        showLines style find name (some line.number) (rest - 1) count [] lines
      else if style.most.any (· ≤ count) then return (count, shown)
      else
        let kept := if style.before == 0 || style.onlyMatches then []
          else line :: before.take style.before
        showLines style find name shown 0 count kept lines
where
  put (line : NumberedLine) (mark : String) : Action Unit := do
    say 1 (leadOf style name mark line 0)
    emit (line.bytes ++ ofBytes [style.mark])

/-- How many lines are selected, up to the most that are counted. -/
def countLines (style : Style) (find : Finder) (count : Nat) : List NumberedLine → Nat
  | [] => count
  | line :: lines =>
      if style.most.any (· ≤ count) then count
      else
        countLines style find (if (find line.bytes 0).isSome != style.inverted then count + 1
          else count) lines

/-! ## Files -/

/-- The state of a search. -/
structure Progress where
  found : Bool := false
  failed : Bool := false
  /-- Lines of a file have been shown before. -/
  shown : Bool := false

/-- Searches some content under a name. -/
def searchContent (style : Style) (find : Finder) (asText skipsBinary : Bool) (title : String)
    (name : Option String) (content : ByteArray) (progress : Progress) : Action Progress := do
  let isBinary := !asText && style.mark == 10 && content.data.contains 0
  if isBinary && skipsBinary then return progress
  else
    let lines := numberLines 1 0 (splitLines style.mark content).1
    let nameEnd := if style.nameMark.isEmpty then "\n" else style.nameMark
    if style.quiet || style.names.isSome then
      let enough := match style.most with
        | some most => min most 1
        | none => 1
      let hit := decide (0 < countLines { style with most := some enough } find 0 lines)
      match style.names with
      | some wanted => if !style.quiet && hit == wanted then say 1 (title ++ nameEnd)
      | none => pure ()
      return { progress with found := progress.found || hit }
    else if style.counts then
      let count := countLines style find 0 lines
      let lead := match name with
        | some name => name ++ (if style.nameMark.isEmpty then ":" else style.nameMark)
        | none => ""
      say 1 s!"{lead}{count}\n"
      return { progress with found := progress.found || 0 < count }
    else if isBinary then
      let count := countLines { style with most := some 1 } find 0 lines
      if 0 < count then report s!"{title}: binary file matches"
      return { progress with found := progress.found || 0 < count }
    else
      let start := if progress.shown then some 0 else none
      let (count, shown) ← showLines style find name start 0 0 [] lines
      return { progress with
        found := progress.found || 0 < count
        shown := progress.shown || shown.any (0 < ·) }

/-- Which files and directories are searched. -/
def isChosen (options : GivenOptions) (isDirectory : Bool) (name : String) : Bool :=
  let among (kind : String) : List String :=
    options.filterMap fun option => if option.1 == kind then some option.2 else none
  let fits (pattern : String) : Bool :=
    (Glob.ofMarked (pattern.toUTF8.data.toList.map fun b => (b, false))).accepts name
  if isDirectory then !(among "exclude-dir").any fits
  else
    !(among "exclude").any fits &&
      ((among "include").isEmpty || (among "include").any fits)

end Grep

open Grep in
/-- Shows the lines that patterns match. -/
def grep (kind : String) : Program := fun _ arguments => do
  let set : OptionSet :=
    { letters := "EFGPiywxzclLqsnHhobvrRaIUTZu", marked := "efABCmdD"
      long := ["extended-regexp", "fixed-strings", "basic-regexp", "perl-regexp", "regexp=",
        "file=", "ignore-case", "no-ignore-case", "invert-match", "word-regexp", "line-regexp",
        "null-data", "no-messages", "count", "files-with-matches", "files-without-match", "quiet",
        "silent", "line-number", "with-filename", "no-filename", "only-matching", "byte-offset",
        "recursive",
        "dereference-recursive", "include=", "exclude=", "exclude-dir=", "exclude-from=", "text",
        "binary-files=", "color?", "colour?", "label=", "line-buffered", "initial-tab", "null",
        "after-context=", "before-context=", "context=", "max-count=", "group-separator=",
        "no-group-separator", "directories=", "devices=", "binary"] }
  let usage : Action Nat := do
    let name := (← getThe Machine).program
    say 2 s!"Usage: {name} [OPTION]... PATTERNS [FILE]...\n"
    adviseHelp
    return 2
  let arguments := arguments.map fun argument =>
    match argument.toList with
    | '-' :: c :: rest =>
        if (c :: rest).all Char.isDigit then "-C" ++ String.ofList (c :: rest) else argument
    | _ => argument
  match set.read (arguments.length + 1) arguments with
  | .error fault =>
      report fault.message
      usage
  | .ok (given, operands) =>
      let options : GivenOptions := (kind, "") :: given
      let mut listed : List (List UInt8) := []
      for option in options do
        if ["e", "regexp"].contains option.1 then
          listed := listed ++ splitPatterns option.2.toUTF8
        else if ["f", "file"].contains option.1 then
          match ← operandContent option.2 with
          | .ok content => listed := listed ++ (splitLines 10 content).1
          | .error fault =>
              report (plainComplaint option.2 fault)
              throw (.exit 2)
      let spelled := options.has ["e", "regexp", "f", "file"]
      if !spelled && operands.isEmpty then usage
      else
        let (patterns, operands) :=
          if spelled then (listed, operands)
          else (splitPatterns (operands.headD "").toUTF8, operands.drop 1)
        match finder options patterns, context options, limit options with
        | .error message, _, _ | _, .error message, _ | _, _, .error message =>
            report message
            return 2
        | .ok (find, warnings), .ok (before, after), .ok most =>
            for warning in warnings do report warning
            search options (style options before after most) find operands
where
  splitPatterns (bytes : ByteArray) : List (List UInt8) :=
    let (lines, ended) := splitLines 10 bytes
    if ended && !bytes.isEmpty then lines ++ [[]] else if bytes.isEmpty then [[]] else lines
  /-- How many lines are shown around others. -/
  context (options : GivenOptions) : Except String (Nat × Nat) := do
    let both := options.last? ["C", "context"]
    let read (text? : Option String) : Except String (Option Nat) :=
      match text? with
      | none => .ok none
      | some text =>
          match text.toNat? with
          | some number => .ok (some number)
          | none => .error s!"{text}: invalid context length argument"
    let both ← read both
    let before ← read (options.last? ["B", "before-context"])
    let after ← read (options.last? ["A", "after-context"])
    return ((before.orElse fun _ => both).getD 0, (after.orElse fun _ => both).getD 0)
  limit (options : GivenOptions) : Except String (Option Nat) :=
    match options.last? ["m", "max-count"] with
    | none => .ok none
    | some text =>
        match text.toInt? with
        | some number => .ok (if number < 0 then none else some number.toNat)
        | none => .error "invalid max count"
  style (options : GivenOptions) (before after : Nat) (most : Option Nat) : Style :=
    { inverted := options.has ["v", "invert-match"]
      counts := options.has ["c", "count"]
      names := (options.filter fun option =>
        ["l", "L", "files-with-matches", "files-without-match"].contains option.1).getLast?.map
          fun option => option.1 == "l" || option.1 == "files-with-matches"
      quiet := options.has ["q", "quiet", "silent"]
      numbered := options.has ["n", "line-number"]
      offsets := options.has ["b", "byte-offset"]
      onlyMatches := options.has ["o", "only-matching"]
      before, after, most
      separator := if options.has ["no-group-separator"] then none
        else some ((options.last? ["group-separator"]).getD "--")
      mark := if options.has ["z", "null-data"] then 0 else 10
      nameMark := if options.has ["Z", "null"] then "\x00" else ""
      aligned := options.has ["T", "initial-tab"] }
  /-- Searches operands, and with `-r` what lies in directories. -/
  search (options : GivenOptions) (style : Style) (find : Finder) (operands : List String)
      : Action Nat := do
    let deep := options.has ["r", "R", "recursive", "dereference-recursive"] ||
      options.last? ["d", "directories"] == some "recurse"
    let skipsDirectories := options.last? ["d", "directories"] == some "skip"
    let asText := options.has ["a", "text"] || options.last? ["binary-files"] == some "text"
    let skipsBinary := options.has ["I"] || options.last? ["binary-files"] == some "without-match"
    let naming := (options.filter fun option =>
      ["H", "h", "with-filename", "no-filename"].contains option.1).getLast?.map
        fun option => option.1 == "H" || option.1 == "with-filename"
    let inputs := if operands.isEmpty then if deep then [""] else ["-"] else operands
    let mut progress : Progress := {}
    let silent := options.has ["s", "no-messages"]
    for operand in inputs do
      if !(style.quiet && progress.found) then
        let machine ← getThe Machine
        let path := if operand.isEmpty && operands.isEmpty then "." else operand
        let entry? := if operand == "-" then none else (machine.entry path true).toOption
        match entry? with
        | some (location, .node .directory) =>
            if deep then
              let lead := if operand.isEmpty && operands.isEmpty then "" else operand
              for (path, place) in filesBelow options machine 256 lead location do
                match machine.entryAt? place with
                | some (.node (.file content _)) =>
                    progress ← searchContent style find asText skipsBinary path
                      (if naming.getD true then some path else none) content progress
                | _ => pure ()
            else if !skipsDirectories then
              if !silent then report s!"{operand}: Is a directory"
              progress := { progress with failed := true }
        | _ =>
            if operand == "-" || isChosen options false (nameOfPath operand) then
              match ← operandContent operand with
              | .ok content =>
                  let title := if operand == "-" then
                      (options.last? ["label"]).getD "(standard input)"
                    else operand
                  let named := naming.getD (1 < operands.length)
                  progress ← searchContent style find asText skipsBinary title
                    (if named then some title else none) content progress
              | .error fault =>
                  if !silent then report (plainComplaint operand fault)
                  progress := { progress with failed := true }
    if style.quiet && progress.found then return 0
    else if progress.failed then return 2
    else return if progress.found then 0 else 1
  /-- The files below a directory that are searched; `fuel` bounds the depth. -/
  filesBelow (options : GivenOptions) (machine : Machine) (fuel : Nat) (path : String)
      (location : Location) : List (String × Location) :=
    match fuel with
    | 0 => []
    | fuel + 1 =>
        (machine.entriesBelow location).flatMap fun (name, entry) =>
          let below := if path.isEmpty then name else joinName path name
          if !isChosen options entry.isDirectory name then []
          else if entry.isDirectory then
            filesBelow options machine fuel below (location ++ [name])
          else if entry.isLink then []
          else [(below, location ++ [name])]

end Groundwork.Shell.Program
