import Groundwork.Shell.Program.Files

/-!
Programs that select lines, bytes and fields, or put them together in another way.
-/

namespace Groundwork.Shell.Program

/-! ## Starts and ends -/

/-- How many lines or bytes are shown. With `apart` the count is from the other end. -/
structure Count where
  number : Nat
  apart : Bool := false

/-- A count before or after a sign. -/
def readCount? (sign : Char) (text : String) : Option Count :=
  match text.toList with
  | c :: rest =>
      if c == sign then (sizeOf? rest).map (⟨·, true⟩)
      else if c == '+' || c == '-' then (sizeOf? rest).map (⟨·, false⟩)
      else (sizeOf? (c :: rest)).map (⟨·, false⟩)
  | [] => none

/-- The lines or bytes of some content that a count selects at its start. -/
def selectStart (bytes : Bool) (count : Count) (content : ByteArray) : ByteArray :=
  if bytes then
    content.extract 0 (if count.apart then content.size - count.number else count.number)
  else
    let lines := byteLines content
    ofBytes (lines.take (if count.apart then lines.length - count.number else count.number)).flatten

/-- The lines or bytes that a count selects at the end. -/
def selectEnd (bytes : Bool) (count : Count) (content : ByteArray) : ByteArray :=
  if bytes then
    content.extract (if count.apart then count.number - 1 else content.size - count.number)
      content.size
  else
    let lines := byteLines content
    ofBytes (lines.drop (if count.apart then count.number - 1
      else lines.length - count.number)).flatten

/-- Gives bytes back to the file that they were read from. -/
def unread (channel count : Nat) : Action Unit :=
  modifyThe Machine fun machine =>
    match machine.opened? channel with
    | some (number, .file location place appends) =>
        machine.setOpened number (.file location (place - count) appends)
    | _ => machine

/-- Arguments of which those that are a dash and a number stand for a count. -/
def expandCounts (sign : Char) : List String → List String
  | [] => []
  | "--" :: rest => "--" :: rest
  | "-n" :: value :: rest => "-n" :: value :: expandCounts sign rest
  | "-c" :: value :: rest => "-c" :: value :: expandCounts sign rest
  | argument :: rest =>
      match argument.toList with
      | lead :: c :: more =>
          if (lead == '-' || lead == sign) && c.isDigit then
            let digits := (c :: more).takeWhile Char.isDigit
            let letters := (c :: more).drop digits.length
            let letters := letters.filter fun c => c == 'q' || c == 'v'
            let lead := if lead == '-' then "" else "+"
            let count := "-n" ++ lead ++ String.ofList digits
            (if letters.isEmpty then [count] else [String.ofList ('-' :: letters), count]) ++
              expandCounts sign rest
          else argument :: expandCounts sign rest
      | _ => argument :: expandCounts sign rest

/-- Shows a part of each operand. -/
def showParts (sign : Char) (select : Bool → Count → ByteArray → ByteArray) : Program :=
  fun _ arguments =>
    withOptions 1
      { letters := "qvzfFr", marked := "ncs"
        long := ["lines=", "bytes=", "quiet", "silent", "verbose", "zero-terminated", "follow?",
          "retry", "pid=", "sleep-interval="] } (expandCounts sign arguments)
      fun options operands => do
        let last := (options.filter fun option =>
          ["n", "lines", "c", "bytes"].contains option.1).getLast?
        let bytes := last.any fun option => ["c", "bytes"].contains option.1
        let text := (last.map (·.2)).getD "10"
        match readCount? sign text, options.has ["r"] && sign == '+' with
        | _, true => misuse 1 "invalid option -- 'r'"
        | none, _ =>
            let unit := if bytes then "bytes" else "lines"
            let shown := text.toList.dropWhile fun c => c == sign
            report s!"invalid number of {unit}: {quote (String.ofList shown)}"
            return 1
        | some count, _ =>
            let titled := !options.has ["q", "quiet", "silent"] &&
              (1 < operands.length || options.has ["v", "verbose"])
            let mut status := 0
            let mut first := true
            for operand in (if operands.isEmpty then ["-"] else operands) do
              match ← contentOf bytes count operand with
              | .ok content =>
                  if titled then
                    let name := if operand == "-" then "standard input" else operand
                    let gap := if first then "" else "\n"
                    say 1 s!"{gap}==> {name} <==\n"
                  first := false
                  let chosen := select bytes count content
                  emit chosen
                  if sign == '-' && operand == "-" then unread 0 (content.size - chosen.size)
              | .error .isDirectory =>
                  if titled then
                    let gap := if first then "" else "\n"
                    say 1 s!"{gap}==> {operand} <==\n"
                  first := false
                  report s!"error reading {quote operand}: {reason .isDirectory}"
                  status := 1
              | .error fault =>
                  report s!"cannot open {quote operand} for reading: {reason fault}"
                  status := 1
            return status
where
  /-- The content of an operand, which may be a device without an end. -/
  contentOf (bytes : Bool) (count : Count) (operand : String)
      : Action (Except FileFault ByteArray) := do
    let zeros (_ : Unit) : ByteArray :=
      ofBytes (List.replicate (if bytes then count.number else 0) 0)
    match device? operand with
    | some .zeros => return .ok (zeros ())
    | _ =>
        match (← getThe Machine).opened? 0 with
        | some (_, .zeros) =>
            if operand == "-" then return .ok (zeros ()) else operandContent operand
        | _ => operandContent operand

/-- Shows the start of files. -/
def head : Program := showParts '-' selectStart

/-- Shows the end of files. -/
def tail : Program := showParts '+' selectEnd

/-! ## Order of lines -/

/-- Writes lines in the other order. -/
def tac : Program := fun _ arguments =>
  withOptions 1 { letters := "br", marked := "s", long := ["before", "regex", "separator="] }
    arguments fun options operands => do
      let mark := ((options.last? ["s", "separator"]).bind fun text =>
        text.toUTF8.data.toList.head?).getD 10
      withContents 1 (fun operand fault =>
        if fault == .isDirectory then s!"{operand}: read error: Invalid argument"
        else s!"failed to open {quote operand} for reading: {reason fault}") operands
        fun content => do
          emit (ofBytes (piecesOf mark content).reverse.flatten)

/-- Writes each line from its end to its start. -/
def rev : Program := fun _ arguments =>
  withOptions 1 {} arguments fun _ operands =>
    withContents 1 (fun operand fault => s!"cannot open {operand}: {reason fault}") operands
      fun content => do
        let lines := (byteLines content).map fun line =>
          if line.getLast? == some 10 then
            line.dropLast.reverse ++ [10] else line.reverse
        emit (ofBytes lines.flatten)

/-- Writes lines with their numbers. -/
def nl : Program := fun _ arguments =>
  withOptions 1
    { letters := "p", marked := "bdfhilnsvw"
      long := ["body-numbering=", "number-format=", "number-width=", "number-separator=",
        "starting-line-number=", "line-increment="] } arguments fun options operands => do
      let number (names : List String) (default : Nat) : Nat :=
        ((options.last? names).bind String.toNat?).getD default
      let style := (options.last? ["b", "body-numbering"]).getD "t"
      let width := number ["w", "number-width"] 6
      let step := number ["i", "line-increment"] 1
      let separator := (options.last? ["s", "number-separator"]).getD "\t"
      let form := (options.last? ["n", "number-format"]).getD "rn"
      let shape (number : Nat) : String :=
        let digits := toString number
        let missing := width - digits.length
        match form with
        | "ln" => digits ++ String.ofList (List.replicate missing ' ')
        | "rz" => String.ofList (List.replicate missing '0') ++ digits
        | _ => String.ofList (List.replicate missing ' ') ++ digits
      let mut bytes : List (List UInt8) := []
      let mut status := 0
      for operand in (if operands.isEmpty then ["-"] else operands) do
        match ← operandContent operand with
        | .ok content => bytes := bytes ++ byteLines content
        | .error fault =>
            report (plainComplaint operand fault)
            status := 1
      let mut next := number ["v", "starting-line-number"] 1
      for line in bytes do
        let bare := line.filter (· != 10)
        let counted := style == "a" || (style == "t" && !bare.isEmpty)
        if counted then
          say 1 (shape next ++ separator)
          next := next + step
        else
          let gap := List.replicate (width + separator.utf8ByteSize) (32 : UInt8)
          emit (ofBytes gap)
        emit (ofBytes (bare ++ [10]))
      return status

/-! ## Fields -/

/-- Places from one on up to another or to the end. -/
structure Span where
  first : Nat
  last : Option Nat

namespace Span

def has (span : Span) (place : Nat) : Bool :=
  span.first ≤ place && span.last.all (place ≤ ·)

/-- Reads the places of a list with commas, or tells what is wrong with it. -/
def readAll (unit : String) (text : String) : Except String (List Span) :=
  let parts := (text.toList.splitBy fun a b => !isGap a && !isGap b).filter fun part =>
    part != [','] && part != [' ']
  let numbered := if unit == "field" then "fields are numbered from 1"
    else "byte/character positions are numbered from 1"
  if text.isEmpty || text.toList.getLast? == some ',' then .error numbered
  else
    parts.mapM fun part =>
      let first := part.takeWhile (· != '-')
      let rest := part.drop first.length
      let value? (digits : List Char) : Option Nat :=
        if !digits.isEmpty && digits.all Char.isDigit then (String.ofList digits).toNat? else none
      match rest with
      | [] =>
          match value? first with
          | some 0 => .error numbered
          | some place => .ok ⟨place, some place⟩
          | none => .error (invalid unit part)
      | _ :: last =>
          if first.isEmpty && last.isEmpty then
            .error s!"invalid range with no endpoint: {String.ofList part}"
          else
            let from? := if first.isEmpty then some 1 else value? first
            let to? : Option (Option Nat) :=
              if last.isEmpty then some none else (value? last).map some
            match from?, to? with
            | some 0, _ => .error numbered
            | some a, some none => .ok ⟨a, none⟩
            | some a, some (some b) =>
                if b < a then .error "invalid decreasing range" else .ok ⟨a, some b⟩
            | _, _ => .error (invalid unit part)
where
  isGap (c : Char) : Bool := c == ',' || c == ' '
  invalid (unit : String) (part : List Char) : String :=
    let kind := if unit == "field" then "field value" else "byte/character position"
    s!"invalid {kind} {quote (String.ofList part)}"

end Span

/-- Bytes cut at each mark, which is left out. -/
def splitBytes (mark : UInt8) (bytes : List UInt8) : List (List UInt8) :=
  let (pieces, last) := bytes.foldr (fun b (pieces, piece) =>
    if b == mark then (piece :: pieces, []) else (pieces, b :: piece))
    (([] : List (List UInt8)), ([] : List UInt8))
  last :: pieces

/-- Shows chosen bytes or fields of each line. -/
def cut : Program := fun _ arguments =>
  withOptions 1
    { letters := "nsz", marked := "bcdf"
      long := ["bytes=", "characters=", "delimiter=", "fields=", "complement", "only-delimited",
        "output-delimiter=", "zero-terminated"] } arguments fun options operands => do
      let lists := options.filter fun option =>
        ["b", "c", "f", "bytes", "characters", "fields"].contains option.1
      match lists with
      | [] => misuse 1 "you must specify a list of bytes, characters, or fields"
      | _ :: _ :: _ => misuse 1 "only one list may be specified"
      | [(kind, text)] =>
          let byField := kind == "f" || kind == "fields"
          let delimiter? := options.last? ["d", "delimiter"]
          match Span.readAll (if byField then "field" else "byte") text with
          | .error message => misuse 1 message
          | .ok spans =>
              if delimiter?.any fun text => 1 < text.utf8ByteSize then
                misuse 1 "the delimiter must be a single character"
              else if delimiter?.isSome && !byField then
                misuse 1 "an input delimiter may be specified only when operating on fields"
              else
                let mark := match delimiter? with
                  | some text => text.toUTF8.data.toList.headD 0
                  | none => 9
                let chosen (place : Nat) : Bool :=
                  spans.any (·.has place) != options.has ["complement"]
                let joined := ((options.last? ["output-delimiter"]).map fun text =>
                  text.toUTF8.data.toList).getD [mark]
                let ending : UInt8 := if options.has ["z", "zero-terminated"] then 0 else 10
                let line (bytes : List UInt8) : Option (List UInt8) :=
                  if byField then
                    let fields := splitBytes mark bytes
                    if fields.length < 2 then
                      if options.has ["s", "only-delimited"] then none else some bytes
                    else
                      some (joined.intercalate
                        ((fields.zipIdx.filter fun (_, i) => chosen (i + 1)).map (·.1)))
                  else if (options.last? ["output-delimiter"]).isSome then
                    let runs := (bytes.zipIdx.filter fun (_, i) => chosen (i + 1)).splitBy
                      fun a b => a.2 + 1 == b.2 && !spans.any fun span => span.first == b.2 + 1
                    some (joined.intercalate (runs.map fun run => run.map (·.1)))
                  else some ((bytes.zipIdx.filter fun (_, i) => chosen (i + 1)).map (·.1))
                withContents 1 plainComplaint operands fun content => do
                  let (lines, _) := splitLines ending content
                  emit (ofBytes ((lines.filterMap line).flatMap (· ++ [ending])))

/-- Puts lines of files beside one another. -/
def paste : Program := fun _ arguments =>
  withOptions 1 { letters := "sz", marked := "d", long := ["serial", "delimiters="] } arguments
    fun options operands => do
      let (marks, _) := Format.unescape {} ((options.last? ["d", "delimiters"]).getD "\t")
      let mark (i : Nat) : List UInt8 :=
        match marks[i % max marks.length 1]? with
        | some b => if b == 0 then [] else [b]
        | none => []
      let operands := if operands.isEmpty then ["-"] else operands
      let mut columns : List (List (List UInt8)) := []
      let mut status := 0
      let dashes := (operands.filter (· == "-")).length
      let mut shared : Option (List (List UInt8)) := none
      let mut taken := 0
      for operand in operands do
        if status == 0 then
          if operand == "-" && 1 < dashes && !options.has ["s", "serial"] then
            if shared.isNone then
              shared := some (splitLines 10 (← readAll 0)).1
            let turn := taken
            let lines := (shared.getD []).zipIdx
            columns := columns ++ [(lines.filter fun (_, i) => i % dashes == turn).map (·.1)]
            taken := taken + 1
          else
            match ← operandContent operand with
            | .ok content => columns := columns ++ [(splitLines 10 content).1]
            | .error fault =>
                report (plainComplaint operand fault)
                status := 1
      if status != 0 && !options.has ["s", "serial"] then return status
      else
        let rows : List (List (List UInt8)) :=
          if options.has ["s", "serial"] then columns
          else
            let height := (columns.map List.length).foldl max 0
            let arrays := columns.map List.toArray
            (List.range height).map fun i => arrays.map fun column => column[i]?.getD []
        for row in rows do
          let count := row.length
          let pieces := row.zipIdx.map fun (field, i) =>
            if i + 1 < count then field ++ mark i else field
          emit (ofBytes (pieces.flatten ++ [10]))
        return status

/-! ## Single bytes -/

/-- What a set of bytes is spelled of. -/
inductive SetPart where
  | bytes (bytes : List UInt8)
  | named (byteClass : ByteClass)
  /-- A byte again and again: so many times, or as often as is needed. -/
  | again (b : UInt8) (count : Nat)

/-- The byte at the start of a text, with escapes. -/
def readSetByte : List UInt8 → Option (UInt8 × List UInt8)
  | [] => none
  | [92] => some (92, [])
  | 92 :: rest =>
      let digits := (rest.take 3).takeWhile fun b => 48 ≤ b && b ≤ 55
      let spelled : List (UInt8 × UInt8) :=
        [(97, 7), (98, 8), (102, 12), (110, 10), (114, 13), (116, 9), (118, 11), (92, 92)]
      if !digits.isEmpty then
        some (UInt8.ofNat (digits.foldl (fun n b => 8 * n + (b.toNat - 48)) 0),
          rest.drop digits.length)
      else
        match rest with
        | b :: after => some ((spelled.lookup b).getD b, after)
        | [] => none
  | b :: rest => some (b, rest)

/-- Reads the parts of a set; `fuel` bounds their number. -/
def readSetParts (fuel : Nat) (text : List UInt8) : Except String (List SetPart) :=
  match fuel with
  | 0 => .ok []
  | fuel + 1 => do
      match text with
      | [] => return []
      | 91 :: 58 :: rest =>
          let name := rest.takeWhile (· != 58)
          match rest.drop name.length with
          | 58 :: 93 :: after =>
              match ByteClass.ofName? (bytesText name) with
              | some byteClass => return .named byteClass :: (← readSetParts fuel after)
              | none => .error s!"invalid character class {quote (bytesText name)}"
          | _ => return .bytes [91] :: (← readSetParts fuel (58 :: rest))
      | 91 :: 61 :: b :: 61 :: 93 :: rest => return .bytes [b] :: (← readSetParts fuel rest)
      | text =>
          match repeated? text with
          | some (part, rest) => return part :: (← readSetParts fuel rest)
          | none =>
              match readSetByte text with
              | none => return []
              | some (first, 45 :: rest) =>
                  match readSetByte rest with
                  | none => return .bytes [first, 45] :: []
                  | some (last, after) =>
                      if last < first then
                        .error (s!"range-endpoints of '{shown first}-{shown last}' are in " ++
                          "reverse collating sequence order")
                      else
                        let bytes := (List.range (last.toNat + 1 - first.toNat)).map fun i =>
                          UInt8.ofNat (first.toNat + i)
                        return .bytes bytes :: (← readSetParts fuel after)
              | some (b, rest) => return .bytes [b] :: (← readSetParts fuel rest)
where
  shown (b : UInt8) : String := bytesText [b]
  /-- A byte with a number of times in brackets. -/
  repeated? (text : List UInt8) : Option (SetPart × List UInt8) := do
    match text with
    | 91 :: rest =>
        let (b, after) ← readSetByte rest
        match after with
        | 42 :: after =>
            let digits := after.takeWhile fun b => 48 ≤ b && b ≤ 57
            let base := if digits.head? == some 48 then 8 else 10
            match after.drop digits.length with
            | 93 :: after =>
                return (.again b (digits.foldl (fun n d => base * n + (d.toNat - 48)) 0), after)
            | _ => none
        | _ => none
    | _ => none

/-- The bytes of a set, where what is needed to come to a length is filled in. -/
def setBytes (length : Nat) (parts : List SetPart) : List UInt8 :=
  let all := (List.range 256).map UInt8.ofNat
  let fixed := (parts.map fun
    | .bytes bytes => bytes.length
    | .named byteClass => (all.filter byteClass.contains).length
    | .again _ count => count).foldl (· + ·) 0
  parts.flatMap fun
    | .bytes bytes => bytes
    | .named byteClass => all.filter byteClass.contains
    | .again b count => List.replicate (if count == 0 then length - fixed else count) b

/-- Leaves one of several equal bytes in a row, if they are of a set. -/
def squeezeBytes (has : UInt8 → Bool) : List UInt8 → List UInt8
  | a :: b :: rest =>
      if a == b && has a then squeezeBytes has (b :: rest) else a :: squeezeBytes has (b :: rest)
  | bytes => bytes

/-- The byte of the second set at the place of a byte in the first; the last one is used for all
that are left over. -/
def exchange (source target : List UInt8) (b : UInt8) : UInt8 :=
  match (source.zipIdx.filter fun entry => entry.1 == b).getLast? with
  | some (_, place) => target[place]?.getD (target.getLast?.getD b)
  | none => b

/-- Changes, removes or squeezes bytes of the input channel. -/
def tr : Program := fun _ arguments =>
  withOptions 1
    { letters := "cCdst", long := ["complement", "delete", "squeeze-repeats", "truncate-set1"]
      anywhere := false } arguments fun options operands => do
      let deletes := options.has ["d", "delete"]
      let squeezes := options.has ["s", "squeeze-repeats"]
      let most := if deletes && !squeezes then 1 else 2
      let least := if deletes == squeezes then 2 else 1
      let advice (message hint : String) : Action Nat := do
        report message
        say 2 s!"{hint}\n"
        adviseHelp
        return 1
      match operands with
      | [] => misuse 1 "missing operand"
      | operands =>
          if operands.length < least then
            let message := s!"missing operand after {quote (operands.headD default)}"
            advice message (if squeezes then
              "Two strings must be given when both deleting and squeezing repeats."
              else "Two strings must be given when translating.")
          else if most < operands.length then
            let message := s!"extra operand {quote (operands[most]?.getD default)}"
            if operands.length == 2 then
              advice message "Only one string may be given when deleting without squeezing repeats."
            else misuse 1 message
          else
            let parse (text : String) : Except String (List SetPart) :=
              readSetParts (text.utf8ByteSize + 1) text.toUTF8.data.toList
            match parse (operands.headD ""), (operands[1]?).mapM parse with
            | .error message, _ | _, .error message =>
                report message
                return 1
            | .ok first, .ok second? =>
                if !deletes && second?.any List.isEmpty then
                  report "when not truncating set1, string2 must be non-empty"
                  return 1
                else
                  let bytes := (← readAll 0).data.toList
                  emit (ofBytes (change options deletes squeezes first second? bytes))
                  return 0
where
  change (options : GivenOptions) (deletes squeezes : Bool) (first : List SetPart)
      (second? : Option (List SetPart)) (bytes : List UInt8) : List UInt8 :=
    let own := setBytes 0 first
    let source := if options.has ["c", "C", "complement"] then
        ((List.range 256).map UInt8.ofNat).filter fun b => !own.contains b
      else own
    let target := second?.map (setBytes source.length)
    let members := Array.ofFn fun (i : Fin 256) => source.contains (UInt8.ofNat i.val)
    let isSource (b : UInt8) : Bool := members[b.toNat]?.getD false
    let source : List UInt8 := if options.has ["t", "truncate-set1"] then
        source.take (target.getD source).length
      else source
    let table : Array UInt8 := Array.ofFn fun (i : Fin 256) =>
      exchange source (target.getD source) (UInt8.ofNat i.val)
    let changed :=
      if deletes then bytes.filter (!isSource ·)
      else bytes.map fun b => table[b.toNat]?.getD b
    let squeezed := target.getD source
    if squeezes then squeezeBytes squeezed.contains changed else changed

/-! ## Widths -/

/-- The width of a line after a byte. -/
def widthAfter (width : Nat) (b : UInt8) : Nat :=
  if b == 9 then width / 8 * 8 + 8
  else if b == 8 then width - 1
  else if b == 13 then 0
  else width + 1

/-- Breaks a line at a width; `line` is the line before, the last byte first. -/
def foldLine (limit : Nat) (atBlanks : Bool) (fuel : Nat) (line : List UInt8) (width : Nat)
    (bytes : List UInt8) : List UInt8 :=
  match fuel with
  | 0 => []
  | fuel + 1 =>
      match bytes with
      | [] => line.reverse
      | b :: rest =>
          let next := widthAfter width b
          if limit < next && !line.isEmpty then
            let kept := line.dropWhile (· != 32)
            if atBlanks && !kept.isEmpty then
              let moved := line.take (line.length - kept.length)
              kept.reverse ++ [10] ++
                foldLine limit atBlanks fuel moved
                  (moved.reverse.foldl widthAfter 0) (b :: rest)
            else line.reverse ++ [10] ++ foldLine limit atBlanks fuel [] 0 (b :: rest)
          else foldLine limit atBlanks fuel (b :: line) next rest

/-- Breaks long lines. -/
def fold : Program := fun _ arguments =>
  withOptions 1 { letters := "bs", marked := "w", long := ["bytes", "spaces", "width="] }
    (expandWidth arguments) fun options operands => do
      let text := (options.last? ["w", "width"]).getD "80"
      match text.toNat? with
      | none | some 0 =>
          report s!"invalid number of columns: {quote text}"
          return 1
      | some width =>
          withContents 1 plainComplaint operands fun content =>
            emit (ofBytes ((byteLines content).flatMap fun line =>
              let bare := line.filter (· != 10)
              foldLine width (options.has ["s", "spaces"]) (2 * bare.length + 2) [] 0 bare ++
                line.filter (· == 10)))
where
  expandWidth (arguments : List String) : List String :=
    arguments.map fun argument =>
      match argument.toList with
      | '-' :: c :: rest =>
          if (c :: rest).all Char.isDigit then "-w" ++ String.ofList (c :: rest) else argument
      | _ => argument

/-- Bytes with blanks in the place of tabs. -/
def expandTabs (size width : Nat) : List UInt8 → List UInt8
  | [] => []
  | 9 :: rest =>
      let count := size - width % size
      List.replicate count 32 ++ expandTabs size (width + count) rest
  | 10 :: rest => 10 :: expandTabs size 0 rest
  | b :: rest => b :: expandTabs size (width + 1) rest

/-- Writes blanks in the place of tabs. -/
def expand : Program := fun _ arguments =>
  withOptions 1 { letters := "i", marked := "t", long := ["initial", "tabs="] } arguments
    fun options operands => do
      let size := ((options.last? ["t", "tabs"]).bind String.toNat?).getD 8
      withContents 1 plainComplaint operands fun content =>
        emit (ofBytes (expandTabs (max size 1) 0 content.data.toList))

/-- Writes tabs in the place of the blanks at the start of lines. -/
def unexpand : Program := fun _ arguments =>
  withOptions 1 { letters := "a", marked := "t", long := ["all", "first-only", "tabs="] } arguments
    fun options operands => do
      let size := max (((options.last? ["t", "tabs"]).bind String.toNat?).getD 8) 1
      withContents 1 plainComplaint operands fun content =>
        emit (ofBytes ((byteLines content).flatMap fun line =>
          let gap := line.takeWhile fun b => b == 32 || b == 9
          let width := gap.foldl (fun width b =>
            if b == 9 then (width / size + 1) * size else width + 1) 0
          List.replicate (width / size) 9 ++ List.replicate (width % size) 32 ++
            line.drop gap.length))

/-! ## Counts and neighbours -/

/-- How many words there are in some bytes; `inWord` tells whether one has begun. -/
def countWords (inWord : Bool) : List UInt8 → Nat
  | [] => 0
  | b :: rest =>
      if b == 32 || (9 ≤ b && b ≤ 13) then countWords false rest
      else (if inWord then 0 else 1) + countWords true rest

/-- Counts lines, words and bytes. -/
def wc : Program := fun _ arguments =>
  withOptions 1
    { letters := "lwcmL", long := ["lines", "words", "bytes", "chars", "max-line-length"] }
    arguments fun options operands => do
      let machine ← getThe Machine
      let chosen := if options.isEmpty then ["l", "w", "c"] else
        [["l", "lines"], ["w", "words"], ["m", "chars"], ["c", "bytes"],
          ["L", "max-line-length"]].filterMap fun names =>
            if options.has names then names.head? else none
      let inputs := if operands.isEmpty then ["-"] else operands
      let sizeOfInput (operand : String) : Option (Option Nat) :=
        if operand == "-" then
          match machine.opened? 0 with
          | some (_, .file location _ _) =>
              match machine.world.files.node? location with
              | some (.file content _) => some (some content.size)
              | _ => some none
          | _ => some none
        else
          match machine.entry operand true with
          | .ok (_, .node (.file content _)) => some (some content.size)
          | .ok _ => some none
          | .error _ => if (device? operand).isSome then some none else none
      let sizes := inputs.map sizeOfInput
      let width :=
        if (inputs.length == 1 && chosen.length == 1) || (sizes.headD none).isNone then 1
        else
          let total := (sizes.filterMap id).filterMap id |>.foldl (· + ·) 0
          max (toString total).length (if sizes.any (· == some none) then 7 else 1)
      let line (counts : List Nat) (name : String) : String :=
        let title := if name.isEmpty then "" else " " ++ name
        " ".intercalate (counts.map (aligned width)) ++ title ++ "\n"
      let mut status := 0
      let mut totals : List Nat := chosen.map fun _ => 0
      for operand in inputs do
        let name := if operands.isEmpty then "" else operand
        match ← operandContent operand with
        | .error fault =>
            report (plainComplaint operand fault)
            status := 1
            if fault == .isDirectory then say 1 (line (chosen.map fun _ => 0) name)
        | .ok content =>
            let counts := chosen.map (countOf content)
            totals := (chosen.zip (totals.zip counts)).map fun (kind, total, count) =>
              if kind == "L" then max total count else total + count
            say 1 (line counts name)
      if 1 < inputs.length then say 1 (line totals "total")
      return status
where
  aligned (width number : Nat) : String :=
    let digits := toString number
    String.ofList (List.replicate (width - digits.length) ' ') ++ digits
  countOf (content : ByteArray) (kind : String) : Nat :=
    let bytes := content.data.toList
    match kind with
    | "l" => bytes.count 10
    | "w" => countWords false bytes
    | "L" => ((splitLines 10 content).1.map fun line => line.foldl widthAfter 0).foldl max 0
    | _ => bytes.length

/-- Leaves one of several equal lines in a row. -/
def uniq : Program := fun _ arguments =>
  withOptions 1
    { letters := "cdDiuz", marked := "fsw"
      long := ["count", "repeated", "all-repeated?", "skip-fields=", "ignore-case", "skip-chars=",
        "unique", "zero-terminated", "check-chars=", "group?"] } arguments
    fun options operands => do
      match operands with
      | _ :: _ :: extra :: _ => misuse 1 s!"extra operand {quote extra}"
      | operands =>
          match ← operandContent (operands.headD "-") with
          | .error fault =>
              report (plainComplaint (operands.headD "-") fault)
              return 1
          | .ok content =>
              let ending : UInt8 := if options.has ["z", "zero-terminated"] then 0 else 10
              let (lines, _) := splitLines ending content
              let number (names : List String) : Nat :=
                ((options.last? names).bind String.toNat?).getD 0
              let key (line : List UInt8) : List UInt8 :=
                let rest := (skipFields (number ["f", "skip-fields"]) line).drop
                  (number ["s", "skip-chars"])
                let rest := match (options.last? ["w", "check-chars"]).bind String.toNat? with
                  | some width => rest.take width
                  | none => rest
                if options.has ["i", "ignore-case"] then rest.map lowerByte else rest
              let groups := lines.splitBy fun a b => key a == key b
              let all := options.has ["D", "all-repeated"]
              let shown := groups.filter fun group =>
                if all || options.has ["d", "repeated"] then
                  1 < group.length && !options.has ["u", "unique"]
                else if options.has ["u", "unique"] then group.length == 1
                else true
              let pieces := shown.flatMap fun group =>
                let first := group.headD []
                if all then group.map (· ++ [ending])
                else if options.has ["c", "count"] then
                  let digits := toString group.length
                  let gap := String.ofList (List.replicate (7 - digits.length) ' ')
                  [(gap ++ digits ++ " ").toUTF8.data.toList ++ first ++ [ending]]
                else [first ++ [ending]]
              let result := ofBytes pieces.flatten
              match operands with
              | [_, target] =>
                  match ← writeFile target false result with
                  | none => return 0
                  | some fault =>
                      report (plainComplaint target fault)
                      return 1
              | _ =>
                  emit result
                  return 0
where
  /-- A line without so many fields at its start. -/
  skipFields : Nat → List UInt8 → List UInt8
    | 0, line => line
    | count + 1, line =>
        let isBlank (b : UInt8) : Bool := b == 32 || b == 9
        skipFields count ((line.dropWhile isBlank).dropWhile (!isBlank ·))

end Groundwork.Shell.Program
