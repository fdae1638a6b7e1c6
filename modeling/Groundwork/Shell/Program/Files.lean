import Groundwork.Shell.Builtin
import Groundwork.Shell.Program.Entry

/-!
Programs that show, make and remove files, and that change their rights and sizes.
-/

namespace Groundwork.Shell.Program

/-! ## Content -/

/-- How lines are shown. -/
structure LineStyle where
  numbered : Bool := false
  /-- Only lines that are not empty get a number. -/
  skipsEmpty : Bool := false
  squeezed : Bool := false
  ends : Bool := false
  tabs : Bool := false
  visible : Bool := false

/-- A byte as it can be seen. -/
def visibleByte (style : LineStyle) (b : UInt8) : List UInt8 :=
  let plain (b : UInt8) : List UInt8 :=
    if b == 127 then [94, 63] else if b < 32 then [94, b + 64] else [b]
  if b == 9 then if style.tabs then [94, 73] else [9]
  else if b == 10 || !style.visible then [b]
  else if b < 128 then plain b
  else [77, 45] ++ plain (b - 128)

/-- The lines of some bytes in a style; the first argument is the number of the last line that got
one, and the second one how many empty lines came before. -/
def styleLines (style : LineStyle) (number empties : Nat) : List (List UInt8) → List UInt8
  | [] => []
  | line :: rest =>
      let bare := line.filter (· != 10)
      let isEmpty := line == [10]
      if style.squeezed && isEmpty && 0 < empties then styleLines style number (empties + 1) rest
      else
        let counted := style.numbered && !(style.skipsEmpty && isEmpty)
        let number := if counted then number + 1 else number
        let digits := toString number
        let lead := if counted then
            List.replicate (6 - digits.length) 32 ++ digits.toUTF8.data.toList ++ [9]
          else []
        let shown := bare.flatMap (visibleByte style)
        let ending := if line.getLast? == some 10 then if style.ends then [36, 10] else [10] else []
        lead ++ shown ++ ending ++ styleLines style number (if isEmpty then empties + 1 else 0) rest

/-- Writes the content of files one after the other. -/
def cat : Program := fun _ arguments =>
  withOptions 1
    { letters := "nbsAETvetu"
      long := ["number", "number-nonblank", "squeeze-blank", "show-all", "show-ends", "show-tabs",
        "show-nonprinting"] } arguments fun options operands => do
      let style : LineStyle :=
        { numbered := options.has ["n", "number", "b", "number-nonblank"]
          skipsEmpty := options.has ["b", "number-nonblank"]
          squeezed := options.has ["s", "squeeze-blank"]
          ends := options.has ["A", "show-all", "E", "show-ends", "e"]
          tabs := options.has ["A", "show-all", "T", "show-tabs", "t"]
          visible := options.has ["A", "show-all", "v", "show-nonprinting", "e", "t"] }
      let plain := options.all fun option => option.1 == "u"
      let mut all : List UInt8 := []
      let mut status := 0
      for operand in (if operands.isEmpty then ["-"] else operands) do
        if ← isOwnOutput operand then
          report s!"{operand}: input file is output file"
          status := 1
        else
          match ← operandContent operand with
          | .ok content =>
              if plain then emit content else all := all ++ content.data.toList
          | .error fault =>
              report (plainComplaint operand fault)
              status := 1
      if !plain then emit (ofBytes (styleLines style 0 0 (byteLines (ofBytes all))))
      return status
where
  /-- Whether an operand is the file that the output goes to, and holds something. -/
  isOwnOutput (operand : String) : Action Bool := do
    let machine ← getThe Machine
    match machine.opened? 1, machine.place operand with
    | some (_, .file location _ _), .ok (.taken other (.file content _)) =>
        return operand != "-" && location == other && !content.isEmpty
    | _, _ => return false

/-- Writes the input channel to files and to the output channel. -/
def tee : Program := fun _ arguments =>
  withOptions 1
    { letters := "aip", long := ["append", "ignore-interrupts", "output-error?"] } arguments
    fun options operands => do
      let content ← readAll 0
      emit content
      forOperands operands fun operand => do
        match ← writeFile operand (options.has ["a", "append"]) content with
        | none => return 0
        | some fault =>
            report (plainComplaint operand fault)
            return 1

/-! ## Sizes -/

/-- Makes files that are not there. -/
def touch : Program := fun _ arguments =>
  withOptions 1
    { letters := "acmfh", marked := "dtr"
      long := ["no-create", "date=", "reference=", "time=", "no-dereference"] } arguments
    fun options operands => do
      if operands.isEmpty then misuse 1 "missing file operand"
      else
        forOperands operands fun operand => do
          let machine ← getThe Machine
          match machine.place operand with
          | .ok (.taken _ (.file ..)) => return 0
          | .ok (.taken ..) => return 0
          | found =>
              if operand == "-" || isDeviceName operand then return 0
              else if found.toOption.isSome && options.has ["c", "no-create"] then return 0
              else
                match ← writeFile operand false .empty with
                | none => return 0
                | some .notDirectory =>
                    report s!"setting times of {quote operand}: {reason .notDirectory}"
                    return 1
                | some fault =>
                    if fault == .notFound && options.has ["c", "no-create"] then return 0
                    else
                      report s!"cannot touch {quote operand}: {reason fault}"
                      return 1
where
  isDeviceName (operand : String) : Bool := (device? operand).isSome

/-- A size in bytes with a unit at its end. -/
def sizeOf? (text : List Char) : Option Nat :=
  let digits := text.takeWhile Char.isDigit
  let unit? : Option Nat :=
    match String.ofList (text.drop digits.length) with
    | "" | "c" => some 1
    | "b" => some 512
    | "kB" | "KB" => some 1000
    | "k" | "K" | "KiB" => some 1024
    | "MB" => some 1000000
    | "m" | "M" | "MiB" => some 1048576
    | "GB" => some 1000000000
    | "G" | "GiB" => some 1073741824
    | _ => none
  if digits.isEmpty then none
  else unit?.map fun unit => unit * digits.foldl (fun n c => 10 * n + (c.toNat - 48)) 0

/-- Bytes cut or filled up with zeros to a size. -/
def resized (content : ByteArray) (size : Nat) : ByteArray :=
  if size ≤ content.size then content.extract 0 size
  else content ++ ofBytes (List.replicate (size - content.size) 0)

/-- Sets the sizes of files. -/
def truncate : Program := fun _ arguments =>
  withOptions 1
    { letters := "co", marked := "sr", long := ["no-create", "size=", "reference=", "io-blocks"] }
    arguments fun options operands => do
      match options.last? ["s", "size"], options.last? ["r", "reference"] with
      | none, none => misuse 1 "you must specify either '--size' or '--reference'"
      | some size, _ =>
          let (sign, digits) : Option Char × List Char :=
            match size.toList with
            | c :: rest => if "+-<>/%".toList.contains c then (some c, rest) else (none, c :: rest)
            | [] => (none, [])
          match sizeOf? digits with
          | none =>
              report s!"Invalid number: {quote size}"
              return 1
          | some number =>
              if operands.isEmpty then misuse 1 "missing file operand"
              else forOperands operands (resize options (change sign number))
      | none, some model =>
          match ← fileContent model with
          | .ok content => forOperands operands (resize options fun _ => content.size)
          | .error fault =>
              report s!"cannot stat {quote model}: {reason fault}"
              return 1
where
  change (sign : Option Char) (number size : Nat) : Nat :=
    match sign with
    | some '+' => size + number
    | some '-' => size - number
    | some '<' => min size number
    | some '>' => max size number
    | some '/' => size / max number 1 * number
    | some _ => (size + number - 1) / max number 1 * number
    | none => number
  resize (options : GivenOptions) (change : Nat → Nat) (operand : String) : Action Nat := do
    let before ← fileContent operand
    if before.toOption.isNone && options.has ["c", "no-create"] then return 0
    else
      let content := before.toOption.getD .empty
      match ← writeFile operand false (resized content (change content.size)) with
      | none => return 0
      | some fault =>
          report s!"cannot open {quote operand} for writing: {reason fault}"
          return 1

/-! ## Removal -/

/-- Removes files, and with `-r` directories with all that lies in them. -/
def rm : Program := fun _ arguments =>
  withOptions 1
    { letters := "fiIrRdv"
      long := ["force", "interactive?", "recursive", "dir", "verbose", "one-file-system",
        "no-preserve-root", "preserve-root?"] } arguments fun options operands => do
      let lastMode := (options.filter fun option =>
        ["f", "force", "i", "I", "interactive"].contains option.1).getLast?.map (·.1)
      let forced := lastMode == some "f" || lastMode == some "force"
      if operands.isEmpty then if forced then return 0 else misuse 1 "missing operand"
      else forOperands operands (remove options forced (lastMode == some "i"))
where
  tell (options : GivenOptions) (text : String) : Action Unit := do
    if options.has ["v", "verbose"] then say 1 s!"removed {text}\n"
  refuse (operand : String) (fault : FileFault) : Action Nat := do
    report s!"cannot remove {quote operand}: {reason fault}"
    return 1
  remove (options : GivenOptions) (forced asks : Bool) (operand : String) : Action Nat := do
    let machine ← getThe Machine
    let deep := options.has ["r", "R", "recursive"]
    let last := nameOfPath operand
    match machine.entry operand false with
    | .error fault =>
        if forced && (fault == .notFound || fault == .notDirectory) then return 0
        else refuse operand fault
    | .ok (location, entry) =>
        if entry.isDirectory && deep then
          if location.isEmpty then
            report s!"it is dangerous to operate recursively on {quote operand}"
            report "use --no-preserve-root to override this failsafe"
            return 1
          else if last == "." || last == ".." then
            report s!"refusing to remove '.' or '..' directory: skipping {quote operand}"
            return 1
          else removeTree options asks operand location entry
        else if entry.isDirectory then
          if !options.has ["d", "dir"] then refuse operand .isDirectory
          else if !(machine.entriesBelow location).isEmpty then refuse operand .notEmpty
          else if ← agreed asks s!"remove directory {quote operand}" then
            changeWorld (·.drop location)
            tell options s!"directory {quote operand}"
            return 0
          else return 0
        else
          if ← agreed asks s!"remove {kindText entry} {quote operand}" then
            changeWorld (·.drop location)
            tell options (quote operand)
          return 0
  agreed (asks : Bool) (question : String) : Action Bool := do
    if asks then confirm question else return true
  /-- Removes a directory with all that lies in it. -/
  removeTree (options : GivenOptions) (asks : Bool) (operand : String) (location : Location)
      (entry : Entry) : Action Nat := do
    let machine ← getThe Machine
    let trimmed := String.ofList (operand.toList.reverse.dropWhile (· == '/')).reverse
    let below := machine.tree 256 trimmed location
    let entered ← agreed (asks && !below.isEmpty) s!"descend into directory {quote operand}"
    if !entered then return 0
    else
      let mut kept : List Location := []
      for (path, place, entry) in below ++ [(operand, location, entry)] do
        if entry.isDirectory then
          if kept.any (Files.isWithin place ·) then kept := place :: kept
          else if ← agreed asks s!"remove directory {quote path}" then
            changeWorld (·.drop place)
            tell options s!"directory {quote path}"
          else kept := place :: kept
        else if ← agreed asks s!"remove {kindText entry} {quote path}" then
          changeWorld (·.drop place)
          tell options (quote path)
        else kept := place :: kept
      return 0

/-- Removes empty directories. -/
def rmdir : Program := fun _ arguments =>
  withOptions 1
    { letters := "pv", long := ["parents", "verbose", "ignore-fail-on-non-empty"] } arguments
    fun options operands => do
      if operands.isEmpty then misuse 1 "missing operand"
      else
        forOperands operands fun operand => do
          let paths := if options.has ["p", "parents"] then (pathsTo operand).reverse else [operand]
          removeAll options operand paths
where
  /-- Removes directories in order up to the first that cannot be removed. -/
  removeAll (options : GivenOptions) (operand : String) : List String → Action Nat
    | [] => return 0
    | path :: rest => do
        let machine ← getThe Machine
        if options.has ["v", "verbose"] then say 1 s!"rmdir: removing directory, {quote path}\n"
        let refuse (fault : FileFault) : Action Nat := do
          if fault == .notEmpty && options.has ["ignore-fail-on-non-empty"] then return 0
          else
            let kind := if path == operand then "" else "directory "
            report s!"failed to remove {kind}{quote path}: {reason fault}"
            return 1
        match machine.entry path false with
        | .error fault => refuse fault
        | .ok (location, entry) =>
            if !entry.isDirectory then refuse .notDirectory
            else if !(machine.entriesBelow location).isEmpty then refuse .notEmpty
            else
              changeWorld (·.drop location)
              removeAll options operand rest

/-! ## Directories -/

/-- Makes directories, and with `-p` those above them. -/
def mkdir : Program := fun _ arguments =>
  withOptions 1
    { letters := "pvZ", marked := "m", long := ["parents", "verbose", "mode="] } arguments
    fun options operands => do
      if operands.isEmpty then misuse 1 "missing operand"
      else
        forOperands operands fun operand => do
          if options.has ["p", "parents"] then makeAll options operand (pathsTo operand)
          else makeOne options operand
where
  refuse (operand : String) (fault : FileFault) : Action Nat := do
    report s!"cannot create directory {quote operand}: {reason fault}"
    return 1
  makeOne (options : GivenOptions) (operand : String) : Action Nat := do
    let machine ← getThe Machine
    if (machine.link? operand).isSome then refuse operand .exists
    else
      match ← changeFiles (·.makeDirectory (machine.path operand)) with
      | none =>
          if options.has ["v", "verbose"] then
            say 1 s!"{machine.program}: created directory {quote operand}\n"
          return 0
      | some fault => refuse operand fault
  makeAll (options : GivenOptions) (operand : String) : List String → Action Nat
    | [] => if operand.isEmpty then refuse operand .notFound else return 0
    | path :: rest => do
        let machine ← getThe Machine
        if machine.leadsToDirectory path then makeAll options operand rest
        else if machine.isThere path then
          refuse path (if rest.isEmpty then .exists else .notDirectory)
        else
          match ← makeOne options path with
          | 0 => makeAll options operand rest
          | status => return status

/-! ## Rights -/

/-- A change of rights. -/
inductive RightsChange where
  | all (bits : Nat)
  /-- What is done to the rights of some users: set, add or take away. With `sensible` the right to
  run is given only to what has it already and to directories. -/
  | part (users operation : Nat) (sign : Char) (sensible : Bool)

/-- The bits of letters of users, in threes. -/
def usersMask (letters : List Char) : Nat :=
  letters.foldl (fun bits c =>
    bits ||| (match c with
      | 'u' => 448
      | 'g' => 56
      | 'o' => 7
      | _ => 511)) 0

/-- Reads what is done with rights after the letters of users; `fuel` bounds the parts. -/
def readOperations (fuel users mask : Nat) (text : List Char) : Option (List RightsChange) :=
  match fuel with
  | 0 => none
  | fuel + 1 =>
      match text with
      | [] => some []
      | sign :: rest =>
          if !"+-=".toList.contains sign then none
          else
            let letters := rest.takeWhile ("rwxXst".toList.contains ·)
            let after := rest.drop letters.length
            let bits := letters.foldl (fun bits c =>
              bits ||| (match c with
                | 'r' => 292
                | 'w' => 146
                | 'x' => 73
                | _ => 0)) 0
            (readOperations fuel users mask after).map fun others =>
              .part users (bits &&& mask) sign (letters.contains 'X') :: others

/-- The changes that one part of a mode spells. -/
def readModePart (mask : Nat) (part : List Char) : Option (List RightsChange) :=
  let users := part.takeWhile ("ugoa".toList.contains ·)
  let rest := part.drop users.length
  if rest.isEmpty then none
  else if users.isEmpty then readOperations (part.length + 1) 511 (511 - mask) rest
  else readOperations (part.length + 1) (usersMask users) (usersMask users) rest

/-- The changes that a mode spells; `mask` holds the rights that are not given if no users are
named. -/
def readMode (mask : Nat) (text : String) : Option (List RightsChange) :=
  let letters := text.toList
  if letters.isEmpty then none
  else if letters.all fun c => '0' ≤ c && c ≤ '7' then
    let value := letters.foldl (fun n c => 8 * n + (c.toNat - 48)) 0
    if value < 4096 then some [.all value] else none
  else
    ((Text.splitOn ',' letters).mapM (readModePart mask)).map List.flatten

/-- Rights after a change. -/
def RightsChange.apply (isDirectory : Bool) (rights : Nat) : RightsChange → Nat
  | .all bits => bits
  | .part users bits sign sensible =>
      let run := if sensible && (isDirectory || rights &&& 73 != 0) then users &&& 73 else 0
      let bits := bits ||| run
      match sign with
      | '+' => rights ||| bits
      | '-' => rights - (rights &&& bits)
      | _ => rights - (rights &&& users) ||| bits

/-- Sets the rights of files. -/
def chmod : Program := fun _ arguments => do
  let isMode (argument : String) : Bool :=
    match argument.toList with
    | '-' :: c :: rest => (c :: rest).all ("rwxXstugoa,+=-01234567".toList.contains ·) &&
        c != '-' && !(c :: rest).all (· == 'R')
    | _ => false
  let options := arguments.filter fun argument =>
    argument.toList.head? == some '-' && !isMode argument && argument != "-"
  let operands := arguments.filter fun argument => !options.contains argument
  withOptions 1
    { letters := "Rvcf"
      long := ["recursive", "verbose", "changes", "silent", "quiet", "reference=",
        "no-preserve-root", "preserve-root"] } options fun options _ => do
      let machine ← getThe Machine
      match options.last? ["reference"], operands with
      | none, [] => misuse 1 "missing operand"
      | none, [mode] => misuse 1 s!"missing operand after {quote mode}"
      | none, mode :: targets =>
          match readMode machine.mask mode with
          | none => misuse 1 s!"invalid mode: {quote mode}"
          | some changes => forOperands targets (change options changes)
      | some model, targets =>
          match machine.entry model true with
          | .ok (location, entry) =>
              forOperands targets (change options [.all (machine.rightsOf location entry)])
          | .error fault =>
              report s!"failed to get attributes of {quote model}: {reason fault}"
              return 1
where
  change (options : GivenOptions) (changes : List RightsChange) (operand : String)
      : Action Nat := do
    let machine ← getThe Machine
    match machine.entry operand true with
    | .error fault =>
        if !options.has ["f", "silent", "quiet"] then
          report s!"cannot access {quote operand}: {reason fault}"
        return 1
    | .ok (location, entry) =>
        set options changes operand location entry
        if entry.isDirectory && options.has ["R", "recursive"] then
          for (path, place, entry) in (machine.tree 256 operand location).reverse do
            if !entry.isLink then set options changes path place entry
        return 0
  set (options : GivenOptions) (changes : List RightsChange) (path : String)
      (location : Location) (entry : Entry) : Action Unit := do
    let machine ← getThe Machine
    let before := machine.rightsOf location entry
    let after := changes.foldl (RightsChange.apply entry.isDirectory) before
    let texts := s!"{octalText 4 after} ({rightsLetters after})"
    if before != after then
      changeWorld fun world =>
        let world := { world with rights := world.rights.insert location after }
        match entry with
        | .node (.file content _) =>
            { world with
              files := world.files.setNode location (.file content (after &&& 73 != 0)) }
        | _ => world
      if options.has ["v", "verbose", "c", "changes"] then
        say 1 (s!"mode of {quote path} changed from {octalText 4 before} " ++
          s!"({rightsLetters before}) to {texts}\n")
    else if options.has ["v", "verbose"] then
      say 1 s!"mode of {quote path} retained as {texts}\n"

/-- Gives files to another owner, of whom there is only one. -/
def chown (kind : String) : Program := fun _ arguments =>
  withOptions 1
    { letters := "RvcfhHLP", long := ["recursive", "verbose", "changes", "silent", "quiet"] }
    arguments fun options operands => do
      match operands with
      | [] => misuse 1 "missing operand"
      | [owner] => misuse 1 s!"missing operand after {quote owner}"
      | owner :: targets =>
          let names := (Text.splitOn ':' owner.toList).map String.ofList
          match names.find? fun name => !(["", "0", "root"].contains name) with
          | some name =>
              let kind := if names.head? == some name then kind else "group"
              report s!"invalid {kind}: {quote owner}"
              return 1
          | none =>
              forOperands targets fun operand => do
                match (← getThe Machine).entry operand true with
                | .ok _ => return 0
                | .error fault =>
                    if !options.has ["f", "silent", "quiet"] then
                      report s!"cannot access {quote operand}: {reason fault}"
                    return 1

/-! ## Fresh names -/

/-- Makes a file or directory under a name that is free, and tells the name. -/
def mktemp : Program := fun _ arguments =>
  withOptions 1
    { letters := "dqut", marked := "p"
      long := ["directory", "quiet", "dry-run", "suffix=", "tmpdir?"] } arguments
    fun options operands => do
      match operands with
      | _ :: _ :: _ => misuse 1 "too many templates"
      | operands =>
          let machine ← getThe Machine
          let pattern := operands.headD "tmp.XXXXXXXXXX"
          let marks := (pattern.toList.reverse.takeWhile (· == 'X')).length
          if marks < 3 then
            report s!"too few X's in template {quote pattern}"
            return 1
          else
            let chosen := options.last? ["p", "tmpdir"]
            let directory := match chosen, operands with
              | some directory, _ => if directory.isEmpty then "/tmp/" else directory ++ "/"
              | none, [] => ((machine.given.lookup "TMPDIR").getD "/tmp") ++ "/"
              | none, _ => if options.has ["t"] then "/tmp/" else ""
            let stem := String.ofList (pattern.toList.take (pattern.length - marks))
            let suffix := (options.last? ["suffix"]).getD ""
            let name (i : Nat) : String :=
              let digits := toString i
              directory ++ stem ++
                String.ofList (List.replicate (marks - digits.length) 'a') ++ digits ++ suffix
            let free := ((List.range 1000).map name).find? fun path => !machine.isThere path
            let path := free.getD (name 0)
            if options.has ["u", "dry-run"] then
              say 1 s!"{path}\n"
              return 0
            else
              let target := machine.path path
              let isDirectory := options.has ["d", "directory"]
              match ← changeFiles (if isDirectory then (·.makeDirectory target)
                else (·.write target .empty)) with
              | none =>
                  say 1 s!"{path}\n"
                  return 0
              | some fault =>
                  let kind := if isDirectory then "directory" else "file"
                  report s!"failed to create {kind} via template {quote pattern}: {reason fault}"
                  return 1

end Groundwork.Shell.Program
