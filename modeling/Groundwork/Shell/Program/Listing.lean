import Groundwork.Shell.Program.Files

/-!
Programs that tell what lies in directories, and what kind of files there are. Times are not kept:
everything was changed at one moment.
-/

namespace Groundwork.Shell.Program

/-! ## Facts -/

/-- How many bytes an entry takes. -/
def sizeOfEntry : Entry → Nat
  | .link target => target.utf8ByteSize
  | .node .directory => 4096
  | .node (.file content _) => content.size

/-- How many blocks of 1024 bytes an entry takes. -/
def blocksOf (entry : Entry) : Nat :=
  if entry.isLink then 0 else 4 * ((sizeOfEntry entry + 4095) / 4096)

/-- The letter of the kind of an entry. -/
def kindLetter : Entry → Char
  | .link _ => 'l'
  | .node .directory => 'd'
  | .node _ => '-'

/-- How many names lead to an entry. -/
def linkCount (machine : Machine) (location : Location) (entry : Entry) : Nat :=
  if entry.isDirectory then
    2 + ((machine.entriesBelow location).filter fun (_, below) => below.isDirectory).length
  else 1

/-- The rights of an entry with the letter of its kind. -/
def modeText (machine : Machine) (location : Location) (entry : Entry) : String :=
  String.singleton (kindLetter entry) ++ rightsLetters (machine.rightsOf location entry)

/-- The moment at which everything was changed. -/
def momentText : String := "Jan  1 00:00"

/-! ## Listings -/

/-- Something that is listed. -/
structure Listed where
  name : String
  location : Location
  entry : Entry

/-- A text brought to a width. -/
def alignRight (width : Nat) (text : String) : String :=
  String.ofList (List.replicate (width - text.length) ' ') ++ text

def alignLeft (width : Nat) (text : String) : String :=
  text ++ String.ofList (List.replicate (width - text.length) ' ')

/-- The greatest length of some texts. -/
def widest (texts : List String) : Nat := (texts.map String.length).foldl max 0

/-- A size with a unit. -/
def sizeText (human : Bool) (size : Nat) : String :=
  if !human || size < 1024 then toString size
  else scale size 1024 ["K", "M", "G", "T"]
where
  scale (size unit : Nat) : List String → String
    | [] => toString size
    | [name] => s!"{(size + unit - 1) / unit}{name}"
    | name :: rest =>
        let tenths := (10 * size + unit - 1) / unit
        if tenths < 100 then s!"{tenths / 10}.{tenths % 10}{name}"
        else if (size + unit - 1) / unit < 1024 then s!"{(size + unit - 1) / unit}{name}"
        else scale size (1024 * unit) rest

/-- The ending of a name from its last dot on. -/
def extensionOf (name : String) : String :=
  let reversed := name.toList.reverse
  let ending := reversed.takeWhile (· != '.')
  if ending.length < reversed.length then String.ofList ('.' :: ending.reverse) else ""

/-- A name in double quotes. -/
def doubleQuoted (name : String) : String :=
  "\"" ++ String.ofList (name.toList.flatMap fun c =>
    if c == '"' || c == '\\' then ['\\', c] else if c == '\n' then ['\\', 'n'] else [c]) ++ "\""

/-- A name with backslashes before what cannot be seen. -/
def escapedName (name : String) : String :=
  String.ofList (name.toList.flatMap fun c =>
    if c == ' ' || c == '\\' then ['\\', c]
    else if c == '\n' then ['\\', 'n']
    else if c == '\t' then ['\\', 't']
    else [c])

namespace Listing

/-- Whether an option decides on the form of the lines. -/
def isLong (options : GivenOptions) : Bool := options.has ["l", "n", "o", "g"]

/-- The mark after a name. -/
def markOf (options : GivenOptions) (machine : Machine) (listed : Listed) : String :=
  let classified := options.has ["F", "classify"]
  match listed.entry with
  | .node .directory => if classified || options.has ["p", "file-type"] then "/" else ""
  | .link _ => if classified && !isLong options then "@" else ""
  | .node (.file ..) =>
      if classified && machine.rightsOf listed.location listed.entry &&& 73 != 0 then "*" else ""

/-- A name as it is shown. -/
def nameText (options : GivenOptions) (name : String) : String :=
  if options.has ["Q", "quote-name"] then doubleQuoted name
  else if options.has ["b", "escape"] then escapedName name
  else name

/-- Listed entries in order. -/
def sorted (options : GivenOptions) (listed : List Listed) : List Listed :=
  let byName := listed.mergeSort fun a b => !(b.name < a.name)
  let kind := options.last? ["sort"]
  let ordered :=
    if options.has ["U", "f"] || kind == some "none" then listed
    else if options.has ["S"] || kind == some "size" then
      byName.mergeSort fun a b => sizeOfEntry b.entry ≤ sizeOfEntry a.entry
    else if options.has ["X"] || kind == some "extension" then
      byName.mergeSort fun a b => !(extensionOf b.name < extensionOf a.name)
    else byName
  let ordered := if options.has ["r", "reverse"] then ordered.reverse else ordered
  if options.has ["group-directories-first"] then
    ordered.filter (·.entry.isDirectory) ++ ordered.filter (!·.entry.isDirectory)
  else ordered

/-- The lines of some entries in long form. -/
def longLines (options : GivenOptions) (machine : Machine) (listed : List Listed) : List String :=
  let counts := listed.map fun entry => toString (linkCount machine entry.location entry.entry)
  let sizes := listed.map fun entry =>
    sizeText (options.has ["h", "human-readable"]) (sizeOfEntry entry.entry)
  let owner := if options.has ["n"] then "0" else "root"
  let owners := (if options.has ["g"] then [] else [owner]) ++
    (if options.has ["o", "G", "no-group"] then [] else [owner])
  (listed.zip (counts.zip sizes)).map fun (entry, count, size) =>
    let target := match entry.entry with
      | .link target => s!" -> {target}"
      | _ => ""
    let name := nameText options entry.name ++ markOf options machine entry ++ target
    " ".intercalate ([modeText machine entry.location entry.entry,
      alignRight (widest counts) count] ++ owners ++
      [alignRight (widest sizes) size, momentText, name])

/-- Names joined by commas on lines of 80 characters. -/
def commaLines (names : List String) : String :=
  let (text, _) := (names.zipIdx).foldl (fun (text, width) (name, i) =>
    let isLast := i + 1 == names.length
    let size := name.length + if isLast then 0 else 2
    if width != 0 && 80 ≤ width + size then (text ++ "\n" ++ name ++ ending isLast, size)
    else (text ++ (if i == 0 then "" else " ") ++ name ++ ending isLast, width + size)) ("", 0)
  if names.isEmpty then "" else text ++ "\n"
where
  ending (isLast : Bool) : String := if isLast then "" else ","

/-- Shows entries. -/
def display (options : GivenOptions) (listed : List Listed) : Action Unit := do
  let machine ← getThe Machine
  let lines := if isLong options then longLines options machine listed
    else listed.map fun entry => nameText options entry.name ++ markOf options machine entry
  let blocks := listed.map fun entry => toString (blocksOf entry.entry)
  let lines := if options.has ["s", "size"] then
      (lines.zip blocks).map fun (line, count) => s!"{alignRight (widest blocks) count} {line}"
    else lines
  let lines := if options.has ["i", "inode"] then
      (lines.zip listed).map fun (line, entry) => s!"{1000 + entry.location.length} {line}"
    else lines
  if options.has ["m"] && !isLong options then say 1 (commaLines lines)
  else say 1 (String.join (lines.map (· ++ "\n")))

/-- The entries in a directory that are listed. -/
def within (options : GivenOptions) (machine : Machine) (location : Location) : List Listed :=
  let all := options.has ["a", "all", "f"]
  let hides (name : String) : Bool :=
    let dotted := name.toList.head? == some '.'
    let ignored := options.any fun (option, pattern) =>
      let applies := ["I", "ignore"].contains option ||
        (option == "hide" && !all && !options.has ["A", "almost-all"])
      applies && (globOf pattern).accepts name
    (dotted && !all && !options.has ["A", "almost-all"]) || ignored ||
      (options.has ["B", "ignore-backups"] && name.toList.getLast? == some '~')
  let found := ((machine.entriesBelow location).filter (!hides ·.1)).map fun (name, entry) =>
    (⟨name, location ++ [name], entry⟩ : Listed)
  let dots : List Listed := if all then
      [⟨".", location, .node .directory⟩, ⟨"..", location.dropLast, .node .directory⟩]
    else []
  sorted options (dots ++ found)
where
  globOf (pattern : String) : Glob :=
    Glob.ofMarked (pattern.toUTF8.data.toList.map fun b => (b, false))

/-- Shows what lies in a directory, and with `-R` below it; `fuel` bounds the depth. `first` tells
whether nothing was shown before. -/
def showDirectory (options : GivenOptions) (fuel : Nat) (titled first : Bool) (path : String)
    (location : Location) : Action Unit :=
  match fuel with
  | 0 => return ()
  | fuel + 1 => do
      let machine ← getThe Machine
      let listed := within options machine location
      if !first then say 1 "\n"
      if titled then say 1 s!"{path}:\n"
      if isLong options || options.has ["s", "size"] then
        let total := (listed.map fun entry => blocksOf entry.entry).foldl (· + ·) 0
        say 1 ("total " ++ sizeText (options.has ["h"]) total ++ "\n")
      display options listed
      if options.has ["R", "recursive"] then
        for entry in listed do
          if entry.entry.isDirectory && entry.name != "." && entry.name != ".." then
            showDirectory options fuel titled false (joinName path entry.name) entry.location

end Listing

/-- Tells the names of files, and of what lies in directories. -/
def ls : Program := fun _ arguments =>
  withOptions 2
    { letters := "1aAlrRdStUXFpsimQnghoBkLcufNbqCxGvHDZ", marked := "ITw"
      long := ["all", "almost-all", "recursive", "reverse", "directory", "classify?", "file-type",
        "size", "inode", "quote-name", "human-readable", "ignore-backups", "ignore=", "hide=",
        "sort=", "color?", "group-directories-first", "escape", "literal", "no-group",
        "dereference", "format=", "time=", "time-style=", "width=", "indicator-style=", "full-time",
        "numeric-uid-gid", "author", "si", "zero"] } arguments fun options operands => do
      let machine ← getThe Machine
      let bare := options.has ["d", "directory"]
      let follows := !(bare || Listing.isLong options || options.has ["F", "classify"]) ||
        options.has ["L", "H", "dereference"]
      let mut status := 0
      let mut files : List Listed := []
      let mut directories : List Listed := []
      for operand in (if operands.isEmpty then ["."] else operands) do
        let found := match machine.entry operand follows with
          | .error _ => machine.entry operand false
          | found => found
        match found with
        | .error fault =>
            report s!"cannot access {quote operand}: {reason fault}"
            status := 2
        | .ok (location, entry) =>
            if entry.isDirectory && !bare then
              directories := directories ++ [⟨operand, location, entry⟩]
            else files := files ++ [⟨operand, location, entry⟩]
      if !files.isEmpty then Listing.display options (Listing.sorted options files)
      let titled := 1 < operands.length || options.has ["R", "recursive"]
      let mut first := files.isEmpty
      for directory in Listing.sorted options directories do
        Listing.showDirectory options 256 titled first directory.name directory.location
        first := false
      return status

/-! ## Single files -/

/-- A fact about an entry by its letter. -/
def factText (machine : Machine) (name : String) (location : Location) (entry : Entry)
    (letter : Char) : String :=
  let rights := machine.rightsOf location entry
  let kindBits := match entry with
    | .link _ => 40960
    | .node .directory => 16384
    | .node _ => 32768
  match letter with
  | 'n' => name
  | 'N' => match entry with
    | .link target => s!"{quote name} -> {quote target}"
    | _ => quote name
  | 's' => toString (sizeOfEntry entry)
  | 'F' => kindText entry
  | 'a' => octalText 1 rights
  | 'A' => modeText machine location entry
  | 'u' | 'g' | 't' | 'T' | 'W' | 'X' | 'Y' | 'Z' | 'd' => "0"
  | 'U' | 'G' => "root"
  | 'h' => toString (linkCount machine location entry)
  | 'b' => toString (2 * blocksOf entry)
  | 'B' => "512"
  | 'o' => "4096"
  | 'f' => String.ofList (Nat.toDigits 16 (kindBits + rights))
  | 'i' => toString (1000 + location.length)
  | 'm' => "/"
  | '%' => "%"
  | _ => "?"

/-- Facts about an entry in the places of percent signs with letters. -/
def fillFacts (fact : Char → String) : List Char → String
  | '%' :: c :: rest => fact c ++ fillFacts fact rest
  | c :: rest => String.singleton c ++ fillFacts fact rest
  | [] => ""

/-- Tells facts about files. -/
def stat : Program := fun _ arguments =>
  withOptions 1
    { letters := "Lft", marked := "c"
      long := ["format=", "printf=", "dereference", "file-system", "terse"] } arguments
    fun options operands => do
      if operands.isEmpty then misuse 1 "missing operand"
      else
        forOperands operands fun operand => do
          let machine ← getThe Machine
          match machine.entry operand (options.has ["L", "dereference"]) with
          | .error fault =>
              report s!"cannot statx {quote operand}: {reason fault}"
              return 1
          | .ok (location, entry) =>
              let fact := factText machine operand location entry
              match options.last? ["printf"], options.last? ["c", "format"] with
              | some format, _ =>
                  let (bytes, _) := Format.unescape { hex := true, quote := true } format
                  say 1 (fillFacts fact (bytesText bytes).toList)
              | none, some format => say 1 (fillFacts fact format.toList ++ "\n")
              | none, none =>
                  say 1 (fillFacts fact
                    ("  File: %N\n  Size: %s\t\tBlocks: %b IO Block: %o %F\n" ++
                      "Access: (%a/%A)  Uid: ( %u/ %U)   Gid: ( %g/ %G)\n").toList)
              return 0

end Groundwork.Shell.Program
