import Groundwork.Shell.Program.Files

/-!
Programs that copy and move files, and that make and follow links.
-/

namespace Groundwork.Shell.Program

/-! ## Targets -/

/-- A path with the last name of another one after it. -/
def intoDirectory (directory source : String) : String :=
  joinName directory (nameOfPath source)

/-- Sources with the paths that they go to. -/
def withTargets (target? : Option String) (plain : Bool) (operands : List String)
    : Action (Except Nat (List (String × String))) := do
  let machine ← getThe Machine
  let refuse (kind target : String) (fault : FileFault)
      : Action (Except Nat (List (String × String))) := do
    report s!"{kind} {quote target}: {reason fault}"
    return .error 1
  let within (kind target : String) (sources : List String)
      : Action (Except Nat (List (String × String))) := do
    match machine.entry target true with
    | .error fault => refuse kind target fault
    | .ok (_, entry) =>
        if entry.isDirectory then
          return .ok (sources.map fun source => (source, intoDirectory target source))
        else refuse kind target .notDirectory
  match target?, operands.reverse with
  | _, [] => .error <$> misuse 1 "missing file operand"
  | some target, _ => within "target directory" target operands
  | none, [source] =>
      .error <$> misuse 1 s!"missing destination file operand after {quote source}"
  | none, [target, source] =>
      if !plain && machine.leadsToDirectory target then
        return .ok [(source, intoDirectory target source)]
      else return .ok [(source, target)]
  | none, target :: sources =>
      if plain then .error <$> misuse 1 s!"extra operand {quote (operands[2]?.getD target)}"
      else within "target" target sources.reverse

/-- Does something with each source and its target. -/
def forTargets (pairs : List (String × String)) (step : String → String → Action Nat)
    : Action Nat :=
  pairs.foldlM (fun worst (source, target) => return max worst (← step source target)) 0

/-- Where something is to go: a location that is taken or free. -/
inductive Goal where
  | taken (location : Location) (entry : Entry)
  | free (location : Location)

/-- Where a path leads to that something is to be written at. -/
def goalOf (machine : Machine) (target : String) (follow isDirectory : Bool)
    : Except FileFault Goal :=
  match machine.entry target follow with
  | .ok (location, entry) => .ok (.taken location entry)
  | .error fault =>
      match machine.place target with
      | .ok (.free parent name slash) =>
          if slash && !isDirectory then .error .notDirectory else .ok (.free (parent ++ [name]))
      | _ => .error fault

/-- Keeps what lies at a location under another name, if asked for. -/
def keepBackup (wanted : Bool) (location : Location) : Action Unit := do
  match wanted, location.getLast? with
  | true, some name =>
      changeWorld fun world => world.graft location (location.dropLast ++ [name ++ "~"])
  | _, _ => return ()

/-! ## Copies -/

/-- How files are copied. -/
structure CopyStyle where
  deep : Bool
  /-- Links are copied as what they lead to. -/
  follows : Bool
  verbose : Bool
  asks : Bool
  /-- What is there stays. -/
  keeps : Bool
  backup : Bool
  /-- Links are made instead of copies. -/
  linked : Bool

namespace CopyStyle

def tell (style : CopyStyle) (source target : String) : Action Unit := do
  if style.verbose then say 1 s!"{quote source} -> {quote target}\n"

/-- Whether the content of a target may be replaced. -/
def mayReplace (style : CopyStyle) (target : String) : Action Bool := do
  if style.keeps then return false
  else if style.asks then confirm s!"overwrite {quote target}"
  else return true

def fail (message : String) : Action Nat := do
  report message
  return 1

/-- Copies a file or a link. -/
def copyLeaf (style : CopyStyle) (source target : String) (origin : Location) (entry : Entry)
    : Action Nat := do
  let machine ← getThe Machine
  let put (location : Location) : Action Nat := do
    changeWorld fun world =>
      match entry with
      | .node (.file content executable) =>
          if style.linked then world.put location (.link source)
          else
            match machine.entryAt? location with
            | some (.node (.file _ executable)) =>
                world.put location (.node (.file content executable))
            | _ =>
                let world := (world.drop location).put location (.node (.file content executable))
                match machine.world.rights.get? origin with
                | some bits =>
                    { world with
                      rights := world.rights.insert location (bits - (bits &&& machine.mask)) }
                | none => world
      | entry => (world.drop location).put location entry
    style.tell source target
    return 0
  match goalOf machine target (!entry.isLink) false with
  | .error fault =>
      let kind := if entry.isLink || style.linked then "symbolic link" else "regular file"
      fail s!"cannot create {kind} {quote target}: {reason fault}"
  | .ok (.free location) =>
      if (machine.link? target).isSome && !entry.isLink then
        fail s!"not writing through dangling symlink {quote target}"
      else put location
  | .ok (.taken location found) =>
      if location == origin then
        fail s!"{quote source} and {quote target} are the same file"
      else if found.isDirectory then
        fail s!"cannot overwrite directory {quote target} with non-directory"
      else if ← style.mayReplace target then
        keepBackup style.backup location
        put location
      else return 0

/-- Copies what a path leads to; `fuel` bounds the depth, and nothing is copied into a copy from
`top`. -/
def copy (style : CopyStyle) (fuel : Nat) (top : Option Location) (source target : String)
    : Action Nat :=
  match fuel with
  | 0 => return 1
  | fuel + 1 => do
      let machine ← getThe Machine
      match machine.entry source style.follows with
      | .error fault => fail s!"cannot stat {quote source}: {reason fault}"
      | .ok (origin, entry) =>
          if !entry.isDirectory then style.copyLeaf source target origin entry
          else if !style.deep then
            fail s!"-r not specified; omitting directory {quote source}"
          else
            let into (location : Location) (made : Bool) : Action Nat := do
              if made then
                changeWorld (·.put location (.node .directory))
                style.tell source target
              let inside := Files.isWithin origin location
              let names := (machine.entriesBelow origin).filter fun (name, _) =>
                !(inside && Files.isWithin (origin ++ [name]) location) &&
                  top != some (origin ++ [name])
              let status ← names.foldlM (fun worst (name, _) => do
                let status ← style.copy fuel (top.orElse fun _ => some location)
                  (joinName source name) (joinName target name)
                return max worst status) 0
              if inside then
                fail s!"cannot copy a directory, {quote source}, into itself, {quote target}"
              else return status
            match goalOf machine target true true with
            | .error fault => fail s!"cannot create directory {quote target}: {reason fault}"
            | .ok (.free location) => into location true
            | .ok (.taken location found) =>
                if location == origin then
                  fail s!"{quote source} and {quote target} are the same file"
                else if !found.isDirectory then
                  fail (s!"cannot overwrite non-directory {quote target} with directory " ++
                    quote source)
                else into location false

end CopyStyle

/-- The long options that copies and moves have in common. -/
def targetOptions : List String :=
  ["backup?", "force", "interactive", "no-clobber", "strip-trailing-slashes", "suffix=",
    "target-directory=", "no-target-directory", "update?", "verbose", "debug", "context?"]

/-- Copies files, and with `-r` directories. -/
def cp : Program := fun _ arguments =>
  withOptions 1
    { letters := "abdfHilLnPprRsTuvxZ", marked := "tS"
      long := targetOptions ++
        ["archive", "attributes-only", "copy-contents", "dereference", "link", "no-dereference",
          "preserve?", "no-preserve=", "parents", "recursive", "reflink?", "remove-destination",
          "sparse=", "symbolic-link", "one-file-system"] } arguments fun options operands => do
      let deep := options.has ["r", "R", "recursive", "a", "archive"]
      let followed := (options.filter fun option =>
        ["L", "dereference", "P", "no-dereference", "d", "a", "archive"].contains option.1).getLast?
      let follows := match followed with
        | some (name, _) => name == "L" || name == "dereference"
        | none => !deep
      let lastMode := (options.filter fun option =>
        ["f", "i", "n", "force", "interactive", "no-clobber"].contains option.1).getLast?.map (·.1)
      let style : CopyStyle :=
        { deep, follows
          verbose := options.has ["v", "verbose"]
          asks := lastMode.any ["i", "interactive"].contains
          keeps := lastMode.any ["n", "no-clobber"].contains
          backup := options.has ["b", "backup"]
          linked := options.has ["s", "symbolic-link"] }
      if options.has ["parents"] then copyParents style options operands
      else
        match ← withTargets (options.last? ["t", "target-directory"])
            (options.has ["T", "no-target-directory"]) operands with
        | .error status => return status
        | .ok pairs => forTargets pairs (style.copy 256 none)
where
  /-- Copies files with the directories on their paths. -/
  copyParents (style : CopyStyle) (options : GivenOptions) (operands : List String)
      : Action Nat := do
    let target := (options.last? ["t", "target-directory"]).getD (operands.getLast?.getD "")
    let sources := if options.has ["t", "target-directory"] then operands else operands.dropLast
    if !(← getThe Machine).leadsToDirectory target then
      misuse 1 "with --parents, the destination must be a directory"
    else
      forOperands sources fun source => do
        let machine ← getThe Machine
        let goal := joinName target source
        match machine.entry source style.follows with
        | .error fault => CopyStyle.fail s!"cannot stat {quote source}: {reason fault}"
        | .ok _ =>
            for path in (pathsTo goal).dropLast do
              let machine ← getThe Machine
              if !machine.leadsToDirectory path then
                let _ ← changeFiles (·.makeDirectory (machine.path path))
            style.copy 256 none source goal

/-! ## Moves -/

/-- Moves files and directories. -/
def mv : Program := fun _ arguments =>
  withOptions 1
    { letters := "bfinTuvZ", marked := "tS", long := targetOptions } arguments
    fun options operands => do
      let lastMode := (options.filter fun option =>
        ["f", "i", "n", "force", "interactive", "no-clobber"].contains option.1).getLast?.map (·.1)
      let style : CopyStyle :=
        { deep := true, follows := false
          verbose := options.has ["v", "verbose"]
          asks := lastMode.any ["i", "interactive"].contains
          keeps := lastMode.any ["n", "no-clobber"].contains
          backup := options.has ["b", "backup"]
          linked := false }
      match ← withTargets (options.last? ["t", "target-directory"])
          (options.has ["T", "no-target-directory"]) operands with
      | .error status => return status
      | .ok pairs => forTargets pairs (move style)
where
  move (style : CopyStyle) (source target : String) : Action Nat := do
    let machine ← getThe Machine
    let fail := CopyStyle.fail
    match machine.entry source false with
    | .error fault => fail s!"cannot stat {quote source}: {reason fault}"
    | .ok (origin, entry) =>
        let rename (location : Location) : Action Nat := do
          if style.backup then keepBackup true location
          changeWorld fun world => ((world.drop location).graft origin location).drop origin
          if style.verbose then say 1 s!"renamed {quote source} -> {quote target}\n"
          return 0
        match goalOf machine target false entry.isDirectory with
        | .error fault => fail s!"cannot move {quote source} to {quote target}: {reason fault}"
        | .ok (.free location) =>
            if entry.isDirectory && Files.isWithin origin location then
              fail s!"cannot move {quote source} to a subdirectory of itself, {quote target}"
            else rename location
        | .ok (.taken location found) =>
            if location == origin then
              fail s!"{quote source} and {quote target} are the same file"
            else if entry.isDirectory && Files.isWithin origin location then
              fail s!"cannot move {quote source} to a subdirectory of itself, {quote target}"
            else if entry.isDirectory && !found.isDirectory then
              fail s!"cannot overwrite non-directory {quote target} with directory {quote source}"
            else if found.isDirectory && !entry.isDirectory then
              fail s!"cannot overwrite directory {quote target} with non-directory"
            else if found.isDirectory && !(machine.entriesBelow location).isEmpty then
              fail s!"cannot move {quote source} to {quote target}: {reason .notEmpty}"
            else if ← style.mayReplace target then rename location
            else return 0

/-! ## Links -/

/-- The path from one location to another. -/
def relativePath (origin target : Location) : String :=
  let shared := ((origin.zip target).takeWhile fun (a, b) => a == b).length
  let parts := List.replicate (origin.length - shared) ".." ++ target.drop shared
  if parts.isEmpty then "." else "/".intercalate parts

/-- Makes links. Links that are not symbolic are copies. -/
def ln : Program := fun _ arguments =>
  withOptions 1
    { letters := "bdfFiLnPrsTv", marked := "tS"
      long := targetOptions ++ ["symbolic", "no-dereference", "relative", "logical", "physical"] }
    arguments fun options operands => do
      let symbolic := options.has ["s", "symbolic"]
      let machine ← getThe Machine
      let plain := options.has ["T", "no-target-directory"] ||
        (options.has ["n", "no-dereference"] &&
          (operands.getLast?.map fun target => (machine.link? target).isSome).getD false)
      let pairs? ← match operands with
        | [source] =>
            if (options.last? ["t", "target-directory"]).isNone then
              pure (.ok [(source, intoDirectory "." source)])
            else withTargets (options.last? ["t", "target-directory"]) plain operands
        | operands => withTargets (options.last? ["t", "target-directory"]) plain operands
      match pairs? with
      | .error status => return status
      | .ok pairs => forTargets pairs (link options symbolic)
where
  link (options : GivenOptions) (symbolic : Bool) (source target : String) : Action Nat := do
    let machine ← getThe Machine
    let kind := if symbolic then "symbolic link" else "hard link"
    let refuse (fault : FileFault) : Action Nat := do
      let relation := if symbolic || fault == .exists then "" else s!" => {quote source}"
      CopyStyle.fail s!"failed to create {kind} {quote target}{relation}: {reason fault}"
    let put (location : Location) (entry : Entry) : Action Nat := do
      changeWorld fun world => (world.drop location).put location entry
      if options.has ["v", "verbose"] then
        let arrow := if symbolic then "->" else "=>"
        say 1 s!"{quote target} {arrow} {quote source}\n"
      return 0
    let entry? : Except (Action Nat) Entry :=
      if symbolic then
        if options.has ["r", "relative"] then
          match goalOf machine target false false, machine.place source with
          | .ok (.free location), .ok (.taken origin _)
          | .ok (.taken location _), .ok (.taken origin _) =>
              .ok (.link (relativePath location.dropLast origin))
          | _, _ => .ok (.link source)
        else .ok (.link source)
      else
        match machine.entry source false with
        | .error fault =>
            .error (CopyStyle.fail s!"failed to access {quote source}: {reason fault}")
        | .ok (_, entry) =>
            if entry.isDirectory then
              .error (CopyStyle.fail s!"{source}: hard link not allowed for directory")
            else .ok entry
    match entry? with
    | .error failure => failure
    | .ok entry =>
        if symbolic && source.isEmpty then refuse .notFound
        else
          match goalOf machine target false false with
          | .error fault => refuse fault
          | .ok (.free location) => put location entry
          | .ok (.taken location found) =>
              if found.isDirectory then
                if options.has ["f", "force"] then
                  CopyStyle.fail s!"{target}: cannot overwrite directory"
                else refuse .exists
              else if options.has ["f", "force"] then
                if (machine.entry source false).toOption.any fun origin => origin.1 == location then
                  CopyStyle.fail s!"{quote source} and {quote target} are the same file"
                else
                  keepBackup (options.has ["b", "backup"]) location
                  put location entry
              else if options.has ["i", "interactive"] then
                if ← confirm s!"replace {quote target}" then put location entry else return 1
              else refuse .exists

/-- How much of a path has to be there. -/
inductive Existence where
  | all
  | parents
  | nothing
deriving DecidableEq

/-- A path from the top without links and dots. -/
def canonicalPath (machine : Machine) (existence : Existence) (text : String)
    : Except FileFault Location :=
  if text.isEmpty then .error .notFound
  else
    match machine.place text with
    | .ok (.taken location node) =>
        if node != .directory && text.toList.getLast? == some '/' then .error .notDirectory
        else .ok location
    | .ok (.free parent name _) =>
        if existence == .all then .error .notFound else .ok (parent ++ [name])
    | .error fault =>
        if existence != .nothing then .error fault
        else
          let full := Builtin.logicalPath (Machine.locationText machine.world.files.base) text
          .ok (((Text.splitOn '/' full.toList).filter (!·.isEmpty)).map String.ofList)

/-- Tells where links lead to. -/
def readlink : Program := fun _ arguments =>
  withOptions 1
    { letters := "efmnqsvz"
      long := ["canonicalize", "canonicalize-existing", "canonicalize-missing", "no-newline",
        "quiet", "silent", "verbose", "zero"] } arguments fun options operands => do
      if operands.isEmpty then misuse 1 "missing operand"
      else
        let ending := if options.has ["n", "no-newline"] && operands.length == 1 then ""
          else recordEnd options ["z", "zero"]
        let existence? : Option Existence :=
          if options.has ["e", "canonicalize-existing"] then some .all
          else if options.has ["f", "canonicalize"] then some .parents
          else if options.has ["m", "canonicalize-missing"] then some .nothing
          else none
        forOperands operands fun operand => do
          let machine ← getThe Machine
          let refuse (text : String) : Action Nat := do
            if options.has ["v", "verbose"] then report s!"{operand}: {text}"
            return 1
          match existence? with
          | some existence =>
              match canonicalPath machine existence operand with
              | .ok location =>
                  say 1 (Machine.locationText location ++ ending)
                  return 0
              | .error fault => refuse (reason fault)
          | none =>
              match machine.entry operand false with
              | .ok (_, .link target) =>
                  say 1 (target ++ ending)
                  return 0
              | .ok _ => refuse "Invalid argument"
              | .error fault => refuse (reason fault)
/-- Tells paths without links and dots. -/
def realpath : Program := fun _ arguments =>
  withOptions 1
    { letters := "emLPqsz"
      long := ["canonicalize-existing", "canonicalize-missing", "logical", "physical", "quiet",
        "strip", "no-symlinks", "zero", "relative-to=", "relative-base="] } arguments
    fun options operands => do
      if operands.isEmpty then misuse 1 "missing operand"
      else
        let ending := recordEnd options ["z", "zero"]
        let existence : Existence :=
          if options.has ["e", "canonicalize-existing"] then .all
          else if options.has ["m", "canonicalize-missing"] then .nothing
          else .parents
        let machine ← getThe Machine
        let origin? := (options.last? ["relative-to"]).map (canonicalPath machine existence ·)
        forOperands operands fun operand => do
          let found :=
            if options.has ["s", "strip", "no-symlinks"] then
              let full := Builtin.logicalPath machine.directory operand
              .ok (((Text.splitOn '/' full.toList).filter (!·.isEmpty)).map String.ofList)
            else canonicalPath machine existence operand
          match found, origin? with
          | .ok location, none =>
              say 1 (Machine.locationText location ++ ending)
              return 0
          | .ok location, some (.ok origin) =>
              say 1 (relativePath origin location ++ ending)
              return 0
          | .ok _, some (.error fault) | .error fault, _ =>
              if !options.has ["q", "quiet"] then report s!"{operand}: {reason fault}"
              return 1

/-! ## Installation -/

/-- Copies files with rights of their own, or makes directories. -/
def install : Program := fun launcher arguments =>
  withOptions 1
    { letters := "bcCdDpsTv", marked := "gmotS"
      long := targetOptions ++ ["directory", "mode=", "owner=", "group="] } arguments
    fun options operands => do
      if options.has ["d", "directory"] then
        if operands.isEmpty then misuse 1 "missing file operand"
        else mkdir launcher ("-p" :: "--" :: operands)
      else
        let machine ← getThe Machine
        if options.has ["D"] && operands.length == 2 then
          for path in (pathsTo (operands.getLast?.getD "")).dropLast do
            let machine ← getThe Machine
            if !machine.leadsToDirectory path then
              let _ ← changeFiles (·.makeDirectory (machine.path path))
        match ← withTargets (options.last? ["t", "target-directory"])
            (options.has ["T", "no-target-directory"]) operands with
        | .error status => return status
        | .ok pairs =>
            let style : CopyStyle :=
              { deep := false, follows := true, verbose := options.has ["v", "verbose"]
                asks := false, keeps := false, backup := false, linked := false }
            let bits := match (options.last? ["m", "mode"]).bind (readMode machine.mask) with
              | some changes => changes.foldl (RightsChange.apply false) 0
              | none => 493
            forTargets pairs fun source target => do
              if (← getThe Machine).leadsToDirectory source then
                CopyStyle.fail s!"omitting directory {quote source}"
              else
                match ← style.copy 2 none source target with
                | 0 =>
                    match (← getThe Machine).entry target true with
                    | .ok (location, .node (.file content _)) =>
                        changeWorld fun world =>
                          { world with
                            files := world.files.setNode location (.file content (bits &&& 73 != 0))
                            rights := world.rights.insert location bits }
                        return 0
                    | _ => return 0
                | status => return status

end Groundwork.Shell.Program
