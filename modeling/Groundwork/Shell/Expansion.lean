import Groundwork.Shell.Arithmetic
import Groundwork.Shell.Format
import Groundwork.Shell.Machine
import Groundwork.Text.Glob

/-!
What words stand for. Expansions that are not quoted are split at separators, and wildcards that are
not quoted stand for the files whose names they match.
-/

namespace Groundwork.Shell

/-- How a character came into a word. -/
inductive Origin where
  | literal
  | quoted
  /-- From an expansion that is not quoted. -/
  | expanded
deriving Repr, DecidableEq

/-- A piece of an expanded word. -/
inductive Piece where
  | char (c : Char) (origin : Origin)
  /-- The word is there even if it is empty. -/
  | present
  /-- A word ends here. -/
  | boundary
deriving Repr, DecidableEq

/-- The characters of pieces. -/
def pieceText (pieces : List Piece) : List Char :=
  pieces.filterMap fun
    | .char c _ => some c
    | _ => none

/-- The pattern that pieces spell: what is quoted has no special meaning. -/
def piecePattern (pieces : List Piece) : Glob :=
  Glob.ofMarked (pieces.flatMap fun
    | .char c origin => (Format.charBytes c).map (·, origin == .quoted)
    | _ => [])

/-- The pieces of a text. -/
def textPieces (text : List Char) (quoted : Bool) : List Piece :=
  text.map (.char · (if quoted then .quoted else .expanded))

/-- Pieces of which what is not quoted is split like an expansion. -/
def asExpanded (pieces : List Piece) : List Piece :=
  pieces.map fun
    | .char c .literal => .char c .expanded
    | piece => piece

/-! ## Parameters -/

/-- The value of a parameter, if it is set. -/
def parameter? (machine : Machine) (name : String) : Option String :=
  match name with
  | "#" => some (toString machine.parameters.length)
  | "?" => some (toString machine.status)
  | "$" => some (toString machine.shell)
  | "!" => machine.lastJob.map toString
  | "-" => some (String.ofList machine.options)
  | "0" => some machine.name
  | "LINENO" =>
      some (toString (if machine.functionLine == 0 then machine.line
        else machine.line + 1 - machine.functionLine))
  | "PPID" => some (toString (machine.ancestors.headD 0))
  | name =>
      match name.toNat? with
      | some number => machine.parameters[number - 1]?
      | none => machine.value? name

/-- What stands between parameters that are joined. -/
def joiner (machine : Machine) : List Char := machine.separators.take 1

/-- The pieces of all parameters. With `apart` each is a word of its own. -/
def allPieces (machine : Machine) (name : String) (quoted apart : Bool) : List Piece :=
  let joined (between : List Piece) (present : List Piece) : List Piece :=
    ((machine.parameters.map fun text => present ++ textPieces text.toList quoted).intersperse
      between).flatten
  if name == "@" && quoted && apart then joined [.boundary] [.present]
  else if apart && !quoted && (joiner machine).isEmpty then joined [.boundary] []
  else joined (textPieces (joiner machine) quoted) []

/-- A text without the start that a pattern matches, which is as long or as short as can be. -/
def withoutStart (pattern : Glob) (longest : Bool) (text : List Char) : List Char :=
  let cuts := List.range (text.length + 1)
  match (if longest then cuts.reverse else cuts).find? fun cut =>
      pattern.accepts (String.ofList (text.take cut)) with
  | some cut => text.drop cut
  | none => text

/-- A text without the end that a pattern matches. -/
def withoutEnd (pattern : Glob) (longest : Bool) (text : List Char) : List Char :=
  let cuts := List.range (text.length + 1)
  match (if longest then cuts else cuts.reverse).find? fun cut =>
      pattern.accepts (String.ofList (text.drop cut)) with
  | some cut => text.take cut
  | none => text

/-- The value of an arithmetic expression as text. -/
def calculate (expression : List Char) : Action (List Char) := do
  let fail (fault : ArithmeticFault) : Action (List Char) :=
    giveUp (fault.message (String.ofList expression))
  match Arithmetic.read expression with
  | .error fault => fail fault
  | .ok parsed =>
      let machine ← getThe Machine
      match parsed.evaluate (parameter? machine) [] with
      | .error fault => fail fault
      | .ok (value, changes) =>
          for (name, number) in changes do setVariable name (toString number)
          return (toString value).toList

/-- The output of a command without newlines at its end. -/
def outputText (bytes : ByteArray) : List Char :=
  let bytes : ByteArray := ⟨bytes.data.filter (· != 0)⟩
  ((Text.decodeLossy bytes).toList.reverse.dropWhile (· == '\n')).reverse

/-! ## Home directories -/

/-- The literal characters that name a user after a tilde, up to a slash, and with `assigned` up to
a colon. -/
def userName (assigned : Bool) : List Piece → List Char
  | .char c .literal :: rest =>
      if c == '/' || (assigned && c == ':') then [] else c :: userName assigned rest
  | _ => []

/-- The home directory that a tilde with a name stands for, if the name is over where it ends. -/
def homeOf (home : Option String) (name : List Char) (rest : List Piece) : Option String :=
  match rest with
  | [] | .char _ .literal :: _ =>
      match String.ofList name with
      | "" => home
      | "root" => some "/root"
      | _ => none
  | _ => none

/-- Pieces with home directories in the place of tildes: at the start of a word, and with `assigned`
also after colons. `fuel` bounds the number of pieces. -/
def expandHome (home : Option String) (assigned first : Bool) (fuel : Nat) (pieces : List Piece)
    : List Piece :=
  match fuel with
  | 0 => pieces
  | fuel + 1 =>
      match pieces with
      | .char '~' .literal :: rest =>
          let name := userName assigned rest
          match if first then homeOf home name (rest.drop name.length) else none with
          | some directory =>
              textPieces directory.toList true ++
                expandHome home assigned false fuel (rest.drop name.length)
          | none => .char '~' .literal :: expandHome home assigned false fuel rest
      | .char ':' .literal :: rest =>
          .char ':' .literal :: expandHome home assigned assigned fuel rest
      | piece :: rest =>
          if assigned then piece :: expandHome home assigned false fuel rest else pieces
      | [] => []

namespace Machine

/-- Pieces with home directories in the place of tildes. -/
def withHome (machine : Machine) (assigned : Bool) (pieces : List Piece) : List Piece :=
  expandHome (machine.value? "HOME") assigned true (pieces.length + 1) pieces

end Machine

/-! ## Words -/

/-- Ends the shell because a parameter is not set. -/
def refuseUnset {α : Type} (name message : String) : Action α := giveUp s!"{name}: {message}"

mutual

/-- The pieces of a part of a word; `substitute` gives the output of commands. With `apart` all
parameters can be words of their own. -/
def expandPart (substitute : Command → Action ByteArray) (apart : Bool)
    : WordPart → Action (List Piece)
  | .text chars quoted =>
      return chars.map (.char · (if quoted then .quoted else .literal))
  | .quotes => return [.present]
  | .command body quoted => return textPieces (outputText (← substitute body)) quoted
  | .arithmetic expression quoted => do
      let pieces ← expandParts substitute false expression
      return textPieces (← calculate (pieceText pieces)) quoted
  | .parameter name form word quoted => do
      let machine ← getThe Machine
      let isMany := name == "@" || name == "*"
      let value :=
        if isMany then some (String.ofList (pieceText (allPieces machine name quoted apart)))
        else parameter? machine name
      let plain (machine : Machine) : List Piece :=
        if isMany then allPieces machine name quoted apart
        else textPieces ((parameter? machine name).getD "").toList quoted
      let isSet (nonempty : Bool) : Bool :=
        match value with
        | some text => !(nonempty && text.isEmpty)
        | none => false
      let checkSet : Action Unit :=
        if value.isNone && machine.has 'u' then refuseUnset name "parameter not set"
        else return ()
      let other : Action (List Piece) := do
        let pieces ← expandParts substitute apart word
        return if quoted then pieces else asExpanded (machine.withHome false pieces)
      match form with
      | .plain =>
          checkSet
          return plain machine
      | .length =>
          checkSet
          return textPieces (toString (value.getD "").utf8ByteSize).toList quoted
      | .default nonempty => if isSet nonempty then return plain machine else other
      | .assign nonempty =>
          if isSet nonempty then return plain machine
          else
            let pieces := machine.withHome false (← expandParts substitute false word)
            let text := String.ofList (pieceText pieces)
            if !isName name.toList then giveUp s!"{name}: bad variable name"
            setVariable name text
            return plain (← getThe Machine)
      | .alternative nonempty =>
          if isSet nonempty then other else return []
      | .required nonempty =>
          if isSet nonempty then return plain machine
          else if word.isEmpty then
            refuseUnset name
              (if nonempty then "parameter not set or null" else "parameter not set")
          else
            refuseUnset name (String.ofList (pieceText (← expandParts substitute false word)))
      | .without fromEnd longest =>
          checkSet
          let pattern := piecePattern (← expandParts substitute false word)
          let text := (value.getD "").toList
          let cut := if fromEnd then withoutEnd pattern longest text
            else withoutStart pattern longest text
          return textPieces cut quoted
      | .faulty => giveUp "Bad substitution"

/-- The pieces of a word. -/
def expandParts (substitute : Command → Action ByteArray) (apart : Bool)
    : List WordPart → Action (List Piece)
  | [] => return []
  | part :: rest => do
      let pieces ← expandPart substitute apart part
      return pieces ++ (← expandParts substitute apart rest)

end

/-- The pieces of a word that is not split. With `assigned` home directories stand after colons as
well. -/
def expandWhole (substitute : Command → Action ByteArray) (assigned : Bool) (word : Word)
    : Action (List Piece) := do
  let machine ← getThe Machine
  return machine.withHome assigned (← expandParts substitute false word)

/-- The text that a word stands for where it is not split. -/
def expandText (substitute : Command → Action ByteArray) (assigned : Bool) (word : Word)
    : Action String :=
  return String.ofList (pieceText (← expandWhole substitute assigned word))

/-- Separators that count once however many there are in a row. -/
def isBlank (c : Char) : Bool := c == ' ' || c == '\t' || c == '\n'

/-- Leaves the separators behind that follow one: blanks, and one that is no blank if `blank`. -/
def dropSeparators (separators : List Char) (blank : Bool) : List Piece → List Piece
  | .char c .expanded :: rest =>
      if !separators.contains c then .char c .expanded :: rest
      else if isBlank c then dropSeparators separators blank rest
      else if blank then dropSeparators separators false rest
      else .char c .expanded :: rest
  | pieces => pieces

/-- The words that pieces fall into; `word` holds the pieces of the word before, the last one first,
if it has begun. `fuel` bounds the number of pieces. -/
def splitPieces (separators : List Char) (fuel : Nat) (word : Option (List Piece))
    (pieces : List Piece) : List (List Piece) :=
  match fuel with
  | 0 => []
  | fuel + 1 =>
      match pieces with
      | [] => (word.map List.reverse).toList
      | .boundary :: rest =>
          (word.getD []).reverse :: splitPieces separators fuel (startOf rest) rest
      | .present :: rest => splitPieces separators fuel (some (word.getD [])) rest
      | .char c origin :: rest =>
          if origin == .expanded && separators.contains c then
            if isBlank c && word.isNone then splitPieces separators fuel none rest
            else
              (word.getD []).reverse ::
                splitPieces separators fuel none (dropSeparators separators (isBlank c) rest)
          else splitPieces separators fuel (some (.char c origin :: word.getD [])) rest
where
  /-- After a boundary the next word has begun if nothing else follows. -/
  startOf : List Piece → Option (List Piece)
    | [] => some []
    | _ => none

/-! ## Wildcards -/

/-- Pieces cut at slashes. -/
def splitSegments : List Piece → List (List Piece)
  | [] => [[]]
  | piece :: rest =>
      match piece, splitSegments rest with
      | .char '/' _, segments => [] :: segments
      | piece, segment :: segments => (piece :: segment) :: segments
      | piece, [] => [[piece]]

namespace Machine

/-- The names in a directory, those of links among them, in order. -/
def namesAt (machine : Machine) (location : Location) : List String :=
  let links := machine.world.links.filterMap fun (place, _) =>
    if place.dropLast == location then place.getLast? else none
  let nodes := (machine.world.files.entries location).map (·.1)
  if links.isEmpty then nodes else (nodes ++ links).mergeSort fun a b => !(b < a)

/-- Whether a path leads to a node or a link. -/
def isThere (machine : Machine) (path : String) : Bool :=
  (machine.link? path).isSome || machine.world.files.exists? (machine.path path)

end Machine

/-- The names in a directory that a segment stands for. Names that begin with a dot are matched by
a dot only. -/
def matchingNames (machine : Machine) (directory : String) (segment : List Piece) : List String :=
  match machine.place directory with
  | .ok (.taken location .directory) =>
      let pattern := piecePattern segment
      let dotted := (pieceText segment).head? == some '.'
      let names := machine.namesAt location
      (if dotted then "." :: ".." :: names else names).filter fun name =>
        (dotted || name.toList.head? != some '.') && pattern.accepts name
  | _ => []

/-- The paths that segments stand for, from those found so far. -/
def matchSegments (machine : Machine) (found : List String) : List (List Piece) → List String
  | [] => found
  | segment :: rest =>
      let isLast := rest.isEmpty
      let next := found.flatMap fun start =>
        if (piecePattern segment).isWild then
          (matchingNames machine (if start.isEmpty then "." else start) segment).map (start ++ ·)
        else
          let path := start ++ String.ofList (pieceText segment)
          if !isLast || machine.isThere path then [path] else []
      matchSegments machine (if isLast then next else next.map (· ++ "/")) rest

/-- The texts that a word stands for: itself, or the files that its wildcards match. -/
def matchFiles (machine : Machine) (word : List Piece) : List String :=
  let itself := String.ofList (pieceText word)
  if !machine.has 'f' && (piecePattern word).isWild then
    match matchSegments machine [""] (splitSegments word) with
    | [] => [itself]
    | found => found.mergeSort fun a b => !(b < a)
  else [itself]

/-- The words that a word stands for. -/
def expandWord (substitute : Command → Action ByteArray) (word : Word)
    : Action (List String) := do
  let found ← expandParts substitute true word
  let machine ← getThe Machine
  let pieces := machine.withHome false found
  return (splitPieces machine.separators (pieces.length + 1) none pieces).flatMap
    (matchFiles machine)

end Groundwork.Shell
