import Groundwork.Git.Attribute

/-!
Ends of lines. Files of a work tree may end their lines with a carriage return and a newline where
what is kept of them ends lines with a newline alone. Whether a file is a text is told, or guessed
from its bytes.
-/

namespace Groundwork.Git

/-- Counts of the bytes of a content. -/
structure ByteCounts where
  nul : Nat := 0
  /-- Carriage returns that no newline follows. -/
  loneReturns : Nat := 0
  /-- Newlines that no carriage return stands before. -/
  loneNewlines : Nat := 0
  /-- Carriage returns with a newline after them. -/
  pairs : Nat := 0
  printable : Nat := 0
  nonprintable : Nat := 0
deriving Repr, DecidableEq

namespace ByteCounts

/-- Adds a byte that ends no line. -/
def addByte (counts : ByteCounts) (b : UInt8) : ByteCounts :=
  if b == 127 then { counts with nonprintable := counts.nonprintable + 1 }
  else if 32 ≤ b || b == 8 || b == 9 || b == 27 || b == 12 then
    { counts with printable := counts.printable + 1 }
  else
    { counts with
      nul := counts.nul + (if b == 0 then 1 else 0)
      nonprintable := counts.nonprintable + 1 }

def addBytes (counts : ByteCounts) : List UInt8 → ByteCounts
  | [] => counts
  | 13 :: 10 :: rest => ({ counts with pairs := counts.pairs + 1 } : ByteCounts).addBytes rest
  | b :: rest =>
      let counts : ByteCounts :=
        if b == 13 then { counts with loneReturns := counts.loneReturns + 1 }
        else if b == 10 then { counts with loneNewlines := counts.loneNewlines + 1 }
        else counts.addByte b
      counts.addBytes rest

/-- The counts of a content; a mark of the end of a file does not count. -/
def ofBytes (bytes : List UInt8) : ByteCounts :=
  let counts := ({} : ByteCounts).addBytes bytes
  if bytes.getLast? == some 26 then { counts with nonprintable := counts.nonprintable - 1 }
  else counts

/-- Whether a content does not look like a text. -/
def isBinary (counts : ByteCounts) : Bool :=
  0 < counts.loneReturns || 0 < counts.nul || counts.printable / 128 < counts.nonprintable

end ByteCounts

/-- How the ends of the lines of a text are kept. -/
structure LineEnds where
  /-- Whether the file is a text is guessed. -/
  guessed : Bool
  /-- Lines end with carriage returns in the work tree. -/
  returns : Bool
deriving Repr, DecidableEq

/-- What an attribute says of a file: no text, a text, one with given ends, or perhaps one. -/
inductive TextKind where
  | binary
  | text
  | plain
  | guess
deriving Repr, DecidableEq

namespace TextKind

def ofValue? : AttributeValue → Option TextKind
  | .on => some .text
  | .off => some .binary
  | .text "input" => some .plain
  | .text "auto" => some .guess
  | _ => none

end TextKind

namespace LineEnds

/-- How settings say that lines end, if files are texts. -/
def returnsByDefault (settings : Configuration) : Bool :=
  match settings.word? "core.autocrlf" with
  | some "input" => false
  | _ =>
      settings.boolean "core.autocrlf" false || settings.word? "core.eol" == some "crlf"

/-- How the lines of a file with some attributes are kept; nothing if it is no text. -/
def of? (settings : Configuration) (attributes : Attributes) : Option LineEnds :=
  let kind := (TextKind.ofValue? (attributes.value "text")).orElse fun _ =>
    TextKind.ofValue? (attributes.value "crlf")
  let byDefault := returnsByDefault settings
  match kind, attributes.value "eol" with
  | some .binary, _ => none
  | kind, .text "lf" => some ⟨kind == some .guess, false⟩
  | kind, .text "crlf" => some ⟨kind == some .guess, true⟩
  | some .text, _ => some ⟨false, byDefault⟩
  | some .plain, _ => some ⟨false, false⟩
  | some .guess, _ => some ⟨true, byDefault⟩
  | none, _ =>
      if settings.word? "core.autocrlf" == some "input" then some ⟨true, false⟩
      else if settings.boolean "core.autocrlf" false then some ⟨true, true⟩
      else none

/-- Bytes without the carriage returns that newlines follow. -/
def withoutReturns : List UInt8 → List UInt8
  | 13 :: 10 :: rest => 10 :: withoutReturns rest
  | b :: rest => b :: withoutReturns rest
  | [] => []

/-- What is kept of the ends of lines, and whether lines would end in another way once they are
written again. -/
structure Kept where
  bytes : ByteArray
  losesReturns : Bool := false
  losesNewlines : Bool := false

/-- What is kept of a file, given what was kept of it before. If it is only guessed to be a text, a
text that was kept with carriage returns stays as it is. -/
def keep (ends : Option LineEnds) (before : Option ByteArray) (content : ByteArray) : Kept :=
  match ends with
  | none => { bytes := content }
  | some ends =>
      let bytes := content.data.toList
      let counts := ByteCounts.ofBytes bytes
      if content.size == 0 || (ends.guessed && counts.isBinary) then { bytes := content }
      else
        let keptReturns := ends.guessed && before.any fun kept =>
          let counts := ByteCounts.ofBytes kept.data.toList
          !counts.isBinary && 0 < counts.pairs
        let converts := 0 < counts.pairs && !keptReturns
        let newlines := counts.loneNewlines + (if converts then counts.pairs else 0)
        let pairs := if converts then 0 else counts.pairs
        let adds := ends.returns && 0 < newlines &&
          !(ends.guessed && (0 < counts.loneReturns || 0 < pairs))
        { bytes := if converts then ⟨(withoutReturns bytes).toArray⟩ else content
          losesReturns := 0 < counts.pairs && pairs == 0 && !adds
          losesNewlines := 0 < counts.loneNewlines && adds }

end LineEnds

end Groundwork.Git
