import Groundwork.Pattern.Expansion
import Groundwork.Pattern.Reader
import Groundwork.Pattern.Search
import Groundwork.Pattern.Size
import Groundwork.Text.Quoted

/-!
Patterns ready for use. Two patterns are the same if they are written the same way.
-/

namespace Groundwork

open Groundwork.Pattern

/-- A pattern: as it was written, and the program that searches for it. -/
structure SearchPattern where
  source : String
  program : Program
  names : List (String × Nat)
deriving Inhabited

namespace SearchPattern

/-- Why a text is not a pattern. -/
inductive Fault where
  | empty
  | unreadable (source detail : String)
  | tooLarge (source : String)
deriving Repr, DecidableEq

/-- The bytes that the program of a pattern may take up. -/
def sizeLimit : Nat := 10485760

def Fault.message : Fault → String
  | .empty => "pattern anchor must not be empty"
  | .unreadable source detail =>
      s!"invalid pattern {Text.quoted source}: regex parse error: {detail}"
  | .tooLarge source =>
      s!"invalid pattern {Text.quoted source}: " ++
        s!"Compiled regex exceeds size limit of {sizeLimit} bytes."

/-- The pattern that a text spells. -/
def parse (source : String) : Except Fault SearchPattern := do
  if source.isEmpty then throw .empty
  match Pattern.read source with
  | .error detail => throw (.unreadable source detail)
  | .ok written =>
      if !Size.fits sizeLimit written.node then throw (.tooLarge source)
      return ⟨source, Program.ofNode written.node written.groups, written.names⟩

/-- The first match in a text. -/
def find? (pattern : SearchPattern) (text : List Char) : Option Match :=
  pattern.program.find? text.toArray 0

/-- All matches in a text. -/
def findAll (pattern : SearchPattern) (text : List Char) : List Match :=
  pattern.program.findAll text.toArray

/-- The text between two positions. -/
def between (text : Array Char) (start stop : Nat) : List Char := (text.extract start stop).toList

/-- The text of a group of a match; groups that took no part are empty. -/
def groupText (text : Array Char) (found : Match) (index : Nat) : List Char :=
  match found.groups[index]? with
  | some (some (start, stop)) => between text start stop
  | _ => []

def partText (pattern : SearchPattern) (text : Array Char) (found : Match)
    : ReplacementPart → List Char
  | .char c => [c]
  | .group index => groupText text found index
  | .named name =>
      match pattern.names.find? (fun entry => entry.1 == name) with
      | some (_, index) => groupText text found index
      | none => []

/-- Writes the expanded replacement for each of some matches, which come in order. -/
def substitute (pattern : SearchPattern) (parts : List ReplacementPart) (text : Array Char)
    (position : Nat) : List Match → List Char
  | [] => between text position text.size
  | found :: rest =>
      between text position found.start ++ parts.flatMap (partText pattern text found) ++
        substitute pattern parts text found.stop rest

/-- Replaces every match, or the first only. -/
def replace (pattern : SearchPattern) (replacement : List Char) (firstOnly : Bool)
    (text : List Char) : List Char :=
  let found := pattern.findAll text
  substitute pattern (replacementParts replacement) text.toArray 0
    (if firstOnly then found.take 1 else found)

end SearchPattern

end Groundwork
