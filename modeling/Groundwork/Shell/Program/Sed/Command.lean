import Groundwork.Text.Expression

/-!
Scripts that edit a stream of lines: commands, and the lines that they are for.
-/

namespace Groundwork.Shell.Program.Sed

/-- A pattern with the way in which it is matched. -/
structure Pattern where
  expression : Expression
  mode : Expression.Mode
  groups : Nat

/-- Which lines are meant. -/
inductive Address where
  | line (number : Nat)
  /-- Every so many lines from a first one on. -/
  | every (first width : Nat)
  | last
  /-- Lines that a pattern matches; without one it is the pattern that was used last. -/
  | pattern (pattern : Option Pattern)
  /-- So many lines after the start of a range, or the next line whose number is a multiple. -/
  | after (count : Nat)
  | multiple (count : Nat)

/-- Which lines a command is for: all of them, those of one address or those of a range. -/
structure Guard where
  first : Option Address := none
  second : Option Address := none
  negated : Bool := false

/-- The case that letters are given. -/
inductive LetterCase where
  | kept
  | lower
  | upper
deriving Repr, DecidableEq

/-- A part of a replacement. -/
inductive Piece where
  | text (bytes : List UInt8)
  /-- What a part of the pattern matched, the whole pattern being the part without a number. -/
  | part (index : Nat)
  /-- The case of all that follows, or of the next letter. -/
  | letters (case : LetterCase)
  | nextLetter (case : LetterCase)
deriving Repr, DecidableEq

/-- What is put in the place of what. -/
structure Substitution where
  pattern : Option Pattern
  pieces : List Piece
  /-- The first match that is replaced, and whether all after it are. -/
  number : Nat := 1
  all : Bool := false
  printed : Bool := false
  /-- The result is run as a command line, whose output takes its place. -/
  executed : Bool := false
  file : Option String := none

/-- What a step of a script does. The space of the line is what most steps work on; the other space
is kept from line to line. -/
inductive Command where
  /-- Commands up to a step that are for some lines only. -/
  | block (stop : Nat)
  | append (text : List UInt8)
  | insert (text : List UInt8)
  | change (text : List UInt8)
  /-- Goes to a label, or without one to the end. -/
  | jump (label : Option String)
  /-- Goes to a label if something was replaced, or if nothing was. -/
  | jumpIf (replaced : Bool) (label : Option String)
  | delete
  | deleteFirst
  | print
  | printFirst
  | hold
  | holdMore
  | recall
  | recallMore
  | exchange
  | next
  | join
  | list (width : Option Nat)
  | number
  | fileName
  | clear
  | quit (silent : Bool) (status : Nat)
  | readFile (name : String)
  | readLine (name : String)
  | writeFile (name : String)
  | writeFirst (name : String)
  | substitute (substitution : Substitution)
  | translate (pairs : List (UInt8 × UInt8))
  /-- Runs a command line, or what the line holds. -/
  | run (text : Option (List UInt8))

/-- A command for some lines. -/
structure Step where
  guard : Guard
  command : Command

/-- A script: its steps, and at which of them labels stand. -/
structure Script where
  steps : Array Step := #[]
  labels : List (String × Nat) := []
  /-- Its first line asks for no output but what commands write. -/
  quiet : Bool := false

end Groundwork.Shell.Program.Sed
