import Groundwork.Pattern.Program
import Groundwork.Unicode.Property

/-!
Searching a text for matches of a program. The search backtracks through states and positions in
the order of the choices, and never takes up the same pair twice, so it ends.
-/

namespace Groundwork.Pattern

open Groundwork.Unicode

/-- Whether a condition holds between two characters of a text, where there are any. -/
def Look.holds (condition : Look) (before after : Option Char) : Bool :=
  let word (ascii : Bool) (c : Option Char) : Bool :=
    c.any (if ascii then isAsciiWord else isWord)
  match condition with
  | .textStart => before.isNone
  | .textEnd => after.isNone
  | .lineStart => before.isNone || before == some '\n'
  | .lineEnd => after.isNone || after == some '\n'
  | .lineStartReturn =>
      before.isNone || before == some '\n' || (before == some '\r' && after != some '\n')
  | .lineEndReturn =>
      after.isNone || after == some '\r' || (after == some '\n' && before != some '\r')
  | .wordBoundary ascii => word ascii before != word ascii after
  | .noWordBoundary ascii => word ascii before == word ascii after
  | .wordStart ascii => !word ascii before && word ascii after
  | .wordEnd ascii => word ascii before && !word ascii after
  | .wordStartHalf ascii => !word ascii before
  | .wordEndHalf ascii => !word ascii after

/-- What is still to be done: go on from a state at a position, or give a slot its old value. -/
inductive Task where
  | explore (state position : Nat)
  | restore (slot : Nat) (old : Option Nat)

/-- The pairs of state and position that were taken up: for each position from `base` on the states,
marked by a one, or nothing yet. There are no rows beyond the last position that was reached. -/
structure Visited where
  base : Nat
  rows : Array ByteArray

namespace Visited

/-- Nothing was taken up of what begins at a position. -/
def none (base : Nat) : Visited := ⟨base, #[]⟩

def contains (visited : Visited) (state position : Nat) : Bool :=
  match visited.rows[position - visited.base]? with
  | some row => row[state]? == some 1
  | .none => false

/-- Rows up to one with an index. -/
def reaching (rows : Array ByteArray) (index : Nat) : Array ByteArray :=
  if index < rows.size then rows else rows ++ Array.replicate (index + 1 - rows.size) .empty

/-- Marks a pair; `states` is the number of all states. -/
def insert (visited : Visited) (states state position : Nat) : Visited :=
  match visited with
  | ⟨base, rows⟩ =>
      ⟨base, (reaching rows (position - base)).modify (position - base) fun row =>
        (if row.isEmpty then ⟨Array.replicate states 0⟩ else row).set! state 1⟩

end Visited

/-- A search in progress. -/
structure Progress where
  tasks : List Task
  slots : Array (Option Nat)
  visited : Visited

/-- The character before a position. -/
def charBefore (text : Array Char) (position : Nat) : Option Char :=
  match position with
  | 0 => none
  | n + 1 => text[n]?

/-- Does one task; the slots if it found a match. -/
def Progress.step (program : Program) (text : Array Char) (progress : Progress)
    : Progress × Option (Array (Option Nat)) :=
  match progress.tasks with
  | [] => (progress, none)
  | .restore slot old :: tasks =>
      ({ progress with tasks, slots := progress.slots.setIfInBounds slot old }, none)
  | .explore state position :: tasks =>
      let ⟨_, slots, visited⟩ := progress
      if visited.contains state position then (⟨tasks, slots, visited⟩, none)
      else
        let visited := visited.insert program.states.size state position
        match program.states[state]? with
        | none => (⟨tasks, slots, visited⟩, none)
        | some .accept => (⟨tasks, slots, visited⟩, some slots)
        | some (.chars set next) =>
            if text[position]?.any set.contains then
              (⟨.explore next (position + 1) :: tasks, slots, visited⟩, none)
            else (⟨tasks, slots, visited⟩, none)
        | some (.look condition next) =>
            if condition.holds (charBefore text position) text[position]? then
              (⟨.explore next position :: tasks, slots, visited⟩, none)
            else (⟨tasks, slots, visited⟩, none)
        | some (.choice nexts) =>
            (⟨nexts.map (fun next => .explore next position) ++ tasks, slots, visited⟩, none)
        | some (.mark slot next) =>
            let old := slots.getD slot none
            (⟨.explore next position :: .restore slot old :: tasks,
              slots.setIfInBounds slot (some position), visited⟩, none)

/-- Does the tasks up to the first match. -/
def Progress.run (program : Program) (text : Array Char)
    : Nat → Progress → Progress × Option (Array (Option Nat))
  | 0, progress => (progress, none)
  | fuel + 1, progress =>
      if progress.tasks.isEmpty then (progress, none)
      else
        match progress.step program text with
        | (progress, some slots) => (progress, some slots)
        | (progress, none) => Progress.run program text fuel progress

/-- A bound for the tasks of a search: each pair is taken up once and sets few of them. -/
def Program.effort (program : Program) (length : Nat) : Nat :=
  let edges := program.states.foldl (fun n state =>
    match state with
    | .choice nexts => n + nexts.length + 1
    | _ => n + 3) 1
  edges * (length + 2)

/-- Tries a match at each position from `position` on, for `count` positions. -/
def searchFrom (program : Program) (text : Array Char) (effort : Nat)
    : Nat → Nat → Visited → Option (Array (Option Nat))
  | 0, _, _ => none
  | count + 1, position, visited =>
      let start : Progress :=
        ⟨[.explore program.start position], Array.replicate program.slots none, visited⟩
      match Progress.run program text effort start with
      | (_, some slots) => some slots
      | (progress, none) => searchFrom program text effort count (position + 1) progress.visited

/-- The slots of the first match that starts at a position or later. -/
def Program.search (program : Program) (text : Array Char) (position : Nat)
    : Option (Array (Option Nat)) :=
  searchFrom program text (program.effort text.size) (text.size + 1 - position) position
    (.none position)

/-- A match: where it begins and ends, and the extents of its groups. -/
structure Match where
  start : Nat
  stop : Nat
  groups : List (Option (Nat × Nat))
deriving Repr

/-- The extents that the slots hold, two by two. -/
def extents : List (Option Nat) → List (Option (Nat × Nat))
  | some start :: some stop :: rest => some (start, stop) :: extents rest
  | _ :: _ :: rest => none :: extents rest
  | _ => []

def Program.find? (program : Program) (text : Array Char) (position : Nat) : Option Match := do
  let slots ← program.search text position
  match extents slots.toList with
  | some (start, stop) :: groups => some ⟨start, stop, some (start, stop) :: groups⟩
  | _ => none

/-- The matches from a position on. An empty match where the match before ended does not count. -/
def Program.findAllFrom (program : Program) (text : Array Char)
    : Nat → Nat → Option Nat → List Match
  | 0, _, _ => []
  | fuel + 1, position, lastEnd =>
      match program.find? text position with
      | none => []
      | some found =>
          if found.start == found.stop && lastEnd == some found.stop then
            if text.size < position + 1 then []
            else program.findAllFrom text fuel (position + 1) lastEnd
          else found :: program.findAllFrom text fuel found.stop (some found.stop)

/-- All matches in a text from left to right, none overlapping the one before. -/
def Program.findAll (program : Program) (text : Array Char) : List Match :=
  program.findAllFrom text (2 * text.size + 2) 0 none

end Groundwork.Pattern
