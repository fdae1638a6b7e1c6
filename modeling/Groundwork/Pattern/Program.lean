import Groundwork.Pattern.Node

/-!
Patterns as programs: numbered states that a search walks through. A choice of states is tried in
its order, which makes the first way to match the one that counts.
-/

namespace Groundwork.Pattern

open Groundwork.Unicode

/-- A state of a program. -/
inductive State where
  | chars (set : CharSet) (next : Nat)
  | look (condition : Look) (next : Nat)
  | choice (nexts : List Nat)
  /-- Remembers the position as the start or end of a group. -/
  | mark (slot : Nat) (next : Nat)
  | accept
deriving Inhabited

structure Program where
  states : Array State
  start : Nat
  /-- Two slots for every group, the whole match included. -/
  slots : Nat
deriving Inhabited

/-- Adds a state and returns its number. -/
def addState (state : State) : StateM (Array State) Nat :=
  modifyGet fun states =>
    let index := states.size
    (index, states.push state)

def setState (index : Nat) (state : State) : StateM (Array State) Unit :=
  modify fun states => states.setIfInBounds index state

/-- Alternatives in order, or the other way round for a repetition that is not greedy. -/
def ordered (greedy : Bool) (nexts : List Nat) : State :=
  .choice (if greedy then nexts else nexts.reverse)

/-- States for characters one after the other. -/
def addText (text : List Char) (next : Nat) : StateM (Array State) Nat :=
  text.foldrM (fun c next => addState (.chars (.ofChar c) next)) next

/-- Puts `count` copies of a part before the state `next`. -/
def copies (part : Nat → StateM (Array State) Nat) : Nat → Nat → StateM (Array State) Nat
  | 0, next => pure next
  | count + 1, next => do copies part count (← part next)

/-- Puts up to `count` copies of a part before the state `next`. -/
def optionalCopies (part : Nat → StateM (Array State) Nat) (greedy : Bool) (next : Nat)
    : Nat → Nat → StateM (Array State) Nat
  | 0, current => pure current
  | count + 1, current => do
      let body ← part current
      optionalCopies part greedy next count (← addState (ordered greedy [body, next]))

/-- Puts a part before a choice of it again or the state `next`; the choice and the part. -/
def loop (part : Nat → StateM (Array State) Nat) (greedy : Bool) (next : Nat)
    : StateM (Array State) (Nat × Nat) := do
  let turn ← addState .accept
  let body ← part turn
  setState turn (ordered greedy [body, next])
  return (turn, body)

mutual

/-- The state from which a pattern is matched before going on with `next`. A part repeated without
bound that may be empty is entered through a choice of its own, so that its first turn is tried
in the right order. -/
def compile : Node → Nat → StateM (Array State) Nat
  | .empty, next => pure next
  | .literal text, next => addText text next
  | .chars set, next => addState (.chars set next)
  | .look condition, next => addState (.look condition next)
  | .sequence parts, next => compileAll parts next
  | .choice branches, next => do
      let starts ← compileEach branches next
      addState (.choice starts)
  | .repetition least most greedy body, next =>
      let part := compile body
      match most with
      | some most => do
          let rest ← optionalCopies part greedy next (most - least) next
          copies part least rest
      | none =>
          match least with
          | 0 => do
              let (turn, start) ← loop part greedy next
              if body.needsText then return turn
              else addState (ordered greedy [start, next])
          | least + 1 => do
              let (_, start) ← loop part greedy next
              copies part least start
  | .group index body, next => do
      let last ← addState (.mark (2 * index + 1) next)
      let start ← compile body last
      addState (.mark (2 * index) start)

def compileAll : List Node → Nat → StateM (Array State) Nat
  | [], next => pure next
  | part :: parts, next => do
      let rest ← compileAll parts next
      compile part rest

def compileEach : List Node → Nat → StateM (Array State) (List Nat)
  | [], _ => pure []
  | branch :: branches, next => do
      let start ← compile branch next
      let starts ← compileEach branches next
      return start :: starts

end

/-- The program of a pattern with a number of groups; the whole match is group zero. -/
def Program.ofNode (node : Node) (groups : Nat) : Program :=
  let build : StateM (Array State) Nat := do
    let accept ← addState .accept
    compile (.group 0 node) accept
  let (start, states) := build.run #[]
  ⟨states, start, 2 * (groups + 1)⟩

end Groundwork.Pattern
