import Groundwork.Pattern.Node
import Std.Data.HashMap

/-!
The bytes that the automata of a pattern take up. There are two of them over the bytes of a text:
one for reading forward, which remembers groups, and one for reading backward, which does not.
A character beyond ASCII takes several states, and states that go on alike are shared as far as two
small tables remember them.
-/

namespace Groundwork.Pattern.Size

open Groundwork.Unicode

/-- The bytes of any state, of a step of a state with several, and of a branch. -/
def stateBytes : Nat := 32
def stepBytes : Nat := 8
def branchBytes : Nat := 4

/-- An automaton so far: its states, and the bytes they take up beyond the bytes of any state. -/
structure Usage where
  states : Nat
  extra : Nat

def Usage.bytes (usage : Usage) : Nat := stateBytes * usage.states + usage.extra

/-- What an automaton is built for: whether it reads backward, and its greatest size. -/
structure Frame where
  backward : Bool
  limit : Nat

/-- A step of building, which fails once the automaton is too large. -/
abbrev Build := ReaderT Frame (StateT Usage Option)

def grow (states extra : Nat) : Build Unit := do
  let usage ← get
  let usage : Usage := ⟨usage.states + states, usage.extra + extra⟩
  if (← read).limit < usage.bytes then failure
  set usage

/-- Adds a state and returns its number. -/
def addState (extra : Nat) : Build Nat := do
  let index := (← get).states
  grow 1 extra
  return index

/-! ## Characters as bytes -/

/-- A range of bytes. -/
abbrev ByteRange := Nat × Nat

/-- The ranges of a character's first byte, second byte and so on, for characters that are spelled
with equally many bytes and differ in a way that each byte ranges on its own. -/
def byteRanges (first last : Nat) : List ByteRange :=
  let bytes (point : Nat) : List Nat := (String.utf8EncodeChar (.ofNat point)).map UInt8.toNat
  (bytes first).zip (bytes last)

/-- Cuts a range of characters behind each point that ends a block of characters, where the range
does not cover whole blocks. -/
def alignedRanges (bits : List Nat) (first last : Nat) : List (Nat × Nat) :=
  match bits with
  | [] => [(first, last)]
  | n :: bits =>
      let block := Nat.pow 2 n
      if first / block == last / block then alignedRanges bits first last
      else
        let start := if first % block == 0 then first else (first / block + 1) * block
        let stop := if last % block == block - 1 then last + 1 else last / block * block
        (if first < start then alignedRanges bits first (start - 1) else []) ++
          (if start < stop then alignedRanges bits start (stop - 1) else []) ++
          (if stop ≤ last then alignedRanges bits stop last else [])

/-- The characters that one, two, three and four bytes spell; those of three lie on both sides of a
gap. -/
def spelledAlike : List (Nat × Nat) :=
  [(0, 0x7F), (0x80, 0x7FF), (0x800, 0xD7FF), (0xE000, 0xFFFF), (0x10000, CharSet.top)]

/-- The ranges of bytes that spell the characters of a set, in ascending order. -/
def spellings (set : CharSet) : List (List ByteRange) :=
  set.toList.flatMap fun (low, high) =>
    spelledAlike.flatMap fun (first, last) =>
      let first := max low first
      let last := min high last
      if last < first then []
      else if last < 0x80 then [[(first, last)]]
      else (alignedRanges [6, 12, 18] first last).map fun (first, last) => byteRanges first last

/-- Mixes a number into a hash. -/
def mix (hash : UInt64) (n : Nat) : UInt64 := (hash ^^^ n.toUInt64) * 1099511628211

def hashSeed : UInt64 := 14695981039346656037

/-- A table of so many places that remembers for each place the last key put there. -/
structure Memory (κ : Type) where
  places : Nat
  entries : Std.HashMap Nat (κ × Nat) := ∅

def Memory.get? {κ : Type} [BEq κ] (memory : Memory κ) (hash : UInt64) (key : κ) : Option Nat :=
  match memory.entries[hash.toNat % memory.places]? with
  | some (known, value) => if known == key then some value else none
  | none => none

def Memory.put {κ : Type} (memory : Memory κ) (hash : UInt64) (key : κ) (value : Nat) :
    Memory κ :=
  { memory with entries := memory.entries.insert (hash.toNat % memory.places) (key, value) }

/-! ## Sets for reading forward -/

/-- A step of a state: the bytes it takes, and the state it leads to. -/
abbrev Step := ByteRange × Nat

/-- A state that is not settled: the steps that are, newest first, and the bytes of the last. -/
structure Open where
  steps : List Step
  last : Option ByteRange

def Open.settle (state : Open) (next : Nat) : List Step :=
  match state.last with
  | some range => (range, next) :: state.steps
  | none => state.steps

abbrev StepMemory := Memory (List Step)

/-- The number of a settled state, which is shared with one that has the same steps. -/
def settled (memory : StepMemory) (steps : List Step) : Build (StepMemory × Nat) := do
  let hash := steps.foldr (fun (range, next) hash =>
    mix (mix (mix hash range.1) range.2) next) hashSeed
  match memory.get? hash steps with
  | some index => return (memory, index)
  | none =>
      let index ← addState (stepBytes * steps.length)
      return (memory.put hash steps index, index)

/-- Settles the states of a path, given from its end, and puts a state before them. -/
def settlePath (memory : StepMemory) (next : Nat) : List Open → Build (StepMemory × Nat)
  | [] => return (memory, next)
  | state :: states => do
      let (memory, index) ← settled memory (state.settle next)
      settlePath memory index states

/-- How many states of a path have the ranges of a spelling as their last. -/
def sharedPath : List Open → List ByteRange → Nat
  | state :: states, range :: ranges =>
      if state.last == some range then sharedPath states ranges + 1 else 0
  | _, _ => 0

/-- Adds a spelling to a path of open states, given from its start. -/
def addSpelling (target : Nat) (entry : StepMemory × List Open) (spelling : List ByteRange)
    : Build (StepMemory × List Open) := do
  let (memory, path) := entry
  let shared := sharedPath path spelling
  let (memory, next) ← settlePath memory target (path.drop (shared + 1)).reverse
  let suffix := spelling.drop shared
  let turned : Open := match path[shared]? with
    | some state => ⟨state.settle next, suffix.head?⟩
    | none => ⟨[], suffix.head?⟩
  return (memory, path.take shared ++ turned :: (suffix.drop 1).map fun range => ⟨[], some range⟩)

/-- Builds a set with characters beyond ASCII for reading forward. -/
def forwardSet (set : CharSet) : Build Unit := do
  let target ← addState 0
  let start : StepMemory × List Open := (⟨10000, ∅⟩, [⟨[], none⟩])
  let (memory, path) ← (spellings set).foldlM (addSpelling target) start
  let _ ← settlePath memory target path.reverse

/-! ## Sets for reading backward -/

/-- Adds a spelling, whose first byte is read last, and which ends in a branch. -/
def backwardSpelling (target : Nat) (memory : Memory (Nat × ByteRange))
    (spelling : List ByteRange) : Build (Memory (Nat × ByteRange)) := do
  let (memory, _) ← spelling.foldlM (fun (memory, next) range => do
    let hash := mix (mix (mix hashSeed next) range.1) range.2
    match memory.get? hash (next, range) with
    | some index => return (memory, index)
    | none =>
        let index ← addState 0
        return (memory.put hash (next, range) index, index)) (memory, target)
  grow 0 branchBytes
  return memory

/-- Builds a set with characters beyond ASCII for reading backward. -/
def backwardSet (set : CharSet) : Build Unit := do
  grow 1 0
  let target ← addState 0
  let _ ← (spellings set).foldlM (backwardSpelling target) ⟨1000, ∅⟩

/-! ## Choices of texts -/

/-- Texts by their first bytes. The ends of texts divide what follows a place into sections. The
section that grows comes first. -/
inductive Trie where
  | node (sections : List (List (UInt8 × Trie)))
deriving Inhabited

namespace Trie

/-- A trie of one text. -/
def single : List UInt8 → Trie
  | [] => .node [[], []]
  | byte :: bytes => .node [[(byte, single bytes)]]

mutual

def insert : Trie → List UInt8 → Trie
  | .node sections, [] => .node ([] :: sections)
  | .node [], bytes => single bytes
  | .node (active :: closed), byte :: bytes => .node (insertStep active byte bytes :: closed)

def insertStep : List (UInt8 × Trie) → UInt8 → List UInt8 → List (UInt8 × Trie)
  | [], byte, bytes => [(byte, single bytes)]
  | (known, trie) :: steps, byte, bytes =>
      if known == byte then (known, insert trie bytes) :: steps
      else (known, trie) :: insertStep steps byte bytes

end

/-- Whether no text goes on from here. -/
def isLeaf : Trie → Bool
  | .node sections => sections.all (·.isEmpty)

mutual

/-- The states of a trie whose leaves share one. A place has a state for each section that is not
empty, and one that branches into these and, for each text that ends there, into the end. -/
def usage : Trie → Usage
  | .node sections =>
      let inner := usageSections sections
      let branches := (sections.filter (!·.isEmpty)).length + (sections.length - 1)
      ⟨inner.states + 1, inner.extra + branchBytes * branches⟩

def usageSections : List (List (UInt8 × Trie)) → Usage
  | [] => ⟨0, 0⟩
  | steps :: sections =>
      let a := usageSteps steps
      let b := usageSections sections
      let own : Usage := match steps.length with
        | 0 => ⟨0, 0⟩
        | 1 => ⟨1, 0⟩
        | n => ⟨1, stepBytes * n⟩
      ⟨own.states + a.states + b.states, own.extra + a.extra + b.extra⟩

def usageSteps : List (UInt8 × Trie) → Usage
  | [] => ⟨0, 0⟩
  | (_, trie) :: steps =>
      let a := if trie.isLeaf then ⟨0, 0⟩ else usage trie
      let b := usageSteps steps
      ⟨a.states + b.states, a.extra + b.extra⟩

end

end Trie

/-- Builds a choice of texts. -/
def buildTexts (texts : List (List Char)) : Build Unit := do
  let backward := (← read).backward
  let trie := texts.foldl (fun trie text =>
    let bytes := text.flatMap String.utf8EncodeChar
    trie.insert (if backward then bytes.reverse else bytes)) (Trie.node [[]])
  let usage := trie.usage
  grow (usage.states + 1) usage.extra

/-! ## Patterns -/

/-- The extra bytes for going on from a part, if it ends in a state that branches. -/
def joint (branching : Bool) : Nat := if branching then branchBytes else 0

def buildSet (set : CharSet) : Build Unit := do
  if set.toList.all fun range => range.2 < 0x80 then grow 2 (stepBytes * set.toList.length)
  else if (← read).backward then backwardSet set
  else forwardSet set

/-- Builds a part so many times; whether the last state branches. -/
def copies (part : Build Bool) : Nat → Option Bool → Build Bool
  | 0, some before => return before
  | 0, none => do
      grow 1 0
      return false
  | count + 1, before => do
      let branching ← part
      grow 0 (joint (before.getD false))
      copies part count (some branching)

/-- Builds a part up to so many times, each behind a choice of it or the end. -/
def optionalCopies (part : Build Bool) : Nat → Bool → Build Unit
  | 0, before => grow 0 (joint before)
  | count + 1, before => do
      grow 1 0
      let branching ← part
      grow 0 (2 * branchBytes + joint before)
      optionalCopies part count branching

/-- Builds a repetition of a part; whether the last state branches. -/
def buildRepetition (part : Build Bool) (needsText : Bool) (least : Nat) (most : Option Nat)
    : Build Bool := do
  match least, most with
  | 0, some 1 =>
      grow 1 0
      let branching ← part
      grow 1 (2 * branchBytes + joint branching)
      return false
  | 0, none =>
      if needsText then
        grow 1 0
        let branching ← part
        grow 0 (branchBytes + joint branching)
        return true
      else
        let branching ← part
        grow 3 (4 * branchBytes + joint branching)
        return false
  | least + 1, none =>
      let before ← if least == 0 then pure false else copies part least none
      let branching ← part
      grow 1 (branchBytes + joint before + joint branching)
      return true
  | least, some most =>
      if least == most then copies part least none
      else
        let before ← copies part least none
        grow 1 0
        optionalCopies part (most - least) before
        return false

/-- The text of a pattern that is one. -/
def textOf? : Node → Option (List Char)
  | .literal text => some text
  | _ => none

mutual

/-- Builds a pattern; whether the last state branches. -/
def build : Node → Build Bool
  | .empty => do
      grow 1 0
      return false
  | .literal text => do
      grow (text.flatMap String.utf8EncodeChar).length 0
      return false
  | .chars set => do
      buildSet set
      return false
  | .look _ => do
      grow 1 0
      return false
  | .sequence parts => do
      return (← buildAll parts).getD false
  | .choice branches => do
      match branches.mapM textOf? with
      | some texts => buildTexts texts
      | none => buildEach 0 branches
      return false
  | .repetition least most _ body => buildRepetition (build body) body.needsText least most
  | .group _ body => do
      if (← read).backward then build body
      else
        grow 1 0
        let branching ← build body
        grow 1 (joint branching)
        return false

/-- Builds parts one after the other, in the order of reading. -/
def buildAll : List Node → Build (Option Bool)
  | [] => return none
  | part :: parts => do
      if (← read).backward then
        let before ← buildAll parts
        let branching ← build part
        grow 0 (joint (before.getD false))
        return some branching
      else
        let before ← build part
        match ← buildAll parts with
        | some branching =>
            grow 0 (joint before)
            return some branching
        | none => return some before

/-- Builds branches; the choice and its end come once there are two. -/
def buildEach (index : Nat) : List Node → Build Unit
  | [] => return
  | branch :: branches => do
      let branching ← build branch
      grow (if index == 1 then 2 else 0) (branchBytes + joint branching)
      buildEach (index + 1) branches

end

/-- Builds an automaton that searches a pattern: it passes over any bytes, matches the pattern as a
group, and accepts. -/
def buildSearch (node : Node) : Build Unit := do
  grow 3 (stepBytes + 2 * branchBytes)
  let branching ← build (.group 0 node)
  grow 1 (joint branching)

/-- Whether both automata of a pattern stay within a number of bytes. -/
def fits (limit : Nat) (node : Node) : Bool :=
  [false, true].all fun backward =>
    (((buildSearch node).run ⟨backward, limit⟩).run ⟨0, 0⟩).isSome

end Groundwork.Pattern.Size
