/-!
Sets of characters as ascending ranges of code points. The sets of a Unicode property are written
down as the lengths of the gaps and runs between range ends, which keeps the tables short.
-/

namespace Groundwork.Unicode

/-- A set of characters: closed ranges of code points, ascending and apart. -/
structure CharSet where
  ranges : Array (Nat × Nat)
deriving Repr, BEq, DecidableEq, Inhabited

namespace CharSet

/-- The last code point. -/
def top : Nat := 0x10FFFF

def empty : CharSet := ⟨#[]⟩

def all : CharSet := ⟨#[(0, top)]⟩

/-- Adds a range that starts no earlier than those before it, joining it to a neighbour. -/
def push (set : CharSet) (low high : Nat) : CharSet :=
  if high < low then set
  else
    match set.ranges.back? with
    | some (first, last) =>
        if low ≤ last + 1 then ⟨set.ranges.pop.push (first, max last high)⟩
        else ⟨set.ranges.push (low, high)⟩
    | none => ⟨#[(low, high)]⟩

/-- Ranges in any order, sorted and joined where they meet. -/
def ofRanges (ranges : List (Nat × Nat)) : CharSet :=
  (ranges.mergeSort (fun a b => a.1 < b.1 || (a.1 == b.1 && a.2 ≤ b.2))).foldl
    (fun set range => set.push range.1 range.2) empty

def toList (set : CharSet) : List (Nat × Nat) := set.ranges.toList

def ofChars (chars : List Char) : CharSet :=
  ofRanges (chars.map (fun c => (c.toNat, c.toNat)))

def ofChar (c : Char) : CharSet := ⟨#[(c.toNat, c.toNat)]⟩

/-- The range between two characters, both included. -/
def range (first last : Char) : CharSet := ofRanges [(first.toNat, last.toNat)]

/-- Bisection for a range that holds the point, between two positions of the table. -/
def search (ranges : Array (Nat × Nat)) (point low high : Nat) : Bool :=
  if low < high then
    let middle := (low + high) / 2
    match ranges[middle]? with
    | none => false
    | some (first, last) =>
        if point < first then search ranges point low middle
        else if last < point then search ranges point (middle + 1) high
        else true
  else false
termination_by high - low

def containsPoint (set : CharSet) (point : Nat) : Bool :=
  search set.ranges point 0 set.ranges.size

def contains (set : CharSet) (c : Char) : Bool := set.containsPoint c.toNat

def isEmpty (set : CharSet) : Bool := set.ranges.isEmpty

def union (a b : CharSet) : CharSet := ofRanges (a.toList ++ b.toList)

def unions (sets : List CharSet) : CharSet := ofRanges (sets.flatMap toList)

/-- The gaps between ascending ranges, from a point up to the last code point. -/
def gaps (start : Nat) : List (Nat × Nat) → List (Nat × Nat)
  | [] => if start ≤ top then [(start, top)] else []
  | (first, last) :: rest =>
      if start < first then (start, first - 1) :: gaps (last + 1) rest else gaps (last + 1) rest

/-- A range without the surrogates at its ends, which are no characters. -/
def trimSurrogates (range : Nat × Nat) : Option (Nat × Nat) :=
  let first := if 0xD800 ≤ range.1 && range.1 < 0xE000 then 0xE000 else range.1
  let last := if 0xD800 ≤ range.2 && range.2 < 0xE000 then 0xD7FF else range.2
  if first ≤ last then some (first, last) else none

/-- Every character that the set does not hold. -/
def complement (set : CharSet) : CharSet :=
  ⟨((gaps 0 set.toList).filterMap trimSurrogates).toArray⟩

def inter (a b : CharSet) : CharSet := (a.complement.union b.complement).complement

def diff (a b : CharSet) : CharSet := a.inter b.complement

/-- What exactly one of the two sets holds. -/
def symmDiff (a b : CharSet) : CharSet := (a.union b).diff (a.inter b)

/-- The value of a hexadecimal digit; anything else counts as zero. -/
def digitValue (c : Char) : Nat :=
  if '0' ≤ c && c ≤ '9' then c.toNat - '0'.toNat
  else if 'a' ≤ c && c ≤ 'f' then c.toNat - 'a'.toNat + 10
  else 0

/-- Reads runs `gap` or `gap.length` in hexadecimal, each counted from the end of the one before
it; a missing length is one. `gap`, `length?` are the numbers read so far of the current run. -/
def decodeRuns (set : CharSet) (next : Nat) (gap : Option Nat) (length : Option Nat)
    : List Char → CharSet
  | [] => finish
  | c :: rest =>
      if c == ' ' || c == '\n' then
        match gap with
        | none => decodeRuns set next none none rest
        | some g => decodeRuns finish (next + g + length.getD 1) none none rest
      else if c == '.' then decodeRuns set next gap (some 0) rest
      else
        match length with
        | some n => decodeRuns set next gap (some (16 * n + digitValue c)) rest
        | none => decodeRuns set next (some (16 * gap.getD 0 + digitValue c)) none rest
where
  finish : CharSet :=
    match gap with
    | none => set
    | some g => set.push (next + g) (next + g + length.getD 1 - 1)

/-- The set that a table of runs describes. -/
def ofRuns (text : String) : CharSet := decodeRuns empty 0 none none text.toList

end CharSet

/-- The characters whose entry in a list of named tables carries one of the given names. -/
def namedSet? (tables : List (List String × String)) (name : String) : Option CharSet :=
  (tables.find? (fun entry => entry.1.contains name)).map (fun entry => CharSet.ofRuns entry.2)

end Groundwork.Unicode
