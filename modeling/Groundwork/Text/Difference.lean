/-!
What changed between two sequences: the shortest way from one to the other by taking items away and
putting items in. Of several ways the one counts that a search from both ends meets first, and runs
of changes are moved so that they lie together.
-/

namespace Groundwork.Difference

/-! ## The search for a middle -/

/-- Two sequences of which parts are compared. -/
structure Sequences where
  left : Array Nat
  right : Array Nat

/-- Whether the items at two places are the same. -/
def Sequences.same (sequences : Sequences) (x y : Int) : Bool :=
  sequences.left.getD x.toNat 0 == sequences.right.getD y.toNat 0

/-- A part of both sequences. -/
structure Region where
  left : Int
  leftEnd : Int
  right : Int
  rightEnd : Int

/-- How far the search has come on each diagonal, from the start and from the end. -/
structure Front where
  places : Array Int
  low : Int
  high : Int

/-- Where a diagonal is kept. -/
def Region.index (region : Region) (diagonal : Int) : Nat :=
  (diagonal - (region.left - region.rightEnd) + 2).toNat

def Front.get (front : Front) (region : Region) (diagonal : Int) : Int :=
  front.places.getD (region.index diagonal) 0

def Front.set (front : Front) (region : Region) (diagonal place : Int) : Front :=
  { front with places := front.places.setIfInBounds (region.index diagonal) place }

/-- A front with one more diagonal on each side where there is one; `outside` is where none of the
diagonals next to them can come from. -/
def Front.widen (front : Front) (region : Region) (outside : Int) : Front :=
  let least := region.left - region.rightEnd
  let greatest := region.leftEnd - region.right
  let front := if least < front.low then
      { front.set region (front.low - 2) outside with low := front.low - 1 }
    else { front with low := front.low + 1 }
  if front.high < greatest then
    { front.set region (front.high + 2) outside with high := front.high + 1 }
  else { front with high := front.high - 1 }

/-- The diagonals of a front, every other one, the highest first. -/
def Front.diagonals (front : Front) : List Int :=
  (List.range ((front.high - front.low) / 2 + 1).toNat).map fun (i : Nat) => front.high - 2 * i

/-- The end of the run of same items that begins at a place of a diagonal; `fuel` bounds it. -/
def runForward (sequences : Sequences) (region : Region) (diagonal : Int) (fuel : Nat) (x : Int)
    : Int :=
  match fuel with
  | 0 => x
  | fuel + 1 =>
      if x < region.leftEnd && x - diagonal < region.rightEnd &&
          sequences.same x (x - diagonal) then
        runForward sequences region diagonal fuel (x + 1)
      else x

/-- The start of the run of same items that ends at a place of a diagonal; `fuel` bounds it. -/
def runBackward (sequences : Sequences) (region : Region) (diagonal : Int) (fuel : Nat) (x : Int)
    : Int :=
  match fuel with
  | 0 => x
  | fuel + 1 =>
      if region.left < x && region.right < x - diagonal &&
          sequences.same (x - 1) (x - diagonal - 1) then
        runBackward sequences region diagonal fuel (x - 1)
      else x

/-- Moves the front from the start on by one change, until it meets the other one. -/
def advance (sequences : Sequences) (region : Region) (odd : Bool) (back : Front) (fuel : Nat)
    : List Int → Front → Front × Option (Int × Int)
  | [], front => (front, none)
  | d :: rest, front =>
      let below := front.get region (d - 1)
      let above := front.get region (d + 1)
      let x := runForward sequences region d fuel (if below < above then above else below + 1)
      let front := front.set region d x
      if odd && back.low ≤ d && d ≤ back.high && back.get region d ≤ x then
        (front, some (x, x - d))
      else advance sequences region odd back fuel rest front

/-- Moves the front from the end on by one change, until it meets the other one. -/
def retreat (sequences : Sequences) (region : Region) (odd : Bool) (front : Front) (fuel : Nat)
    : List Int → Front → Front × Option (Int × Int)
  | [], back => (back, none)
  | d :: rest, back =>
      let below := back.get region (d - 1)
      let above := back.get region (d + 1)
      let x := runBackward sequences region d fuel (if below < above then below else above - 1)
      let back := back.set region d x
      if !odd && front.low ≤ d && d ≤ front.high && x ≤ front.get region d then
        (back, some (x, x - d))
      else retreat sequences region odd front fuel rest back

/-- The place where both fronts meet; `fuel` bounds the changes. -/
def meet (sequences : Sequences) (region : Region) (odd : Bool) (size fuel : Nat)
    (front back : Front) : Int × Int :=
  match fuel with
  | 0 => (region.leftEnd, region.right)
  | fuel + 1 =>
      let front := front.widen region (-1)
      match advance sequences region odd back size front.diagonals front with
      | (_, some place) => place
      | (front, none) =>
          let back := back.widen region (region.leftEnd + region.rightEnd + 2)
          match retreat sequences region odd front size back.diagonals back with
          | (_, some place) => place
          | (back, none) => meet sequences region odd size fuel front back

/-- A place in the middle of a shortest way. -/
def middle (sequences : Sequences) (region : Region) : Int × Int :=
  let size := (region.leftEnd - region.left + region.rightEnd - region.right).toNat
  let start := region.left - region.right
  let stop := region.leftEnd - region.rightEnd
  let places := Array.replicate (size + 6) (0 : Int)
  let front : Front := Front.set ⟨places, start, start⟩ region start region.left
  let back : Front := Front.set ⟨places, stop, stop⟩ region stop region.leftEnd
  meet sequences region ((start - stop) % 2 != 0) (size + 1) (size + 2) front back

/-! ## Marks -/

/-- Which items were taken away, and which were put in. -/
structure Marks where
  left : Array Bool
  right : Array Bool

/-- The marks with those of a part of the items. -/
def markAll (marks : Array Bool) (start stop : Int) : Array Bool :=
  (List.range (stop - start).toNat).foldl (fun marks i =>
    marks.setIfInBounds (start.toNat + i) true) marks

/-- A region without the same items at its start and at its end; `fuel` bounds them. -/
def Region.trim (sequences : Sequences) (region : Region) (fuel : Nat) : Region :=
  match fuel with
  | 0 => region
  | fuel + 1 =>
      if region.left < region.leftEnd && region.right < region.rightEnd then
        if sequences.same region.left region.right then
          Region.trim sequences { region with
            left := region.left + 1
            right := region.right + 1 } fuel
        else if sequences.same (region.leftEnd - 1) (region.rightEnd - 1) then
          Region.trim sequences { region with
            leftEnd := region.leftEnd - 1
            rightEnd := region.rightEnd - 1 } fuel
        else region
      else region

/-- The marks with those of a region; `fuel` bounds how often it is divided. -/
def markRegion (sequences : Sequences) (fuel : Nat) (region : Region) (marks : Marks) : Marks :=
  match fuel with
  | 0 => marks
  | fuel + 1 =>
      let size := (region.leftEnd - region.left + region.rightEnd - region.right).toNat
      let region := region.trim sequences size
      if region.left == region.leftEnd then
        { marks with right := markAll marks.right region.right region.rightEnd }
      else if region.right == region.rightEnd then
        { marks with left := markAll marks.left region.left region.leftEnd }
      else
        let (x, y) := middle sequences region
        markRegion sequences fuel { region with left := x, right := y }
          (markRegion sequences fuel { region with leftEnd := x, rightEnd := y } marks)

/-- The marks of all changes. Items that the other sequence does not have are changes anyway. -/
def markAllChanges (left right : Array Nat) : Marks :=
  let kept (items others : Array Nat) : Array Nat :=
    (Array.range items.size).filter fun i => others.contains (items.getD i 0)
  let keptLeft := kept left right
  let keptRight := kept right left
  let sequences : Sequences :=
    ⟨keptLeft.map fun i => left.getD i 0, keptRight.map fun i => right.getD i 0⟩
  let found := markRegion sequences (keptLeft.size + keptRight.size + 2)
    ⟨0, keptLeft.size, 0, keptRight.size⟩
    ⟨Array.replicate keptLeft.size false, Array.replicate keptRight.size false⟩
  let spread (items : Array Nat) (kept : Array Nat) (marks : Array Bool) : Array Bool :=
    kept.zipIdx.foldl (fun all (place, i) => all.setIfInBounds place (marks.getD i false))
      (Array.replicate items.size true)
  ⟨spread left keptLeft found.left, spread right keptRight found.right⟩

/-! ## Runs of changes -/

/-- Where a run of changes lies, and the place that corresponds to its end in the other
sequence. -/
structure Run where
  marks : Array Bool
  start : Nat
  stop : Nat
  other : Nat

/-- The first place from one on that is not marked; `fuel` bounds the places. -/
def skipMarked (marks : Array Bool) (fuel place : Nat) : Nat :=
  match fuel with
  | 0 => place
  | fuel + 1 => if marks.getD place false then skipMarked marks fuel (place + 1) else place

/-- The last place up to one before which nothing is marked; `fuel` bounds the places. -/
def skipMarkedBack (marks : Array Bool) (fuel place : Nat) : Nat :=
  match fuel with
  | 0 => place
  | fuel + 1 =>
      if 0 < place && marks.getD (place - 1) false then skipMarkedBack marks fuel (place - 1)
      else place

/-- The last place up to one that is not marked; `fuel` bounds the places. -/
def lastUnmarked (marks : Array Bool) (fuel place : Nat) : Nat :=
  match fuel with
  | 0 => place
  | fuel + 1 => if marks.getD place false then lastUnmarked marks fuel (place - 1) else place

/-- A run moved by one item towards the start. -/
def Run.back (others : Array Bool) (run : Run) : Run :=
  let start := run.start - 1
  let marks := (run.marks.setIfInBounds start true).setIfInBounds (run.stop - 1) false
  { marks
    start
    stop := run.stop - 1
    other := lastUnmarked others run.other (run.other - 1) }

/-- A run moved towards the start as long as the item before it is the same as its last one. -/
def Run.backAll (items : Array Nat) (others : Array Bool) (fuel : Nat) (run : Run) : Run :=
  match fuel with
  | 0 => run
  | fuel + 1 =>
      if 0 < run.start && items.getD (run.start - 1) 0 == items.getD (run.stop - 1) 0 then
        let run := run.back others
        Run.backAll items others fuel
          { run with start := skipMarkedBack run.marks run.start run.start }
      else run

/-- A run moved towards the end as long as the item after it is the same as its first one, with the
last end at which it corresponded to a run of the other sequence. -/
def Run.forwardAll (items : Array Nat) (others : Array Bool) (fuel : Nat) (run : Run)
    (corresponding : Option Nat) : Run × Option Nat :=
  match fuel with
  | 0 => (run, corresponding)
  | fuel + 1 =>
      if run.stop < items.size && items.getD run.start 0 == items.getD run.stop 0 then
        let marks := (run.marks.setIfInBounds run.start false).setIfInBounds run.stop true
        let stop := skipMarked marks items.size (run.stop + 1)
        let next := run.other + 1
        let other := skipMarked others others.size next
        Run.forwardAll items others fuel { marks, start := run.start + 1, stop, other }
          (if next < other then some stop else corresponding)
      else (run, corresponding)

/-- A run moved until it does not grow any more; `fuel` bounds the moves. -/
def Run.settle (items : Array Nat) (others : Array Bool) (fuel : Nat) (run : Run)
    : Run × Option Nat :=
  match fuel with
  | 0 => (run, none)
  | fuel + 1 =>
      let size := run.stop - run.start
      let run := run.backAll items others items.size
      let corresponding :=
        if 0 < run.other && others.getD (run.other - 1) false then some run.stop else none
      let (run, corresponding) := run.forwardAll items others items.size corresponding
      if run.stop - run.start == size then (run, corresponding)
      else run.settle items others fuel

/-- A run moved back to where it corresponds to one of the other sequence; `fuel` bounds the
moves. -/
def Run.align (others : Array Bool) (target fuel : Nat) (run : Run) : Run :=
  match fuel with
  | 0 => run
  | fuel + 1 => if target < run.stop then (run.back others).align others target fuel else run

/-- The marks of a sequence with all runs moved, from a place on; `fuel` bounds the places. -/
def shiftFrom (items : Array Nat) (others : Array Bool) (fuel : Nat) (marks : Array Bool)
    (place other : Nat) : Array Bool :=
  match fuel with
  | 0 => marks
  | fuel + 1 =>
      if items.size ≤ place then marks
      else if !marks.getD place false then
        shiftFrom items others fuel marks (place + 1) (skipMarked others others.size other + 1)
      else
        let run : Run :=
          { marks
            start := place
            stop := skipMarked marks items.size (place + 1)
            other := skipMarked others others.size other }
        let (run, corresponding) := run.settle items others (items.size + 1)
        let run := match corresponding with
          | some target => run.align others target items.size
          | none => run
        shiftFrom items others fuel run.marks run.stop run.other

/-- Marks with all runs moved so that they lie together. -/
def shift (left right : Array Nat) (marks : Marks) : Marks :=
  let left := shiftFrom left marks.right (2 * left.size + 2) marks.left 0 0
  { left, right := shiftFrom right left (2 * right.size + 2) marks.right 0 0 }

/-! ## Changes -/

/-- A change: from a place on some items are taken away, and others put in from a place on. -/
structure Change where
  left : Nat
  removed : Nat
  right : Nat
  added : Nat
deriving Repr, DecidableEq

/-- The changes from two places on; `fuel` bounds the items. -/
def changesFrom (marks : Marks) (fuel x y : Nat) : List Change :=
  match fuel with
  | 0 => []
  | fuel + 1 =>
      if marks.left.size ≤ x && marks.right.size ≤ y then []
      else if marks.left.getD x false || marks.right.getD y false then
        let stopLeft := skipMarked marks.left marks.left.size x
        let stopRight := skipMarked marks.right marks.right.size y
        ⟨x, stopLeft - x, y, stopRight - y⟩ :: changesFrom marks fuel stopLeft stopRight
      else changesFrom marks fuel (x + 1) (y + 1)

/-- How many items two sequences have in common from a place on; `fuel` bounds them. -/
def commonStart (left right : Array Nat) (fuel place : Nat) : Nat :=
  match fuel with
  | 0 => place
  | fuel + 1 =>
      if place < left.size && place < right.size && left.getD place 0 == right.getD place 0 then
        commonStart left right fuel (place + 1)
      else place

/-- The changes from one sequence to another. Items that both have in common at the start and at the
end are set apart before the search, but for so many of them. -/
def changes (left right : Array Nat) (margin : Nat) : List Change :=
  let start := commonStart left right left.size 0 - margin
  let restLeft := left.extract start left.size
  let restRight := right.extract start right.size
  let ending := commonStart restLeft.reverse restRight.reverse restLeft.size 0 - margin
  let left := restLeft.extract 0 (restLeft.size - ending)
  let right := restRight.extract 0 (restRight.size - ending)
  let marks := shift left right (markAllChanges left right)
  (changesFrom marks (left.size + right.size + 1) 0 0).map fun change =>
    { change with left := change.left + start, right := change.right + start }

end Groundwork.Difference
