import Groundwork.Text.Glob

/-!
Search patterns over bytes in basic and in extended form. Of all places where a pattern matches the
first one counts, and of all ways in which it matches there the longest one.
-/

namespace Groundwork

/-- A search pattern. -/
inductive Expression where
  | empty
  | byte (b : UInt8)
  /-- Any byte. -/
  | one
  | set (negated : Bool) (ranges : List ByteRange)
  /-- The start and the end of a line. -/
  | lineStart
  | lineEnd
  /-- The start and the end of the whole text. -/
  | textStart
  | textEnd
  /-- The start and the end of a word, either of them, or neither. -/
  | wordStart
  | wordEnd
  | boundary
  | inside
  /-- A part whose match can be referred to. -/
  | group (index : Nat) (body : Expression)
  /-- What a part has matched. -/
  | back (index : Nat)
  | sequence (first rest : Expression)
  | choice (left right : Expression)
  | repeated (body : Expression) (least : Nat) (most : Option Nat)
deriving Repr, DecidableEq

namespace Expression

/-! ## Matching -/

/-- How a pattern is matched. -/
structure Mode where
  /-- The case of letters does not count. -/
  fold : Bool := false
  /-- Lines end at newlines, not only with the text. -/
  multiline : Bool := false

/-- A place in a text that has been reached, and where the parts of the pattern matched before. -/
structure Spot where
  place : Nat
  groups : List (Nat × Nat × Nat) := []
deriving Repr, DecidableEq

/-- Whether a pattern refers to what its parts have matched. -/
def refersBack : Expression → Bool
  | .back _ => true
  | .group _ body | .repeated body _ _ => body.refersBack
  | .sequence a b | .choice a b => a.refersBack || b.refersBack
  | _ => false

/-- A byte that words are made of. -/
def isWord (b : UInt8) : Bool := ByteClass.contains .alnum b || b == 95

/-- Whether the byte at a place is there and belongs to a word. -/
def wordAt (text : ByteArray) (place : Nat) : Bool :=
  place < text.size && isWord (text.get! place)

/-- Whether the byte before a place is there and belongs to a word. -/
def wordBefore (text : ByteArray) (place : Nat) : Bool := 0 < place && wordAt text (place - 1)

/-- Leaves the first spot of each place; with `strict` spots at one place are told apart by their
parts. -/
def firstOfEach (strict : Bool) (size : Nat) (spots : List Spot) : List Spot :=
  match spots with
  | [] => []
  | [spot] => [spot]
  | spots =>
      if strict then
        let kept := spots.foldl (fun kept spot =>
          if kept.contains spot then kept else spot :: kept) []
        kept.reverse
      else
        let start : List Spot × Array Bool := ([], Array.replicate (size + 1) false)
        let (kept, _) := spots.foldl (fun (kept, seen) spot =>
          if seen.getD spot.place false then (kept, seen)
          else (spot :: kept, seen.setIfInBounds spot.place true)) start
        kept.reverse

/-- The spots that rounds have reached, the last one first, and where they have been already. -/
structure Walk where
  found : List Spot := []
  seen : Array Bool
  met : List (Nat × Spot) := []

/-- Goes on from a spot in rounds, as far as it leads and in the order of the ways that come first.
From `least` rounds on a spot counts; there are at most as many as the number that bounds them if
`bounded`, and `fuel` bounds them as well. -/
def walk (strict : Bool) (step : Spot → List Spot) (least most : Nat) (bounded : Bool)
    (fuel count : Nat) (spot : Spot) (way : Walk) : Walk :=
  match fuel with
  | 0 => way
  | fuel + 1 =>
      let key := min count most
      let index := spot.place * (most + 1) + key
      if strict && way.met.contains (key, spot) || !strict && way.seen.getD index false then way
      else
        let way :=
          if strict then { way with met := (key, spot) :: way.met }
          else { way with seen := way.seen.setIfInBounds index true }
        let next := if bounded && most ≤ count then [] else
          (step spot).filter fun after => count < least || after.place != spot.place
        let way := next.foldl (fun way after =>
          walk strict step least most bounded fuel (count + 1) after way) way
        if least ≤ count then { way with found := spot :: way.found } else way

/-- The spots that a pattern leads to from others, in the order of the ways that come first: the
left one of alternatives before the right one, and more repetitions before fewer. -/
def spots (mode : Mode) (strict : Bool) (text : ByteArray) : Expression → List Spot → List Spot
  | .sequence first rest, spots =>
      match first.spots mode strict text spots with
      | [] => []
      | spots => rest.spots mode strict text spots
  | .group index body, spots =>
      firstOfEach strict text.size (spots.flatMap fun spot =>
        (body.spots mode strict text [spot]).map fun after =>
          { after with
            groups := (index, spot.place, after.place) :: after.groups.filter (·.1 != index) })
  | .choice left right, spots =>
      firstOfEach strict text.size (spots.flatMap fun spot =>
        left.spots mode strict text [spot] ++ right.spots mode strict text [spot])
  | .repeated body least most, spots =>
      match simple? body with
      | some p =>
          firstOfEach strict text.size (spots.flatMap fun spot =>
            let most := min (most.getD text.size) (text.size - spot.place)
            let run := runLength text p most spot.place
            (List.range (run + 1 - least)).map fun i => { spot with place := spot.place + run - i })
      | none =>
          firstOfEach strict text.size (spots.flatMap fun spot =>
            let bound := most.getD least
            let start : Walk := { seen := Array.replicate ((text.size + 1) * (bound + 1)) false }
            (walk strict (fun spot => body.spots mode strict text [spot]) least bound most.isSome
              (text.size - spot.place + bound + 2) 0 spot start).found.reverse)
  | .empty, spots => spots
  | .byte b, spots =>
      advance spots fun a => a == b || (mode.fold && lowerByte a == lowerByte b)
  | .one, spots => advance spots fun _ => true
  | .set negated ranges, spots => advance spots fun b => has ranges b != negated
  | .lineStart, spots => stay spots fun place =>
      place == 0 || (mode.multiline && text.get! (place - 1) == 10)
  | .lineEnd, spots => stay spots fun place =>
      place == text.size || (mode.multiline && text.get! place == 10)
  | .textStart, spots => stay spots (· == 0)
  | .textEnd, spots => stay spots (· == text.size)
  | .wordStart, spots => stay spots fun place => wordAt text place && !wordBefore text place
  | .wordEnd, spots => stay spots fun place => wordBefore text place && !wordAt text place
  | .boundary, spots => stay spots fun place => wordAt text place != wordBefore text place
  | .inside, spots => stay spots fun place => wordAt text place == wordBefore text place
  | .back index, spots =>
      spots.filterMap fun spot =>
        match spot.groups.lookup index with
        | none => none
        | some (start, stop) =>
            let size := stop - start
            if spot.place + size ≤ text.size && same start spot.place size then
              some { spot with place := spot.place + size }
            else none
where
  /-- The spots after the next byte, where it is of a kind. -/
  advance (spots : List Spot) (p : UInt8 → Bool) : List Spot :=
    spots.filterMap fun spot =>
      if spot.place < text.size && p (text.get! spot.place) then
        some { spot with place := spot.place + 1 }
      else none
  /-- The spots whose place is of a kind. -/
  stay (spots : List Spot) (p : Nat → Bool) : List Spot := spots.filter fun spot => p spot.place
  has (ranges : List ByteRange) (b : UInt8) : Bool :=
    ranges.any fun range => range.contains false b ||
      (mode.fold && (range.contains false (lowerByte b) || range.contains false (upperByte b)))
  /-- Whether so many bytes are the same at two places. -/
  same (a b size : Nat) : Bool :=
    (List.range size).all fun i =>
      let x := text.get! (a + i)
      let y := text.get! (b + i)
      x == y || (mode.fold && lowerByte x == lowerByte y)
  /-- The bytes that a pattern stands for that always matches one. -/
  simple? : Expression → Option (UInt8 → Bool)
    | .byte b => some fun a => a == b || (mode.fold && lowerByte a == lowerByte b)
    | .one => some fun _ => true
    | .set negated ranges => some fun a => has ranges a != negated
    | _ => none
  /-- How many bytes in a row fulfil a condition, at most so many. -/
  runLength (text : ByteArray) (p : UInt8 → Bool) : Nat → Nat → Nat
    | 0, _ => 0
    | most + 1, place => if p (text.get! place) then runLength text p most (place + 1) + 1 else 0

/-- The spot that lies farthest, the first one of those at its place. -/
def farthest? (spots : List Spot) : Option Spot :=
  spots.foldl (fun best spot =>
    match best with
    | some other => if other.place < spot.place then some spot else best
    | none => some spot) none

/-- A match: where it begins and ends, and what the parts of the pattern matched. -/
structure Match where
  start : Nat
  stop : Nat
  groups : List (Nat × Nat × Nat)

/-- Where a part of the pattern matched; the whole pattern is the part without a number. -/
def Match.part? (found : Match) (index : Nat) : Option (Nat × Nat) :=
  if index == 0 then some (found.start, found.stop) else found.groups.lookup index

/-- The first match from a place on whose ends are accepted; `fuel` bounds how many places are
tried. -/
def findFrom (mode : Mode) (strict : Bool) (accepts : Nat → Nat → Bool) (text : ByteArray)
    (pattern : Expression) (fuel : Nat) (place : Nat) : Option Match :=
  match fuel with
  | 0 => none
  | fuel + 1 =>
      let found := (pattern.spots mode strict text [{ place }]).filter fun spot =>
        accepts place spot.place
      match farthest? found with
      | some spot => some ⟨place, spot.place, spot.groups⟩
      | none => findFrom mode strict accepts text pattern fuel (place + 1)

/-- The first match in a text from a place on whose ends are accepted. -/
def findWhere? (mode : Mode) (accepts : Nat → Nat → Bool) (text : ByteArray)
    (pattern : Expression) (place : Nat) : Option Match :=
  findFrom mode pattern.refersBack accepts text pattern (text.size + 1 - place) place

/-- The first match in a text from a place on. -/
def find? (mode : Mode) (text : ByteArray) (pattern : Expression) (place : Nat) : Option Match :=
  findWhere? mode (fun _ _ => true) text pattern place

/-- The longest match at a place. -/
def matchAt? (mode : Mode) (text : ByteArray) (pattern : Expression) (place : Nat)
    : Option Match :=
  findFrom mode pattern.refersBack (fun _ _ => true) text pattern 1 place

/-- All matches in a text, none of which begins before another ends; `fuel` bounds their number, and
`last` is where the last one ended. An empty match does not follow another one at once. -/
def findAllFrom (mode : Mode) (text : ByteArray) (pattern : Expression) (fuel : Nat)
    (last : Option Nat) (place : Nat) : List Match :=
  match fuel with
  | 0 => []
  | fuel + 1 =>
      match pattern.find? mode text place with
      | none => []
      | some found =>
          if found.start == found.stop then
            if last == some found.start then
              findAllFrom mode text pattern fuel none (place + 1)
            else found :: findAllFrom mode text pattern fuel none (found.stop + 1)
          else found :: findAllFrom mode text pattern fuel (some found.stop) found.stop

/-- All matches in a text. -/
def findAll (mode : Mode) (text : ByteArray) (pattern : Expression) : List Match :=
  findAllFrom mode text pattern (2 * text.size + 2) none 0

/-! ## Spelling -/

/-- What is wrong with the spelling of a pattern. -/
inductive Fault where
  | pattern
  | repetition
  | bracket
  | classSyntax
  | openGroup
  | closedGroup
  | openBrace
  | braceContent
  | rangeEnd
  | reference
  | backslash
  | className
  | collation
  | tooLarge
deriving Repr, DecidableEq

def Fault.message : Fault → String
  | .pattern => "Invalid regular expression"
  | .repetition => "Invalid preceding regular expression"
  | .bracket => "Unmatched [, [^, [:, [., or [="
  | .classSyntax => "character class syntax is [[:space:]], not [:space:]"
  | .openGroup => "Unmatched ( or \\("
  | .closedGroup => "Unmatched ) or \\)"
  | .openBrace => "Unmatched \\\x7b"
  | .braceContent => "Invalid content of \\\x7b\\\x7d"
  | .rangeEnd => "Invalid range end"
  | .reference => "Invalid back reference"
  | .backslash => "Trailing backslash"
  | .className => "Invalid character class name"
  | .collation => "Invalid collation character"
  | .tooLarge => "Regular expression too big"

/-- How patterns are spelled. -/
structure Dialect where
  /-- Parentheses, braces and some other bytes have a meaning without a backslash. -/
  extended : Bool
  /-- Numbers of repetitions are faults where there is nothing to repeat, and so are parentheses
  and braces without others that belong to them. -/
  strict : Bool := true
  /-- Braces hold numbers of repetitions. -/
  braces : Bool := true
  /-- Backslashes have a meaning in brackets, and spell bytes. -/
  escapes : Bool := false

/-- The state of reading. -/
structure Reading where
  rest : List UInt8
  /-- How many groups have been opened, and which of them closed. -/
  groups : Nat := 0
  closed : List Nat := []
  /-- Repetitions of nothing, in their spelling. -/
  bare : List String := []

abbrev Reader := StateT Reading (Except Fault)

/-- Moves on to other bytes. -/
def moveTo (rest : List UInt8) : Reader Unit := modify ({ · with rest })

/-- The bytes after the brace that ends a number of repetitions. -/
def afterBrace? (dialect : Dialect) (text : List UInt8) : Option (List UInt8) :=
  match text with
  | 125 :: rest => if dialect.extended then some rest else none
  | 92 :: 125 :: rest => if dialect.extended then none else some rest
  | _ => none

/-- A number up to a comma or the brace at the end, and the bytes from there on. What is no number
is nothing, and nothing at all is a number without a value. -/
def readCount (dialect : Dialect) (count : Option (Option Nat))
    : List UInt8 → Option (Option Nat) × List UInt8
  | [] => (none, [])
  | b :: rest =>
      if b == 44 || (afterBrace? dialect (b :: rest)).isSome then (count, b :: rest)
      else if ByteClass.contains .digit b then
        readCount dialect (count.map fun value => some (10 * value.getD 0 + (b.toNat - 48))) rest
      else readCount dialect none rest

/-- What braces say of repetitions. -/
inductive Bounds where
  | bounds (least : Nat) (most : Option Nat) (rest : List UInt8)
  /-- They hold something else. -/
  | other (fault : Fault)
  | faulty (fault : Fault)

/-- The number of repetitions that a brace holds. -/
def readBounds (dialect : Dialect) (text : List UInt8) : Bounds :=
  let other (rest : List UInt8) : Bounds :=
    .other (if rest.isEmpty then .openBrace else .braceContent)
  let finish (least : Nat) (most : Option Nat) (rest : List UInt8) : Bounds :=
    match afterBrace? dialect rest with
    | none => .faulty .braceContent
    | some rest =>
        if most.any (· < least) then .faulty .braceContent
        else if 32767 < most.getD least then .faulty .tooLarge
        else .bounds least most rest
  match readCount dialect (some none) text with
  | (none, rest) => other rest
  | (some first, 44 :: rest) =>
      match readCount dialect (some none) rest with
      | (none, rest) => other rest
      | (some last, rest) => finish (first.getD 0) last rest
  | (some none, _) => .faulty .braceContent
  | (some (some count), rest) => finish count (some count) rest

/-- A byte that a backslash spells where escapes have a meaning, and the bytes after it. -/
def readEscape (text : List UInt8) : UInt8 × List UInt8 :=
  match text with
  | [] => (92, [])
  | b :: rest =>
      let letters : List (UInt8 × UInt8) :=
        [(97, 7), (98, 8), (102, 12), (110, 10), (114, 13), (116, 9), (118, 11)]
      match letters.lookup b with
      | some spelled => (spelled, rest)
      | none =>
          let digits := (text.take 3).takeWhile fun b => 48 ≤ b && b ≤ 55
          if digits.isEmpty then (b, rest)
          else
            (UInt8.ofNat (digits.foldl (fun n b => 8 * n + (b.toNat - 48)) 0),
              text.drop digits.length)

/-- A byte at the start of a bracket or after a dash in it: itself, or spelled in brackets. -/
def readMember (dialect : Dialect) (text : List UInt8)
    : Except Fault (Option UInt8 × List UInt8) :=
  match text with
  | 91 :: 46 :: b :: 46 :: 93 :: rest => .ok (some b, rest)
  | 91 :: 61 :: b :: 61 :: 93 :: rest => .ok (some b, rest)
  | 91 :: 46 :: rest => .error (if rest.contains 93 then .collation else .bracket)
  | 92 :: rest =>
      if dialect.escapes then
        let (b, rest) := readEscape rest
        .ok (some b, rest)
      else .ok (some 92, rest)
  | b :: rest => .ok (some b, rest)
  | [] => .error .bracket

/-- The ranges of a bracket, and the bytes after it; `fuel` bounds their number. -/
def readRanges (dialect : Dialect) (fuel : Nat) (first : Bool) (text : List UInt8)
    : Except Fault (List ByteRange × List UInt8) :=
  match fuel with
  | 0 => .error .bracket
  | fuel + 1 => do
      match text with
      | [] => .error .bracket
      | 93 :: rest =>
          if first then readOne fuel 93 rest else .ok ([], rest)
      | 91 :: 58 :: rest =>
          let name := rest.takeWhile (· != 58)
          match rest.drop name.length with
          | 58 :: 93 :: rest =>
              match ByteClass.ofName? (String.ofList (name.map fun b => Char.ofNat b.toNat)) with
              | some byteClass => do
                  let (ranges, rest) ← readRanges dialect fuel false rest
                  return (.named byteClass :: ranges, rest)
              | none => .error .className
          | _ => .error .bracket
      | text =>
          let (b, rest) ← readMember dialect text
          match b with
          | some b => readOne fuel b rest
          | none => .error .bracket
where
  /-- Goes on after a byte, which may begin a range. -/
  readOne (fuel : Nat) (b : UInt8) (rest : List UInt8)
      : Except Fault (List ByteRange × List UInt8) :=
    match fuel with
    | 0 => .error .bracket
    | fuel + 1 => do
        match rest with
        | 45 :: 93 :: rest => .ok ([.single b, .single 45], rest)
        | 45 :: after => do
            let (last?, after) ← readMember dialect after
            match last? with
            | some last =>
                if last < b then .error .rangeEnd
                else
                  match after with
                  | 45 :: 93 :: rest => .ok ([.range b last, .single 45], rest)
                  | 45 :: _ => .error .rangeEnd
                  | after =>
                      let (ranges, rest) ← readRanges dialect fuel false after
                      return (.range b last :: ranges, rest)
            | none => .error .bracket
        | rest => do
            let (ranges, rest) ← readRanges dialect fuel false rest
            return (.single b :: ranges, rest)

/-- A set after its opening bracket. -/
def readSet (dialect : Dialect) : Reader Expression := do
  let text := (← get).rest
  let (negated, inner) : Bool × List UInt8 :=
    match text with
    | 94 :: inner => (true, inner)
    | inner => (false, inner)
  if inner.isEmpty then throw .pattern
  let (ranges, rest) ← readRanges dialect (2 * inner.length + 2) true inner
  let spelled := text.take (text.length - rest.length - 1)
  if !dialect.escapes && 2 < spelled.length && spelled.head? == some 58 &&
      spelled.getLast? == some 58 then
    throw .classSyntax
  moveTo rest
  return .set negated ranges

/-- Classes and anchors that a byte after a backslash stands for. -/
def namedByte? (b : UInt8) : Option Expression :=
  let word : List ByteRange := [.named .alnum, .single 95]
  match Char.ofNat b.toNat with
  | 'w' => some (.set false word)
  | 'W' => some (.set true word)
  | 's' => some (.set false [.named .space])
  | 'S' => some (.set true [.named .space])
  | '<' => some .wordStart
  | '>' => some .wordEnd
  | 'b' => some .boundary
  | 'B' => some .inside
  | '\x60' => some .textStart
  | '\'' => some .textEnd
  | _ => none

/-- What ends a sequence. -/
inductive Next where
  | none
  | bar (rest : List UInt8)
  | close (rest : List UInt8)

/-- What ends a sequence at the start of some bytes, inside of so many groups. -/
def nextOf (dialect : Dialect) (depth : Nat) (text : List UInt8) : Next :=
  let close (rest : List UInt8) : Next :=
    if depth == 0 && dialect.extended && !dialect.strict then .none else .close rest
  if dialect.extended then
    match text with
    | 124 :: rest => .bar rest
    | 41 :: rest => close rest
    | _ => .none
  else
    match text with
    | 92 :: 124 :: rest => .bar rest
    | 92 :: 41 :: rest => close rest
    | _ => .none

/-- The repetition at the start of some bytes, and the bytes after it. -/
def repetition? (dialect : Dialect) (text : List UInt8)
    : Except Fault (Option ((Nat × Option Nat) × List UInt8)) :=
  let braced (rest : List UInt8) : Except Fault (Option ((Nat × Option Nat) × List UInt8)) :=
    if !dialect.braces then .ok none
    else
      match readBounds dialect rest with
      | .bounds least most rest => .ok (some ((least, most), rest))
      | .other fault => if dialect.extended && !dialect.strict then .ok none else .error fault
      | .faulty fault => .error fault
  match text with
  | 42 :: rest => .ok (some ((0, none), rest))
  | 43 :: rest => .ok (if dialect.extended then some ((1, none), rest) else none)
  | 63 :: rest => .ok (if dialect.extended then some ((0, some 1), rest) else none)
  | 123 :: rest => if dialect.extended then braced rest else .ok none
  | 92 :: 43 :: rest => .ok (if dialect.extended then none else some ((1, none), rest))
  | 92 :: 63 :: rest => .ok (if dialect.extended then none else some ((0, some 1), rest))
  | 92 :: 123 :: rest => if dialect.extended then .ok none else braced rest
  | _ => .ok none

/-- Whether a pattern is an anchor of a line. -/
def isAnchor (pattern : Expression) : Bool := pattern == .lineStart || pattern == .lineEnd

mutual

/-- Reads alternatives, inside of so many groups; `fuel` bounds the nesting. -/
def readChoice (dialect : Dialect) (fuel depth : Nat) : Reader Expression :=
  match fuel with
  | 0 => throw .tooLarge
  | fuel + 1 => do
      let left ← readSequence dialect fuel depth true
      match nextOf dialect depth (← get).rest with
      | .bar rest =>
          moveTo rest
          return .choice left (← readChoice dialect fuel depth)
      | .close _ => if depth == 0 then throw .closedGroup else return left
      | .none => return left

/-- Reads what follows one another; `first` tells whether nothing came before. -/
def readSequence (dialect : Dialect) (fuel depth : Nat) (first : Bool) : Reader Expression :=
  match fuel with
  | 0 => throw .tooLarge
  | fuel + 1 => do
      let text := (← get).rest
      match text, nextOf dialect depth text with
      | [], _ => return .empty
      | _, .bar _ | _, .close _ => return .empty
      | _, .none =>
          let atom ← readAtom dialect fuel depth first
          let bare := first && !dialect.extended && atom == .lineStart
          let piece ← if bare then pure atom else readRepetitions dialect fuel false atom
          let rest ← readSequence dialect fuel depth bare
          return if rest == .empty then piece else .sequence piece rest

/-- Reads the repetitions of a pattern. -/
def readRepetitions (dialect : Dialect) (fuel : Nat) (again : Bool) (atom : Expression)
    : Reader Expression :=
  match fuel with
  | 0 => throw .tooLarge
  | fuel + 1 => do
      match ← repetition? dialect (← get).rest with
      | none => return atom
      | some ((least, most), rest) =>
          if dialect.strict &&
              ((again && !dialect.extended) || (dialect.extended && !again && isAnchor atom)) then
            throw .repetition
          moveTo rest
          readRepetitions dialect fuel true (.repeated atom least most)

/-- Reads one part of a sequence. -/
def readAtom (dialect : Dialect) (fuel depth : Nat) (first : Bool) : Reader Expression :=
  match fuel with
  | 0 => throw .tooLarge
  | fuel + 1 => do
      let text := (← get).rest
      match text with
      | [] => return .empty
      | b :: rest =>
          if first && b == 123 && dialect.extended && dialect.strict && dialect.braces then
            throw .repetition
          let starts ← if first then repetition? dialect text else pure none
          match starts with
          | some (_, after) =>
              if dialect.extended then
                if dialect.strict then throw .repetition
                else
                  let text := if b == 123 then "\x7b...\x7d"
                    else String.singleton (Char.ofNat b.toNat)
                  modify fun reading => { reading with rest := after, bare := text :: reading.bare }
                  return .empty
              else if b == 42 then
                moveTo rest
                return .byte 42
              else if text.take 2 == [92, 123] then
                if dialect.strict then throw .repetition
                else
                  moveTo after
                  return .empty
              else
                moveTo (rest.drop 1)
                return .byte (rest.headD 0)
          | none =>
              moveTo rest
              match Char.ofNat b.toNat with
              | '.' => return .one
              | '[' => readSet dialect
              | '\\' => readEscaped dialect fuel depth rest
              | '^' => return if dialect.extended || first then .lineStart else .byte b
              | '$' =>
                  let ends := match rest, nextOf dialect depth rest with
                    | [], _ => true
                    | _, .none => false
                    | _, _ => true
                  return if dialect.extended || ends then .lineEnd else .byte b
              | '(' =>
                  if dialect.extended then readGroup dialect fuel depth else return .byte b
              | _ => return .byte b

/-- Reads a group after its opening parenthesis. -/
def readGroup (dialect : Dialect) (fuel depth : Nat) : Reader Expression :=
  match fuel with
  | 0 => throw .tooLarge
  | fuel + 1 => do
      let index := (← get).groups + 1
      modify fun reading => { reading with groups := index }
      let body ← readChoice dialect fuel (depth + 1)
      match nextOf dialect (depth + 1) (← get).rest with
      | .close rest =>
          modify fun reading => { reading with rest, closed := index :: reading.closed }
          return .group index body
      | _ => throw .openGroup

/-- Reads what follows a backslash. -/
def readEscaped (dialect : Dialect) (fuel depth : Nat) (text : List UInt8) : Reader Expression :=
  match fuel with
  | 0 => throw .tooLarge
  | fuel + 1 => do
      match text with
      | [] => if dialect.escapes then return .byte 92 else throw .backslash
      | b :: rest =>
          moveTo rest
          if dialect.escapes then
            let (b, rest) := readEscape text
            moveTo rest
            return .byte b
          else if b == 40 && !dialect.extended then readGroup dialect fuel depth
          else if 49 ≤ b && b ≤ 57 then
            let index := b.toNat - 48
            if (← get).closed.contains index then return .back index else throw .reference
          else
            match namedByte? b with
            | some pattern => return pattern
            | none => return .byte b

end

/-- A pattern that has been read, how many groups it has, and the repetitions of nothing in it. -/
structure Spelled where
  pattern : Expression
  groups : Nat
  bare : List String

/-- Reads a pattern. -/
def parse (dialect : Dialect) (text : List UInt8) : Except Fault Spelled := do
  let (pattern, reading) ← (readChoice dialect (8 * text.length + 16) 0).run { rest := text }
  return ⟨pattern, reading.groups, reading.bare.reverse⟩

/-- The pattern that stands for a text. -/
def literal : List UInt8 → Expression
  | [] => .empty
  | [b] => .byte b
  | b :: rest => .sequence (.byte b) (literal rest)

end Expression

end Groundwork
