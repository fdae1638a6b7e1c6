import Groundwork.Bits
import Groundwork.Pattern.Class
import Groundwork.Pattern.Node
import Groundwork.Text.Blank
import Groundwork.Unicode.Letter

/-!
Reading patterns from their written form. Switches change how the rest of a pattern is read; those set
within a group hold to the end of that group. A name belongs to one group only.
-/

namespace Groundwork.Pattern

open Groundwork.Unicode

/-- The switches in force at a place of a pattern. -/
structure Flags where
  ignoreCase : Bool := false
  multiLine : Bool := true
  dotMatchesNewline : Bool := false
  swapGreed : Bool := false
  unicode : Bool := true
  carriageReturn : Bool := false
  ignoreWhitespace : Bool := false
deriving Repr, DecidableEq

/-- Sets the switch of a letter, if there is one. -/
def Flags.set? (flags : Flags) (letter : Char) (on : Bool) : Option Flags :=
  match letter with
  | 'i' => some { flags with ignoreCase := on }
  | 'm' => some { flags with multiLine := on }
  | 's' => some { flags with dotMatchesNewline := on }
  | 'U' => some { flags with swapGreed := on }
  | 'u' => some { flags with unicode := on }
  | 'R' => some { flags with carriageReturn := on }
  | 'x' => some { flags with ignoreWhitespace := on }
  | _ => none

/-- Sets the switches that letters name; those after a hyphen are turned off. No letter and no
hyphen may come twice, and a letter follows the hyphen. -/
def Flags.setAll? (flags : Flags) (letters : List Char) : Option Flags :=
  let on := letters.takeWhile (· != '-')
  let off := (letters.dropWhile (· != '-')).drop 1
  if letters.length != letters.eraseDups.length || letters.getLast? == some '-' then none
  else do
    let flags ← on.foldlM (fun flags letter => flags.set? letter true) flags
    off.foldlM (fun flags letter => flags.set? letter false) flags

/-- What is left of a pattern to read, and what was seen so far. -/
structure ReadState where
  text : List Char
  flags : Flags
  groups : Nat
  names : List (String × Nat)

/-- A step of reading. A fault is a short description of what is wrong. -/
abbrev Read := StateT ReadState (Except String)

/-- A piece of a pattern, with how deep its parts lie within one another. A piece that only sets
switches cannot be repeated. -/
structure Piece where
  node : Node
  depth : Nat
  repeatable : Bool

/-- How deep the parts of a pattern may lie within one another. -/
def depthLimit : Nat := 250

/-- The largest count of a repetition. -/
def countLimit : Nat := Bits.count 32

namespace Read

def remaining : Read (List Char) := do return (← get).text

def flags : Read Flags := do return (← get).flags

def setText (text : List Char) : Read Unit := modify fun s => { s with text }

def setFlags (flags : Flags) : Read Unit := modify fun s => { s with flags }

def peek : Read (Option Char) := do return (← get).text.head?

def bump : Read Unit := modify fun s => { s with text := s.text.drop 1 }

/-- Drops blanks and comments up to the end of their line. -/
def dropSpace : Nat → List Char → List Char
  | 0, text => text
  | fuel + 1, text =>
      match text.dropWhile Text.isBlank with
      | '#' :: rest => dropSpace fuel ((rest.dropWhile (· != '\n')).drop 1)
      | rest => rest

/-- Passes over blanks and comments where the switches say so. -/
def bumpSpace : Read Unit := do
  if (← flags).ignoreWhitespace then
    modify fun s => { s with text := dropSpace (s.text.length + 1) s.text }

/-- Moves on by a character and what blanks follow, and tells whether anything is left. -/
def advance : Read Bool := do
  bump
  bumpSpace
  return !(← remaining).isEmpty

/-- The character after the present one, past blanks where the switches say so. -/
def peekPastSpace : Read (Option Char) := do
  let rest := (← remaining).drop 1
  if (← flags).ignoreWhitespace then
    match rest.dropWhile Text.isBlank with
    | '#' :: rest => return (rest.dropWhile Text.isBlank).head?
    | rest => return rest.head?
  else return rest.head?

def orFail {α : Type} (what : String) : Option α → Read α
  | some a => pure a
  | none => throw what

/-- The present character, which must be there. -/
def expectChar (what : String) : Read Char := do orFail what (← peek)

end Read

open Read

def hexValue? (c : Char) : Option Nat :=
  if '0' ≤ c && c ≤ '9' then some (c.toNat - '0'.toNat)
  else if 'a' ≤ c && c ≤ 'f' then some (c.toNat - 'a'.toNat + 10)
  else if 'A' ≤ c && c ≤ 'F' then some (c.toNat - 'A'.toNat + 10)
  else none

/-- The character with a code point, if there is one. -/
def charOfPoint? (n : Nat) : Option Char :=
  if n < 0xD800 || (0xDFFF < n && n ≤ 0x10FFFF) then some (Char.ofNat n) else none

/-- A run of decimal digits with blanks around them. -/
def readCount : Read (Option Nat) := do
  setText ((← remaining).dropWhile Text.isBlank)
  let rec digits (fuel : Nat) (seen : List Char) : Read (List Char) := do
    match fuel with
    | 0 => return seen
    | fuel + 1 =>
        match ← peek with
        | some c =>
            if c.isDigit then
              let _ ← advance
              digits fuel (seen ++ [c])
            else return seen
        | none => return seen
  let seen ← digits ((← remaining).length) []
  setText ((← remaining).dropWhile Text.isBlank)
  if seen.isEmpty then return none
  else
    let n := seen.foldl (fun n c => 10 * n + (c.toNat - '0'.toNat)) 0
    if n < countLimit then return some n else throw "decimal literal invalid"

/-- Reads `count` hexadecimal digits. -/
def readHexDigits : Nat → Nat → Read Nat
  | 0, value => pure value
  | count + 1, value => do
      let c ← expectChar "incomplete escape sequence"
      let digit ← orFail "invalid hexadecimal digit" (hexValue? c)
      let _ ← advance
      readHexDigits count (16 * value + digit)

/-- Reads hexadecimal digits up to a closing brace. -/
def readHexBraced : Nat → Nat → Nat → Read Nat
  | 0, _, _ => throw "incomplete escape sequence"
  | fuel + 1, count, value => do
      let c ← expectChar "incomplete escape sequence"
      if c == '\x7d' then
        let _ ← advance
        if count == 0 then throw "hexadecimal literal empty" else return value
      else
        let digit ← orFail "invalid hexadecimal digit" (hexValue? c)
        let _ ← advance
        readHexBraced fuel (count + 1) (min (16 * value + digit) 0x110000)

/-- What a backslash and what follows it stand for. -/
inductive Escape where
  /-- A character; `byte` if it was given by two hexadecimal digits. -/
  | char (c : Char) (byte : Bool)
  | set (set : CharSet)
  | look (condition : Look)

/-- Everything outside of a set. Without Unicode that is bytes of which no text is made. -/
def negateSet (set : CharSet) : Read CharSet := do
  if (← flags).unicode then return set.complement else throw "pattern can match invalid UTF-8"

/-- The classes of a property or category, in one letter or in braces. -/
def readProperty (negated : Bool) : Read CharSet := do
  if !(← flags).unicode then throw "Unicode not allowed here"
  let c ← expectChar "incomplete escape sequence"
  let (others, set) ←
    if c == '\x7b' then do
      let rec name (fuel : Nat) (seen : List Char) : Read (List Char) := do
        match fuel with
        | 0 => throw "incomplete escape sequence"
        | fuel + 1 =>
            let c ← expectChar "incomplete escape sequence"
            if c == '\x7d' then return seen
            else
              let _ ← advance
              name fuel (seen ++ [c])
      let _ ← advance
      let seen ← name ((← remaining).length + 1) []
      bump
      orFail "Unicode property not found" (bracedClass? seen)
    else if c == '\\' then throw "invalid Unicode character class"
    else do
      let _ ← advance
      let set ← orFail "Unicode property not found" (unicodeClass? (String.ofList [c]))
      pure (false, set)
  let folded := if (← flags).ignoreCase then set.foldCase else set
  return if negated != others then folded.complement else folded

/-- The special word boundaries that a name in braces asks for. Anything but letters and hyphens
in the braces is left to be read as a count. -/
def readBoundary (ascii : Bool) : Read Look := do
  let start ← remaining
  if start.head? != some '\x7b' then return .wordBoundary ascii
  if !(← advance) then throw "special word boundary or repetition unclosed"
  let isNameChar (c : Char) : Bool := c.isAlpha || c == '-'
  let first ← expectChar "special word boundary unclosed"
  if !isNameChar first then
    setText start
    return .wordBoundary ascii
  let rec name (fuel : Nat) (seen : List Char) : Read (List Char) := do
    match fuel with
    | 0 => return seen
    | fuel + 1 =>
        match ← peek with
        | some c =>
            if c.isAlpha || c == '-' then
              let _ ← advance
              name fuel (seen ++ [c])
            else return seen
        | none => return seen
  let seen ← name ((← remaining).length) []
  if (← peek) != some '\x7d' then throw "special word boundary unclosed"
  bump
  match String.ofList seen with
  | "start" => return .wordStart ascii
  | "end" => return .wordEnd ascii
  | "start-half" => return .wordStartHalf ascii
  | "end-half" => return .wordEndHalf ascii
  | _ => throw "unrecognized special word boundary"

def metaCharacters : List Char := "\\.+*?()|[]\x7b\x7d^$#&-~".toList

/-- Reads an escape from its backslash on. -/
def readEscape : Read Escape := do
  bump
  let c ← expectChar "incomplete escape sequence"
  let flags ← flags
  let ascii := !flags.unicode
  if c.isDigit then throw "backreferences are not supported"
  match c with
  | 'x' | 'u' | 'U' =>
      if !(← advance) then throw "incomplete escape sequence"
      if (← peek) == some '\x7b' then
        let _ ← advance
        let value ← readHexBraced ((← remaining).length + 1) 0 0
        return .char (← orFail "invalid hexadecimal literal" (charOfPoint? value)) false
      else
        let count := if c == 'x' then 2 else if c == 'u' then 4 else 8
        let value ← readHexDigits count 0
        return .char (← orFail "invalid hexadecimal literal" (charOfPoint? value)) (c == 'x')
  | 'p' | 'P' =>
      if !(← advance) then throw "incomplete escape sequence"
      return .set (← readProperty (c == 'P'))
  | 'd' | 's' | 'w' | 'D' | 'S' | 'W' =>
      bump
      let set ← orFail "class" (letterClass? c flags.unicode)
      return .set (← if c.isUpper then negateSet set else pure set)
  | _ =>
      bump
      if metaCharacters.contains c then return .char c false
      match c with
      | 'a' => return .char '\x07' false
      | 'f' => return .char '\x0c' false
      | 't' => return .char '\t' false
      | 'n' => return .char '\n' false
      | 'r' => return .char '\r' false
      | 'v' => return .char '\x0b' false
      | 'A' => return .look .textStart
      | 'z' => return .look .textEnd
      | 'b' => return .look (← readBoundary ascii)
      | 'B' => return .look (.noWordBoundary ascii)
      | '<' => return .look (.wordStart ascii)
      | '>' => return .look (.wordEnd ascii)
      | _ =>
          if c.toNat < 0x80 && !c.isAlphanum then return .char c false
          else throw "unrecognized escape sequence"

/-! ## Classes in brackets -/

/-- The ways to combine two sides of a class. -/
inductive ClassOp where
  | intersection
  | difference
  | symmetricDifference

def ClassOp.combine : ClassOp → CharSet → CharSet → CharSet
  | .intersection, a, b => a.inter b
  | .difference, a, b => a.diff b
  | .symmetricDifference, a, b => a.symmDiff b

def foldSet (flags : Flags) (set : CharSet) : CharSet :=
  if flags.ignoreCase then if flags.unicode then set.foldCase else foldAscii set else set

/-- What was read of a class: its left side with the operation and the height, if there is one, the
items of the present side, how many these are, and how deep they lie. -/
structure ClassState where
  pending : Option (ClassOp × CharSet × Nat)
  items : List CharSet
  count : Nat
  depth : Nat

/-- The set read so far, its left side taken into account. -/
def ClassState.value (flags : Flags) (state : ClassState) : CharSet :=
  let right := CharSet.unions state.items
  match state.pending with
  | none => right
  | some (op, left, _) => op.combine (foldSet flags left) (foldSet flags right)

/-- How deep what was read lies: several items, and the two sides of an operation, lie within
something of their own. -/
def ClassState.height (state : ClassState) : Nat :=
  let right := if state.count < 2 then state.depth else state.depth + 1
  match state.pending with
  | none => right
  | some (_, _, left) => max left right + 1

/-- An item or the end of a range within a class: a character, or a set. -/
def readClassItem : Read (Sum Char CharSet) := do
  let c ← expectChar "unclosed character class"
  if c == '\\' then
    match ← readEscape with
    | .char c _ =>
        if !(← flags).unicode && 0x7F < c.toNat then throw "Unicode not allowed here"
        return .inl c
    | .set set => return .inr set
    | .look _ => throw "invalid escape sequence found in character class"
  else
    bump
    if !(← flags).unicode && 0x7F < c.toNat then throw "Unicode not allowed here"
    return .inl c

/-- A single item of a class or a range. -/
def readClassRange : Read CharSet := do
  let first ← readClassItem
  bumpSpace
  let c ← expectChar "unclosed character class"
  let next ← peekPastSpace
  if c != '-' || next == some ']' || next == some '-' then
    match first with
    | .inl c => return .ofChar c
    | .inr set => return set
  else
    if !(← advance) then throw "unclosed character class"
    let second ← readClassItem
    match first, second with
    | .inl low, .inl high =>
        if low ≤ high then return .range low high else throw "invalid character class range"
    | _, _ => throw "invalid range boundary, must be a literal"

/-- The named class between a bracket with a colon and a colon with a bracket. -/
def readAsciiClass : Read (Option CharSet) := do
  match ← remaining with
  | '[' :: ':' :: rest =>
      let (negated, rest) :=
        match rest with
        | '^' :: rest => (true, rest)
        | _ => (false, rest)
      match rest.dropWhile (· != ':') with
      | ':' :: ']' :: after =>
          match asciiClass? (String.ofList (rest.takeWhile (· != ':'))) with
          | some set =>
              setText after
              let folded := foldSet (← flags) set
              return some (← if negated then negateSet folded else pure folded)
          | none => return none
      | _ => return none
  | _ => return none

/-- Takes hyphens at the start of a class as they stand. -/
def readLeadingHyphens : Nat → Nat → Read Nat
  | 0, count => pure count
  | fuel + 1, count => do
      if (← peek) == some '-' then
        if !(← advance) then throw "unclosed character class"
        readLeadingHyphens fuel (count + 1)
      else return count

mutual

/-- Reads a class from its opening bracket on; the set and its depth. -/
def readClass (fuel : Nat) : Read (CharSet × Nat) := do
  match fuel with
  | 0 => throw "unclosed character class"
  | fuel + 1 =>
      if !(← advance) then throw "unclosed character class"
      let negated := (← peek) == some '^'
      if negated then
        if !(← advance) then throw "unclosed character class"
      let hyphens ← readLeadingHyphens ((← remaining).length + 1) 0
      let bracket := hyphens == 0 && (← peek) == some ']'
      if bracket then
        if !(← advance) then throw "unclosed character class"
      let items :=
        if bracket then [CharSet.ofChar ']'] else List.replicate (min hyphens 1) (.ofChar '-')
      let (set, depth) ← readClassItems fuel ⟨none, items, if bracket then 1 else hyphens, 0⟩
      let folded := foldSet (← flags) set
      return (← if negated then negateSet folded else pure folded, depth + 1)

/-- Reads the items of a class up to its closing bracket. -/
def readClassItems (fuel : Nat) (state : ClassState) : Read (CharSet × Nat) := do
  match fuel with
  | 0 => throw "unclosed character class"
  | fuel + 1 =>
      bumpSpace
      let c ← expectChar "unclosed character class"
      let next := (← remaining).drop 1 |>.head?
      let operate (op : ClassOp) : Read (CharSet × Nat) := do
        bump
        bump
        let left := state.value (← flags)
        readClassItems fuel ⟨some (op, left, state.height), [], 0, 0⟩
      if c == '[' then
        match ← readAsciiClass with
        | some set =>
            readClassItems fuel { state with items := set :: state.items, count := state.count + 1 }
        | none =>
            let (set, depth) ← readClass fuel
            readClassItems fuel
              { state with
                items := set :: state.items
                count := state.count + 1
                depth := max state.depth depth }
      else if c == ']' then
        bump
        return (state.value (← flags), state.height)
      else if c == '&' && next == some '&' then operate .intersection
      else if c == '-' && next == some '-' then operate .difference
      else if c == '~' && next == some '~' then operate .symmetricDifference
      else
        let set ← readClassRange
        readClassItems fuel { state with items := set :: state.items, count := state.count + 1 }

end

/-! ## Patterns -/

/-- A set as a pattern; without Unicode it may hold no byte beyond ASCII. -/
def setPiece (set : CharSet) : Read Node := do
  if !(← flags).unicode && set.toList.any (fun range => 0x7F < range.2) then
    throw "pattern can match invalid UTF-8"
  return .ofSet set

/-- A character as a pattern, with those that it folds together with. -/
def charPiece (c : Char) (byte : Bool) : Read Node := do
  let flags ← flags
  if !flags.unicode && byte && 0x7F < c.toNat then throw "pattern can match invalid UTF-8"
  return .ofSet (foldSet flags (.ofChar c))

/-- A single character, escape, class of the point, or condition. -/
def readPrimitive : Read Node := do
  let c ← expectChar "unexpected end"
  let flags ← flags
  match c with
  | '\\' =>
      match ← readEscape with
      | .char c byte => charPiece c byte
      | .set set => setPiece set
      | .look condition => return .look condition
  | '.' =>
      bump
      if !flags.unicode then throw "pattern can match invalid UTF-8"
      else if flags.dotMatchesNewline then return .chars .all
      else if flags.carriageReturn then return .chars (CharSet.ofChars ['\n', '\r']).complement
      else return .chars (CharSet.ofChar '\n').complement
  | '^' =>
      bump
      return .look (if flags.multiLine then
        if flags.carriageReturn then .lineStartReturn else .lineStart else .textStart)
  | '$' =>
      bump
      return .look (if flags.multiLine then
        if flags.carriageReturn then .lineEndReturn else .lineEnd else .textEnd)
  | _ =>
      bump
      charPiece c false

/-- The piece that a repetition applies to. -/
def lastPiece (pieces : List Piece) : Read (Piece × List Piece) :=
  match pieces with
  | piece :: rest =>
      if piece.repeatable then pure (piece, rest)
      else throw "repetition operator missing expression"
  | [] => throw "repetition operator missing expression"

def repeatPiece (least : Nat) (most : Option Nat) (lazy : Bool) (piece : Piece) : Read Piece := do
  let swap := (← flags).swapGreed
  return ⟨.repeated least most (lazy == swap) piece.node, piece.depth + 1, true⟩

/-- Reads a question mark that makes a repetition lazy. -/
def readLazy : Read Bool := do
  if (← peek) == some '?' then
    bump
    return true
  else return false

/-- Reads the counts of a repetition from its opening brace on. -/
def readCounts : Read (Nat × Option Nat) := do
  let unclosed := "unclosed counted repetition"
  if !(← advance) then throw unclosed
  let first ← readCount
  let c ← expectChar unclosed
  let counts ←
    if c == ',' then do
      if !(← advance) then throw unclosed
      let least ← orFail "repetition quantifier expects a valid decimal" first
      if (← peek) == some '\x7d' then pure (least, none)
      else
        let most ← orFail "repetition quantifier expects a valid decimal" (← readCount)
        pure (least, some most)
    else do
      let count ← orFail "repetition quantifier expects a valid decimal" first
      pure (count, some count)
  if (← peek) != some '\x7d' then throw unclosed
  let _ ← advance
  match counts with
  | (least, some most) =>
      if most < least then throw "invalid repetition count range" else return counts
  | _ => return counts

/-- Reads the name of a group up to its closing angle bracket. -/
def readGroupName : Read String := do
  let text ← remaining
  let name := text.takeWhile (· != '>')
  if name.length == text.length then throw "unclosed capture group name"
  if name.isEmpty then throw "empty capture group name"
  let isFirst (c : Char) : Bool := c == '_' || Unicode.letterSet.contains c
  let isOther (c : Char) : Bool :=
    c == '_' || c == '.' || c == '[' || c == ']' || Unicode.letterOrNumberSet.contains c
  if !(name.head?.all isFirst && (name.drop 1).all isOther) then
    throw "invalid capture group character"
  setText (text.drop (name.length + 1))
  return String.ofList name

/-- A sequence of pieces. -/
def joinPieces (pieces : List Piece) : Piece :=
  let depth := (pieces.map (·.depth)).foldl max 0
  match pieces with
  | [] => ⟨.empty, 0, true⟩
  | [piece] => { piece with repeatable := true }
  | _ => ⟨.concat (pieces.map (·.node)), depth + 1, true⟩

/-- What an opening parenthesis begins. -/
inductive Opening where
  | switches (flags : Flags)
  | plain (flags : Flags)
  | numbered (index : Nat)

/-- Counts a group. -/
def nextGroup : Read Nat := do
  let index := (← get).groups + 1
  modify fun s => { s with groups := index }
  return index

/-- Reads the start of a group from its parenthesis on. -/
def readOpening : Read Opening := do
  bump
  bumpSpace
  let text ← remaining
  if ["?=", "?!", "?<=", "?<!"].any (fun mark => mark.toList.isPrefixOf text) then
    throw "look-around, including look-ahead and look-behind, is not supported"
  let named : Option Nat :=
    if "?P<".toList.isPrefixOf text then some 3
    else if "?<".toList.isPrefixOf text then some 2
    else none
  match named with
  | some length =>
      let index ← nextGroup
      setText (text.drop length)
      let name ← readGroupName
      if (← get).names.any (fun entry => entry.1 == name) then
        throw "duplicate capture group name"
      modify fun s => { s with names := s.names ++ [(name, index)] }
      return .numbered index
  | none =>
      if text.head? == some '?' then
        let rest := text.drop 1
        let letters := rest.takeWhile (fun c => c != ':' && c != ')')
        let flags ← orFail "unrecognized flag" ((← flags).setAll? letters)
        match rest.drop letters.length with
        | ')' :: after =>
            if letters.isEmpty then throw "repetition operator missing expression"
            setText after
            return .switches flags
        | ':' :: after =>
            setText after
            return .plain flags
        | _ => throw "unclosed group"
      else return .numbered (← nextGroup)

mutual

/-- Reads choices up to a closing parenthesis or the end. -/
def readChoice (fuel : Nat) : Read Piece := do
  match fuel with
  | 0 => throw "pattern too long"
  | fuel + 1 =>
      let branches ← readBranches fuel
      match branches with
      | [branch] => return branch
      | _ =>
          let depth := (branches.map (·.depth)).foldl max 0
          return ⟨.alternatives (branches.map (·.node)), depth + 1, true⟩

def readBranches (fuel : Nat) : Read (List Piece) := do
  match fuel with
  | 0 => throw "pattern too long"
  | fuel + 1 =>
      let branch ← readSequence fuel []
      if (← peek) == some '|' then
        bump
        let branches ← readBranches fuel
        return branch :: branches
      else return [branch]

/-- Reads pieces one after the other; those read before come in reverse. -/
def readSequence (fuel : Nat) (before : List Piece) : Read Piece := do
  match fuel with
  | 0 => throw "pattern too long"
  | fuel + 1 =>
      bumpSpace
      match ← peek with
      | none => return joinPieces before.reverse
      | some c =>
          let again (least : Nat) (most : Option Nat) : Read Piece := do
            let (piece, rest) ← lastPiece before
            bump
            let piece ← repeatPiece least most (← readLazy) piece
            readSequence fuel (piece :: rest)
          match c with
          | '|' => return joinPieces before.reverse
          | ')' => return joinPieces before.reverse
          | '(' =>
              let outer ← flags
              match ← readOpening with
              | .switches flags =>
                  setFlags flags
                  readSequence fuel (⟨.empty, 0, false⟩ :: before)
              | .plain inner =>
                  setFlags inner
                  let piece ← readChoice fuel
                  if (← peek) != some ')' then throw "unclosed group"
                  setFlags outer
                  bump
                  readSequence fuel (⟨piece.node, piece.depth + 1, true⟩ :: before)
              | .numbered index =>
                  let piece ← readChoice fuel
                  if (← peek) != some ')' then throw "unclosed group"
                  setFlags outer
                  bump
                  readSequence fuel (⟨.group index piece.node, piece.depth + 1, true⟩ :: before)
          | '[' =>
              let (set, depth) ← readClass (2 * (← remaining).length + 2)
              let node ← setPiece set
              readSequence fuel (⟨node, depth, true⟩ :: before)
          | '?' => again 0 (some 1)
          | '*' => again 0 none
          | '+' => again 1 none
          | '\x7b' =>
              let (piece, rest) ← lastPiece before
              let (least, most) ← readCounts
              let piece ← repeatPiece least most (← readLazy) piece
              readSequence fuel (piece :: rest)
          | _ =>
              let node ← readPrimitive
              readSequence fuel (⟨node, 0, true⟩ :: before)

end

/-- A pattern as it was written: its tree, the number of its groups and their names. -/
structure Written where
  node : Node
  groups : Nat
  names : List (String × Nat)

/-- Reads a whole pattern. -/
def read (text : String) : Except String Written := do
  let chars := text.toList
  let start : ReadState := ⟨chars, {}, 0, []⟩
  let (piece, state) ← (readChoice (3 * chars.length + 8)).run start
  if !state.text.isEmpty then throw "unopened group"
  if depthLimit < piece.depth then throw "nest limit exceeded"
  return ⟨piece.node, state.groups, state.names⟩

end Groundwork.Pattern
