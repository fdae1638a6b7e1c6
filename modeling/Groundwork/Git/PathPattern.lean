import Groundwork.Text.Glob

/-!
Patterns of paths as rules about paths spell them. A pattern that is not well formed matches
nothing, and two stars that fill a segment stand for any number of directories.
-/

namespace Groundwork.Git

namespace PathPattern

/-- Whether a byte is the start of a wildcard or of an escape. -/
def isSpecial (b : UInt8) : Bool := b == 42 || b == 63 || b == 91 || b == 92

/-- How many bytes at the start of a text stand for themselves. -/
def plainLength (text : List UInt8) : Nat := (text.takeWhile (!isSpecial ·)).length

/-- The next part of a set: its ranges, the byte with which a range may go on, and the text after
it. -/
def readRange (previous : Option UInt8) (text : List UInt8)
    : Option (ByteRange × Option UInt8 × List UInt8) :=
  match text, previous with
  | [], _ => none
  | [92], _ => none
  | 92 :: b :: rest, _ => some (.single b, some b, rest)
  | 45 :: b :: rest, some first =>
      if b == 93 then some (.single 45, some 45, b :: rest)
      else if b == 92 then
        match rest with
        | [] => none
        | last :: rest => some (.range first last, none, rest)
      else some (.range first b, none, rest)
  | 91 :: 58 :: rest, _ =>
      let name := rest.takeWhile (· != 93)
      match rest.drop name.length with
      | [] => none
      | _ :: after =>
          if name.getLast? == some 58 then
            (ByteClass.ofName? (String.ofList (name.dropLast.map fun b =>
              Char.ofNat b.toNat))).map fun byteClass => (.named byteClass, none, after)
          else some (.single 91, some 91, 58 :: rest)
  | b :: rest, _ => some (.single b, some b, rest)

/-- Reads the parts of a set up to the bracket that ends it; a bracket that comes first is a member
of the set. -/
def readRanges (fuel : Nat) (previous : Option UInt8) (ranges : List ByteRange)
    (text : List UInt8) : Option (List ByteRange × List UInt8) :=
  match fuel with
  | 0 => none
  | fuel + 1 =>
      match readRange previous text with
      | none => none
      | some (range, _, 93 :: rest) => some ((range :: ranges).reverse, rest)
      | some (range, next, rest) => readRanges fuel next (range :: ranges) rest

/-- The token for two stars or more, given whether a segment begins with them and what follows. -/
def starsToken (start : Bool) (rest : List UInt8) : GlobToken × List UInt8 :=
  match rest with
  | [] => (if start then .anything else .many, [])
  | 47 :: after => if start then (.directories, after) else (.many, rest)
  | 92 :: 47 :: _ => (if start then .anything else .many, rest)
  | rest => (.many, rest)

/-- The pattern that a text spells, at the start of a segment or not. With `fold` letters that are
not escaped are taken in their small form. -/
def read (fuel : Nat) (fold start : Bool) (text : List UInt8) : Glob :=
  match fuel with
  | 0 => []
  | fuel + 1 =>
      match text with
      | [] => []
      | 63 :: rest => .one :: read fuel fold false rest
      | 42 :: 42 :: rest =>
          let (token, rest) := starsToken start (rest.dropWhile (· == 42))
          token :: read fuel fold (token == .directories) rest
      | 42 :: rest => .many :: read fuel fold false rest
      | [92] => [.never]
      | 92 :: b :: rest => .byte b :: read fuel fold (b == 47) rest
      | 91 :: rest =>
          let (negated, inner) :=
            match rest with
            | 33 :: inner | 94 :: inner => (true, inner)
            | inner => (false, inner)
          match readRanges (inner.length + 1) none [] inner with
          | some (ranges, rest) => .set negated ranges :: read fuel fold false rest
          | none => [.never]
      | b :: rest => .byte (if fold then lowerByte b else b) :: read fuel fold (b == 47) rest

/-- The pattern that a text spells. -/
def ofText (fold : Bool) (text : List UInt8) : Glob := read (text.length + 1) fold true text

/-- Whether two texts are the same, or with `fold` the same but for the case of letters. -/
def same (fold : Bool) (a b : List UInt8) : Bool :=
  if fold then a.map lowerByte == b.map lowerByte else a == b

/-- Whether a pattern for whole paths matches one. What stands before the first wildcard is compared
as it is, and stars after it count as the start of a segment. -/
def matchesPath (fold : Bool) (pattern path : List UInt8) : Bool :=
  let plain := plainLength pattern
  plain ≤ path.length && same fold (pattern.take plain) (path.take plain) &&
    Glob.matchBytes ⟨true, fold⟩ (ofText fold (pattern.drop plain)) (path.drop plain)

/-- Whether a pattern for last names matches one. One that has no wildcards, or none but a star at
its start, is compared as it is. -/
def matchesName (fold : Bool) (pattern name : List UInt8) : Bool :=
  if plainLength pattern == pattern.length then same fold pattern name
  else if pattern.head? == some 42 && plainLength (pattern.drop 1) == pattern.length - 1 then
    pattern.length - 1 ≤ name.length &&
      same fold (pattern.drop 1) (name.drop (name.length - (pattern.length - 1)))
  else Glob.matchBytes ⟨false, fold⟩ (ofText fold pattern) name

end PathPattern

end Groundwork.Git
