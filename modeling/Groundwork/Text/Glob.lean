/-!
Wildcard patterns over bytes: a question mark stands for one byte, a star for any number, and
brackets for one byte of a set. Where slashes are kept apart, only some wildcards stand for them.
-/

namespace Groundwork

/-! ## Sets of bytes -/

/-- A named class of bytes. -/
inductive ByteClass where
  | alnum | alpha | blank | cntrl | digit | graph | lower | print | punct | space | upper | xdigit
deriving Repr, DecidableEq

namespace ByteClass

/-- The class that a name spells. -/
def ofName? (name : String) : Option ByteClass :=
  [("alnum", alnum), ("alpha", alpha), ("blank", blank), ("cntrl", cntrl), ("digit", digit),
    ("graph", graph), ("lower", lower), ("print", print), ("punct", punct), ("space", space),
    ("upper", upper), ("xdigit", xdigit)].lookup name

/-- Whether a byte is of a class; no byte beyond the first 128 is of any. -/
def contains (byteClass : ByteClass) (b : UInt8) : Bool :=
  let c := Char.ofNat b.toNat
  b < 128 &&
    match byteClass with
    | alnum => c.isAlphanum
    | alpha => c.isAlpha
    | blank => c == ' ' || c == '\t'
    | cntrl => b < 32 || b == 127
    | digit => c.isDigit
    | graph => 32 < b && b < 127
    | lower => c.isLower
    | print => 32 ≤ b && b < 127
    | punct => 32 < b && b < 127 && !c.isAlphanum
    | space => c == ' ' || (9 ≤ b && b ≤ 13)
    | upper => c.isUpper
    | xdigit => c.isDigit || ('a' ≤ c && c ≤ 'f') || ('A' ≤ c && c ≤ 'F')

end ByteClass

/-- The small form of a byte that is a capital letter. -/
def lowerByte (b : UInt8) : UInt8 := if 65 ≤ b && b ≤ 90 then b + 32 else b

def upperByte (b : UInt8) : UInt8 := if 97 ≤ b && b ≤ 122 then b - 32 else b

/-- A part of a set of bytes. -/
inductive ByteRange where
  | single (b : UInt8)
  | range (first last : UInt8)
  | named (byteClass : ByteClass)
deriving Repr, DecidableEq

/-- Whether a part of a set has a byte. With `fold` the byte is in its small form, and the case of
letters does not count in ranges. -/
def ByteRange.contains (fold : Bool) (b : UInt8) : ByteRange → Bool
  | .single a => a == b
  | .range first last =>
      let within (b : UInt8) : Bool := first ≤ b && b ≤ last
      within b || (fold && within (upperByte b))
  | .named byteClass =>
      byteClass.contains b || (fold && byteClass == .upper && ByteClass.contains .lower b)

/-! ## Patterns -/

/-- A part of a wildcard pattern. -/
inductive GlobToken where
  | byte (b : UInt8)
  | one
  | set (negated : Bool) (ranges : List ByteRange)
  /-- Any number of bytes. -/
  | many
  /-- Any number of bytes, slashes among them. -/
  | anything
  /-- Nothing, or any bytes and a slash. -/
  | directories
  /-- Nothing matches this. -/
  | never
deriving Repr, DecidableEq

abbrev Glob := List GlobToken

namespace Glob

/-- How patterns are matched. -/
structure Mode where
  /-- Only some wildcards stand for slashes. -/
  apart : Bool := false
  /-- The case of letters does not count. -/
  fold : Bool := false

/-- Whether a token that stands for one byte stands for this one. -/
def matchesByte (mode : Mode) (b : UInt8) : GlobToken → Bool
  | .byte a => a == b
  | .one => !(mode.apart && b == 47)
  | .set negated ranges =>
      !(mode.apart && b == 47) && ranges.any (·.contains mode.fold b) != negated
  | _ => false

/-- For every end of a text, the longest first, whether a token and what follows it match it, given
the same for what follows. -/
def extend (mode : Mode) (token : GlobToken) : List UInt8 → List Bool → List Bool
  | b :: text, after :: rest =>
      let tail := extend mode token text rest
      let here :=
        match token with
        | .never => false
        | .many => after || (!(mode.apart && b == 47) && tail.headD false)
        | .anything => after || tail.headD false
        | .directories => after || afterSlash (b :: text) (after :: rest)
        | token => matchesByte mode b token && rest.headD false
      here :: tail
  | _, ends =>
      match token with
      | .many | .anything | .directories => ends.take 1
      | _ => [false]
where
  /-- Whether what follows matches an end right after a slash. -/
  afterSlash : List UInt8 → List Bool → Bool
    | b :: text, _ :: rest => (b == 47 && rest.headD false) || afterSlash text rest
    | _, _ => false

/-- For every end of a text, the longest first, whether a pattern matches it. -/
def ends (mode : Mode) (text : List UInt8) : Glob → List Bool
  | [] => text.map (fun _ => false) ++ [true]
  | token :: glob => extend mode token text (ends mode text glob)

/-- Whether a pattern matches a whole text. -/
def matchBytes (mode : Mode) (glob : Glob) (text : List UInt8) : Bool :=
  let text := if mode.fold then text.map lowerByte else text
  (ends mode text glob).headD false

/-! ## Spelling -/

/-- Reads a set of a pattern that stands for names and texts, up to the bracket that ends it. A
bracket that comes first is a member, and an unknown class has no members of its own. -/
def readSet (fuel : Nat) (first : Bool) (ranges : List ByteRange) (text : List (UInt8 × Bool))
    : Option (List ByteRange × List (UInt8 × Bool)) :=
  match fuel with
  | 0 => none
  | fuel + 1 =>
      match text with
      | [] => none
      | (93, false) :: rest =>
          if first then readSet fuel false (.single 93 :: ranges) rest
          else some (ranges.reverse, rest)
      | (91, false) :: (58, false) :: rest =>
          match named? rest with
          | some (byteClass, rest) => readSet fuel false (.named byteClass :: ranges) rest
          | none => readSet fuel false (.single 91 :: ranges) ((58, false) :: rest)
      | (a, _) :: (45, false) :: (b, quoted) :: rest =>
          if b == 93 && !quoted then
            readSet fuel false (.single 45 :: .single a :: ranges) ((b, quoted) :: rest)
          else readSet fuel false (.range a b :: ranges) rest
      | (a, _) :: rest => readSet fuel false (.single a :: ranges) rest
where
  /-- The class that is named up to a colon and a bracket. -/
  named? (text : List (UInt8 × Bool)) : Option (ByteClass × List (UInt8 × Bool)) :=
    let name := text.takeWhile fun entry => entry.1 != 58 && entry.1 != 93
    match text.drop name.length with
    | (58, false) :: (93, false) :: rest =>
        (ByteClass.ofName? (String.ofList (name.map fun entry => Char.ofNat entry.1.toNat))).map
          (·, rest)
    | _ => none

/-- The pattern that bytes spell; those that are marked stand for themselves. A bracket without an
end does too. -/
def read (fuel : Nat) (text : List (UInt8 × Bool)) : Glob :=
  match fuel with
  | 0 => []
  | fuel + 1 =>
      match text with
      | [] => []
      | (63, false) :: rest => .one :: read fuel rest
      | (42, false) :: rest => .many :: read fuel rest
      | (91, false) :: rest =>
          let (negated, inner) :=
            match rest with
            | (33, false) :: inner => (true, inner)
            | inner => (false, inner)
          match readSet (inner.length + 1) true [] inner with
          | some (ranges, rest) => .set negated ranges :: read fuel rest
          | none => .byte 91 :: read fuel rest
      | (b, _) :: rest => .byte b :: read fuel rest

/-- Takes backslashes away that are not marked, and marks what follows them. -/
def escape : List (UInt8 × Bool) → List (UInt8 × Bool)
  | (92, false) :: (b, _) :: rest => (b, true) :: escape rest
  | entry :: rest => entry :: escape rest
  | [] => []

/-- The pattern that bytes spell, some of which are marked to stand for themselves. -/
def ofMarked (text : List (UInt8 × Bool)) : Glob :=
  let text := escape text
  read (text.length + 1) text

/-- Whether a pattern is more than a text. -/
def isWild (glob : Glob) : Bool :=
  glob.any fun
    | .byte _ => false
    | _ => true

/-- Whether a pattern matches a whole text. -/
def accepts (glob : Glob) (text : String) : Bool := glob.matchBytes {} text.toUTF8.data.toList

end Glob

end Groundwork
