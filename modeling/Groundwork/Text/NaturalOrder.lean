/-!
The order of names in which numbers count by their value: `v1.9` comes before `v1.10`.
-/

namespace Groundwork.NaturalOrder

def isDigit (b : UInt8) : Bool := 48 ≤ b && b ≤ 57

def isLetter (b : UInt8) : Bool := (65 ≤ b && b ≤ 90) || (97 ≤ b && b ≤ 122)

/-- The rank of the first byte of a text among bytes that are no digits: a tilde comes before the
end, the end before digits, and letters before all others. -/
def rank : List UInt8 → Int
  | [] => -1
  | b :: _ =>
      if isDigit b then 0
      else if isLetter b then b.toNat
      else if b == 126 then -2
      else b.toNat + 256

/-- Compares what stands before the digits, and gives what is left of both texts; `fuel` bounds the
bytes. -/
def compareWords (fuel : Nat) (a b : List UInt8) : Ordering × List UInt8 × List UInt8 :=
  match fuel with
  | 0 => (.eq, a, b)
  | fuel + 1 =>
      let wordy (text : List UInt8) : Bool := text.head?.any fun b => !isDigit b
      if wordy a || wordy b then
        match compare (rank a) (rank b) with
        | .eq => compareWords fuel a.tail b.tail
        | order => (order, a, b)
      else (.eq, a, b)

/-- Compares texts by turns of words and numbers; `fuel` bounds the turns. -/
def compareFrom (fuel : Nat) (a b : List UInt8) : Ordering :=
  match fuel with
  | 0 => .eq
  | fuel + 1 =>
      if a.isEmpty && b.isEmpty then .eq
      else
        match compareWords (a.length + b.length + 1) a b with
        | (.eq, a, b) =>
            let a := a.dropWhile (· == 48)
            let b := b.dropWhile (· == 48)
            let x := a.takeWhile isDigit
            let y := b.takeWhile isDigit
            match (compare x.length y.length).then (compareLex x y) with
            | .eq => compareFrom fuel (a.drop x.length) (b.drop y.length)
            | order => order
        | (order, _, _) => order
where
  compareLex : List UInt8 → List UInt8 → Ordering
    | a :: x, b :: y => (compare a.toNat b.toNat).then (compareLex x y)
    | _, _ => .eq

/-- Compares texts. -/
def compareTexts (a b : List UInt8) : Ordering := compareFrom (a.length + b.length + 2) a b

/-- A name without the endings that letters after points make. -/
def stem (name : List UInt8) : List UInt8 :=
  name.take (stemEnd (name.length + 1) name 0)
where
  /-- Where the stem ends, of which so many bytes have been passed; `fuel` bounds the bytes. -/
  stemEnd (fuel : Nat) (text : List UInt8) (passed : Nat) : Nat :=
    match fuel with
    | 0 => passed
    | fuel + 1 =>
        match text with
        | [] => passed
        | _ :: rest =>
            let after := endings rest (rest.length + 1)
            if after.isEmpty then passed + 1
            else stemEnd fuel after (passed + 1 + rest.length - after.length)
  /-- What is left after the endings at the start of a text. -/
  endings (text : List UInt8) (fuel : Nat) : List UInt8 :=
    match fuel with
    | 0 => text
    | fuel + 1 =>
        match text with
        | 46 :: b :: rest =>
            if isLetter b || b == 126 then
              endings (rest.dropWhile fun b => isDigit b || isLetter b || b == 126) fuel
            else text
        | text => text

/-- Compares names. Empty ones come first, then those that begin with a point. -/
def compareNames (a b : List UInt8) : Ordering :=
  let group (name : List UInt8) : Nat :=
    match name with
    | [] => 0
    | [46] => 1
    | [46, 46] => 2
    | 46 :: _ => 3
    | _ => 4
  match compare (group a) (group b) with
  | .eq =>
      if group a < 3 then .eq
      else (compareTexts (stem a) (stem b)).then (compareTexts a b)
  | order => order

end Groundwork.NaturalOrder
