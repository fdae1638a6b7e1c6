import Groundwork.Unicode.CharSet

/-!
Patterns as trees: characters of a set, conditions on a position, sequences, choices, repetitions
and groups whose extent is remembered.
-/

namespace Groundwork.Pattern

open Groundwork.Unicode

/-- A condition on the characters around a position. -/
inductive Look where
  | textStart
  | textEnd
  | lineStart
  | lineEnd
  /-- A line may also end in a carriage return, or in one and a newline. -/
  | lineStartReturn
  | lineEndReturn
  | wordBoundary (ascii : Bool)
  | noWordBoundary (ascii : Bool)
  | wordStart (ascii : Bool)
  | wordEnd (ascii : Bool)
  | wordStartHalf (ascii : Bool)
  | wordEndHalf (ascii : Bool)
deriving Repr, DecidableEq

/-- A pattern. Choices and repetitions try their alternatives in order. -/
inductive Node where
  | empty
  | literal (text : List Char)
  | chars (set : CharSet)
  | look (condition : Look)
  | sequence (parts : List Node)
  | choice (branches : List Node)
  | repetition (least : Nat) (most : Option Nat) (greedy : Bool) (body : Node)
  | group (index : Nat) (body : Node)
deriving Inhabited

/-- The least length of a match, none if there is no match, and the greatest, none without bound. -/
structure Lengths where
  least : Option Nat
  most : Option Nat
deriving Repr

namespace Lengths

def exactly (n : Nat) : Lengths := ⟨some n, some n⟩

def both (f : Nat → Nat → Nat) : Option Nat → Option Nat → Option Nat
  | some a, some b => some (f a b)
  | _, _ => none

def append (a b : Lengths) : Lengths := ⟨both (· + ·) a.least b.least, both (· + ·) a.most b.most⟩

def either (a b : Lengths) : Lengths :=
  ⟨match a.least, b.least with
    | some x, some y => some (min x y)
    | some x, none => some x
    | none, y => y,
   both max a.most b.most⟩

def times (least : Nat) (most : Option Nat) (body : Lengths) : Lengths :=
  ⟨if least == 0 then some 0 else body.least.map (· * least),
   if body.most == some 0 then some 0 else both (· * ·) body.most most⟩

end Lengths

namespace Node

mutual

def lengths : Node → Lengths
  | .empty => .exactly 0
  | .literal text => .exactly text.length
  | .chars set => if set.isEmpty then ⟨none, none⟩ else .exactly 1
  | .look _ => .exactly 0
  | .sequence parts => lengthsAll parts
  | .choice branches => lengthsAny branches
  | .repetition least most _ body => .times least most (lengths body)
  | .group _ body => lengths body

def lengthsAll : List Node → Lengths
  | [] => .exactly 0
  | part :: parts => (lengths part).append (lengthsAll parts)

def lengthsAny : List Node → Lengths
  | [] => ⟨none, none⟩
  | [branch] => lengths branch
  | branch :: branches => (lengths branch).either (lengthsAny branches)

end

/-- Whether every match is empty. -/
def matchesOnlyEmpty (node : Node) : Bool := node.lengths.most == some 0

/-- Whether no match is empty, and there is one. -/
def needsText (node : Node) : Bool := node.lengths.least.any (0 < ·)

/-- A repetition in its plainest form: what matches only the empty text needs no second turn. -/
def repeated (least : Nat) (most : Option Nat) (greedy : Bool) (body : Node) : Node :=
  let (least, most) :=
    if body.matchesOnlyEmpty then (min least 1, some (min (most.getD 1) 1)) else (least, most)
  if least == 0 && most == some 0 then .empty
  else if least == 1 && most == some 1 then body
  else .repetition least most greedy body

/-- The characters of a set; a set of one character is a text. -/
def ofSet (set : CharSet) : Node :=
  match set.ranges.toList with
  | [(low, high)] => if low == high then .literal [Char.ofNat low] else .chars set
  | _ => .chars set

/-- Puts a part in front of others and joins two texts that meet. -/
def prepend (part : Node) (parts : List Node) : List Node :=
  match part, parts with
  | .literal a, .literal b :: rest => .literal (a ++ b) :: rest
  | _, _ => part :: parts

/-- Parts one after the other in the plainest form: empty parts vanish, sequences lie flat, and
texts that meet are one text. -/
def concat (parts : List Node) : Node :=
  let flat := parts.flatMap fun
    | .empty => []
    | .sequence inner => inner
    | part => [part]
  match flat.foldr prepend [] with
  | [] => .empty
  | [part] => part
  | parts => .sequence parts

mutual

/-- Whether two patterns are built alike. -/
def same : Node → Node → Bool
  | .empty, .empty => true
  | .literal a, .literal b => a == b
  | .chars a, .chars b => a == b
  | .look a, .look b => a == b
  | .sequence a, .sequence b => sameAll a b
  | .choice a, .choice b => sameAll a b
  | .repetition least most greedy a, .repetition least' most' greedy' b =>
      least == least' && most == most' && greedy == greedy' && same a b
  | .group i a, .group j b => i == j && same a b
  | _, _ => false

def sameAll : List Node → List Node → Bool
  | [], [] => true
  | a :: as, b :: bs => same a b && sameAll as bs
  | _, _ => false

end

/-- How many parts two sequences begin with alike. -/
def commonLength : List Node → List Node → Nat
  | a :: as, b :: bs => if a.same b then commonLength as bs + 1 else 0
  | _, _ => 0

/-- How many parts all of some sequences begin with alike; zero if one of them is no sequence. -/
def sharedLength : List Node → Nat
  | .sequence first :: others =>
      others.foldl (fun length other =>
        match other with
        | .sequence parts => commonLength (first.take length) parts
        | _ => 0) first.length
  | _ => 0

/-- The set that a pattern for one character of a set is, or for one character. -/
def oneOf? (single : Bool) : Node → Option CharSet
  | .literal [c] => if single then some (.ofChar c) else none
  | .chars set => if single then none else some set
  | _ => none

/-- Branches as a choice; single characters, or sets of characters, are one set. -/
def merged (branches : List Node) : Node :=
  let flat := branches.flatMap fun
    | .choice inner => inner
    | branch => [branch]
  match flat with
  | [branch] => branch
  | _ =>
      match (flat.mapM (oneOf? true)).orElse fun _ => flat.mapM (oneOf? false) with
      | some sets => ofSet (.unions sets)
      | none => .choice flat

/-- Branches as a choice in the plainest form: parts that all of them begin with stand before it. -/
def alternatives (branches : List Node) : Node :=
  match merged branches with
  | .choice flat =>
      let length := sharedLength flat
      if length == 0 then .choice flat
      else
        let parts : Node → List Node
          | .sequence parts => parts
          | part => [part]
        let lead := (flat.head?.map parts).getD []
        concat (lead.take length ++ [merged (flat.map fun branch =>
          concat ((parts branch).drop length))])
  | node => node

end Node

end Groundwork.Pattern
