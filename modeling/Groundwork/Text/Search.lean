/-!
Occurrences of one text in another, and their replacement. Positions count characters.
-/

namespace Groundwork.Text

/-- The position of the first occurrence of a text. -/
def find? (needle : List Char) : List Char → Option Nat
  | [] => if needle.isEmpty then some 0 else none
  | c :: rest =>
      if needle.isPrefixOf (c :: rest) then some 0 else (find? needle rest).map (· + 1)

/-- The positions of the occurrences of a text from left to right, none overlapping the one before
it; `position` is where the text searched begins, and `skip` how much of it is taken already. -/
def occurrencesFrom (needle : List Char) (position : Nat) (skip : Nat) : List Char → List Nat
  | [] => []
  | c :: rest =>
      match skip with
      | skip + 1 => occurrencesFrom needle (position + 1) skip rest
      | 0 =>
          if needle.isPrefixOf (c :: rest) then
            position :: occurrencesFrom needle (position + 1) (needle.length - 1) rest
          else occurrencesFrom needle (position + 1) 0 rest

/-- The positions of the occurrences of a text that is not empty. -/
def occurrences (needle text : List Char) : List Nat := occurrencesFrom needle 0 0 text

/-- Writes `replacement` for every occurrence of `needle`; `skip` characters belong to the
occurrence replaced last. -/
def replaceFrom (needle replacement : List Char) (skip : Nat) : List Char → List Char
  | [] => []
  | c :: rest =>
      match skip with
      | skip + 1 => replaceFrom needle replacement skip rest
      | 0 =>
          if needle.isPrefixOf (c :: rest) then
            replacement ++ replaceFrom needle replacement (needle.length - 1) rest
          else c :: replaceFrom needle replacement 0 rest

/-- Every occurrence replaced. The empty text occurs before each character and at the end. -/
def replaceAll (needle replacement text : List Char) : List Char :=
  if needle.isEmpty then text.flatMap (fun c => replacement ++ [c]) ++ replacement
  else replaceFrom needle replacement 0 text

/-- The first occurrence replaced. -/
def replaceFirst (needle replacement text : List Char) : List Char :=
  match find? needle text with
  | none => text
  | some position => text.take position ++ replacement ++ text.drop (position + needle.length)

/-- The text before and after the first occurrence of a character. -/
def splitOnce (mark : Char) (text : List Char) : Option (List Char × List Char) :=
  match text.dropWhile (· != mark) with
  | [] => none
  | _ :: after => some (text.takeWhile (· != mark), after)

/-- The parts of a text between the occurrences of a character. -/
def splitOn (mark : Char) (text : List Char) : List (List Char) :=
  text.foldr (fun c parts =>
    if c == mark then [] :: parts
    else
      match parts with
      | [] => [[c]]
      | part :: parts => (c :: part) :: parts) [[]]

end Groundwork.Text
