import Groundwork.Bits
import Groundwork.Text.Search

/-!
Replacement texts that refer to the groups of a match: `$1`, `$name` and the same in braces. Two
dollar signs stand for one.
-/

namespace Groundwork.Pattern

/-- A part of a replacement text. -/
inductive ReplacementPart where
  | char (c : Char)
  | group (index : Nat)
  | named (name : String)
deriving Repr, DecidableEq

def isNameChar (c : Char) : Bool := c.isAlphanum || c == '_'

/-- A group by the text between its marks: a number that fits sixty-four bits, or a name. -/
def groupReference (text : List Char) : ReplacementPart :=
  let digits :=
    match text with
    | '+' :: rest => rest
    | _ => text
  let value := digits.foldl (fun n c => 10 * n + (c.toNat - '0'.toNat)) 0
  if !digits.isEmpty && digits.all Char.isDigit && value < Bits.count 64 then .group value
  else .named (String.ofList text)

/-- The reference that begins after a dollar sign, and its length. -/
def readReference (text : List Char) : Option (ReplacementPart × Nat) :=
  match text with
  | '\x7b' :: rest =>
      let name := rest.takeWhile (· != '\x7d')
      if name.length == rest.length then none
      else some (groupReference name, name.length + 2)
  | _ =>
      let name := text.takeWhile isNameChar
      if name.isEmpty then none else some (groupReference name, name.length)

/-- The parts of a replacement text; `skip` characters belong to the part read last. -/
def replacementPartsFrom (skip : Nat) : List Char → List ReplacementPart
  | [] => []
  | c :: rest =>
      match skip with
      | skip + 1 => replacementPartsFrom skip rest
      | 0 =>
          if c != '$' then .char c :: replacementPartsFrom 0 rest
          else if rest.head? == some '$' then .char '$' :: replacementPartsFrom 1 rest
          else
            match readReference rest with
            | some (part, length) => part :: replacementPartsFrom length rest
            | none => .char '$' :: replacementPartsFrom 0 rest

def replacementParts (text : List Char) : List ReplacementPart := replacementPartsFrom 0 text

end Groundwork.Pattern
