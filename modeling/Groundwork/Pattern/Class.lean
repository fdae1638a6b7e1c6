import Groundwork.Unicode.Age
import Groundwork.Unicode.Boundary
import Groundwork.Unicode.CaseFold
import Groundwork.Unicode.Property
import Groundwork.Unicode.Script

/-!
Character classes by name: properties, categories, scripts, and the classes of ASCII.
-/

namespace Groundwork.Pattern

open Groundwork.Unicode

/-- A name without blanks, hyphens, underscores, case and a leading `is`. -/
def looseName (name : String) : String :=
  let isPrefixed := (name.toList.take 2).map Char.toLower == ['i', 's']
  let short := ((if isPrefixed then name.toList.drop 2 else name.toList).filter (fun c =>
    c.toNat < 0x80 && c != ' ' && c != '_' && c != '-')).map Char.toLower
  if isPrefixed && short == ['c'] then "isc" else String.ofList short

/-- The characters of a class that has one name. Three short names of properties mean categories. -/
def unicodeClass? (name : String) : Option CharSet :=
  let name := looseName name
  let asProperty := if ["cf", "sc", "lc"].contains name then none else property? name
  asProperty.orElse fun _ => (category? name).orElse fun _ => script? name

/-- The characters with a value of a property. -/
def unicodeValueClass? (property value : String) : Option CharSet :=
  let value := looseName value
  match looseName property with
  | "generalcategory" | "gc" => category? value
  | "script" | "sc" => script? value
  | "scriptextensions" | "scx" => scriptExtensions? value
  | "age" => age? value
  | "graphemeclusterbreak" | "gcb" => graphemeBreak? value
  | "wordbreak" | "wb" => wordBreak? value
  | "sentencebreak" | "sb" => sentenceBreak? value
  | _ => none

/-- The parts of a text around the first occurrence of a mark. -/
def splitAround? (mark : List Char) : List Char → Option (List Char × List Char)
  | [] => none
  | c :: rest =>
      if mark.isPrefixOf (c :: rest) then some ([], (c :: rest).drop mark.length)
      else (splitAround? mark rest).map (fun parts => (c :: parts.1, parts.2))

/-- The signs that may stand between a property and its value, each with whether it asks for the
characters that have another value. -/
def valueSigns : List (Bool × List Char) :=
  [(true, ['!', '=']), (false, [':']), (false, ['='])]

/-- The class of a name in braces, which may be a property, a sign and a value, and whether the sign
asks for the other characters. -/
def bracedClass? (name : List Char) : Option (Bool × CharSet) :=
  let split := valueSigns.findSome? fun (negated, sign) =>
    (splitAround? sign name).map fun parts => (negated, parts)
  match split with
  | some (negated, property, value) =>
      (unicodeValueClass? (String.ofList property) (String.ofList value)).map ((negated, ·))
  | none => (unicodeClass? (String.ofList name)).map ((false, ·))

/-- The classes of ASCII characters that stand between colons. -/
def asciiClass? (name : String) : Option CharSet :=
  match name with
  | "alnum" => some ⟨#[(0x30, 0x39), (0x41, 0x5A), (0x61, 0x7A)]⟩
  | "alpha" => some ⟨#[(0x41, 0x5A), (0x61, 0x7A)]⟩
  | "ascii" => some ⟨#[(0, 0x7F)]⟩
  | "blank" => some ⟨#[(0x09, 0x09), (0x20, 0x20)]⟩
  | "cntrl" => some ⟨#[(0, 0x1F), (0x7F, 0x7F)]⟩
  | "digit" => some asciiDigitSet
  | "graph" => some ⟨#[(0x21, 0x7E)]⟩
  | "lower" => some ⟨#[(0x61, 0x7A)]⟩
  | "print" => some ⟨#[(0x20, 0x7E)]⟩
  | "punct" => some ⟨#[(0x21, 0x2F), (0x3A, 0x40), (0x5B, 0x60), (0x7B, 0x7E)]⟩
  | "space" => some asciiWhiteSet
  | "upper" => some ⟨#[(0x41, 0x5A)]⟩
  | "word" => some asciiWordSet
  | "xdigit" => some ⟨#[(0x30, 0x39), (0x41, 0x46), (0x61, 0x66)]⟩
  | _ => none

/-- The class of a backslash and a letter, in all scripts or in ASCII. -/
def letterClass? (letter : Char) (unicode : Bool) : Option CharSet :=
  match letter.toLower with
  | 'd' => some (if unicode then digitSet else asciiDigitSet)
  | 's' => some (if unicode then whiteSet else asciiWhiteSet)
  | 'w' => some (if unicode then wordSet else asciiWordSet)
  | _ => none

/-- Simple folding of ASCII letters. -/
def foldAscii (set : CharSet) : CharSet :=
  let shifted := set.toList.flatMap fun (low, high) =>
    let upper := (max low 0x41, min high 0x5A)
    let lower := (max low 0x61, min high 0x7A)
    (if upper.1 ≤ upper.2 then [(upper.1 + 0x20, upper.2 + 0x20)] else []) ++
      (if lower.1 ≤ lower.2 then [(lower.1 - 0x20, lower.2 - 0x20)] else [])
  .ofRanges (set.toList ++ shifted)

end Groundwork.Pattern
