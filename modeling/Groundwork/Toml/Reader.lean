import Groundwork.Bits
import Groundwork.Toml.Lexeme
import Groundwork.Toml.Table

/-!
Reading TOML documents. Inline tables may span lines and end in a comma.
-/

namespace Groundwork.Toml

/-- Why a text is no document. -/
inductive Fault where
  | malformed (detail : String)
  /-- A key has more parts than tables may lie within one another. -/
  | longKey
deriving Repr, DecidableEq

/-- A step of reading a document. -/
abbrev Reading := Except Fault

/-- A fault of a piece of text is one of the document. -/
instance : MonadLift (Except String) Reading := ⟨fun outcome => outcome.mapError .malformed⟩

def malformed {α : Type} (detail : String) : Reading α := throw (.malformed detail)

def isBareKeyChar (c : Char) : Bool := c.isAlphanum || c == '_' || c == '-'

/-- Reads one part of a key. -/
def readKeyPart (text : List Char) : Except String (Parsed String) := do
  match text with
  | '"' :: rest =>
      let (key, rest) ← readBasicFrom 0 rest
      return (String.ofList key, rest)
  | '\'' :: rest =>
      let (key, rest) ← readLiteral rest
      return (String.ofList key, rest)
  | _ =>
      let key := text.takeWhile isBareKeyChar
      if key.isEmpty then throw "key with no name"
      return (String.ofList key, text.drop key.length)

/-- Reads a key: parts with dots between them. -/
def readKey : Nat → List Char → Except String (Parsed (List String))
  | 0, _ => throw "invalid key"
  | fuel + 1, text => do
      let (part, rest) ← readKeyPart (skipBlanks text)
      match skipBlanks rest with
      | '.' :: rest => do
          let (parts, rest) ← readKey fuel rest
          return (part :: parts, rest)
      | rest => return ([part], rest)

/-- Passes over a comment, up to the end of its line. -/
def skipComment (text : List Char) : Except String (List Char) :=
  match text with
  | '#' :: rest =>
      let comment := rest.takeWhile (· != '\n')
      let ended :=
        if comment.getLast? == some '\r' && comment.length < rest.length then comment.dropLast
        else comment
      if ended.any isControl then throw "invalid comment character"
      else return rest.drop ended.length
  | _ => return text

/-- Passes over blanks, comments and line ends. -/
def skipLines : Nat → List Char → Except String (List Char)
  | 0, text => return text
  | fuel + 1, text => do
      let rest ← skipComment (skipBlanks text)
      match afterLineEnd? rest with
      | some rest => skipLines fuel rest
      | none => return rest

/-- How deep lists and tables may lie within one another. -/
def depthLimit : Nat := 80

/-- The last part of a key, and the parts before it, which may not be too many. -/
def splitKey (key : List String) : Reading (List String × String) :=
  if depthLimit < key.length then throw .longKey
  else return (key.dropLast, key.getLast?.getD "")

mutual

def readValue (fuel depth : Nat) (text : List Char) : Reading (Parsed Datum) := do
  match fuel with
  | 0 => malformed "recursion limit"
  | fuel + 1 =>
      match text with
      | '"' :: '"' :: '"' :: rest =>
          let (s, rest) ← readLong '"' true rest
          return (.text (String.ofList s), rest)
      | '"' :: rest =>
          let (s, rest) ← readBasicFrom 0 rest
          return (.text (String.ofList s), rest)
      | '\'' :: '\'' :: '\'' :: rest =>
          let (s, rest) ← readLong '\'' false rest
          return (.text (String.ofList s), rest)
      | '\'' :: rest =>
          let (s, rest) ← readLiteral rest
          return (.text (String.ofList s), rest)
      | '[' :: rest =>
          match depth with
          | 0 => malformed "recursion limit"
          | depth + 1 =>
              let (items, rest) ← readItems fuel depth rest
              return (.list items, rest)
      | '\x7b' :: rest =>
          match depth with
          | 0 => malformed "recursion limit"
          | depth + 1 =>
              let (fields, rest) ← readFields fuel depth [] rest
              return (.object (Dictionary.ofList (fieldsToData fields)), rest)
      | _ => readBareValue text

/-- Reads the items of a list up to its end. -/
def readItems (fuel depth : Nat) (text : List Char) : Reading (Parsed (List Datum)) := do
  match fuel with
  | 0 => malformed "recursion limit"
  | fuel + 1 =>
      match ← skipLines (text.length + 1) text with
      | ']' :: rest => return ([], rest)
      | rest =>
          let (item, rest) ← readValue fuel depth rest
          match ← skipLines (rest.length + 1) rest with
          | ',' :: rest =>
              let (items, rest) ← readItems fuel depth rest
              return (item :: items, rest)
          | ']' :: rest => return ([item], rest)
          | _ => malformed "unclosed array"

/-- Reads the fields of an inline table up to its end, in addition to those given. -/
def readFields (fuel depth : Nat) (fields : Fields) (text : List Char)
    : Reading (Parsed Fields) := do
  match fuel with
  | 0 => malformed "recursion limit"
  | fuel + 1 =>
      match ← skipLines (text.length + 1) text with
      | '\x7d' :: rest => return (fields, rest)
      | rest =>
          let (key, rest) ← readKey (rest.length + 1) rest
          match ← skipLines (rest.length + 1) rest with
          | '=' :: rest =>
              let (value, rest) ← readValue fuel depth (← skipLines (rest.length + 1) rest)
              let (path, last) ← splitKey key
              let fields ← insertValue path last value fields
              match ← skipLines (rest.length + 1) rest with
              | ',' :: rest => readFields fuel depth fields rest
              | '\x7d' :: rest => return (fields, rest)
              | _ => malformed "unclosed inline table"
          | _ => malformed "key with no value"

end

/-- A document in part: the root table, and the path of the table whose lines are read. -/
structure Document where
  root : Fields
  current : List String

/-- Reads what must end a line. -/
def readLineEnd (text : List Char) : Reading (List Char) := do
  let rest ← skipComment (skipBlanks text)
  match afterLineEnd? rest with
  | some rest => return rest
  | none => if rest.isEmpty then return [] else malformed "unexpected content after value"

/-- Reads a line that sets a key of the present table. -/
def readKeyValue (document : Document) (text : List Char) : Reading (Parsed Document) := do
  let (key, rest) ← readKey (text.length + 1) text
  match rest with
  | '=' :: rest =>
      let (value, rest) ← readValue (2 * rest.length + 2) depthLimit (skipBlanks rest)
      let (path, last) ← splitKey key
      let root ← descend false (fun _ fields => insertValue path last value fields)
        document.current false document.root
      return ({ document with root }, rest)
  | _ => malformed "key with no value"

/-- Reads a header after its brackets. -/
def readHeader (double : Bool) (document : Document) (text : List Char)
    : Reading (Parsed Document) := do
  let (key, rest) ← readKey (text.length + 1) text
  let (path, last) ← splitKey key
  match double, rest with
  | true, ']' :: ']' :: rest =>
      return (⟨← appendTable path last document.root, key⟩, rest)
  | false, ']' :: rest =>
      return (⟨← openTable path last document.root, key⟩, rest)
  | _, _ => malformed "unclosed table"

/-- Reads a document line by line. -/
def readLines : Nat → Document → List Char → Reading Document
  | 0, _, _ => malformed "document too long"
  | fuel + 1, document, text => do
      match ← skipLines (text.length + 1) text with
      | [] => return document
      | '[' :: '[' :: rest =>
          let (document, rest) ← readHeader true document rest
          readLines fuel document (← readLineEnd rest)
      | '[' :: rest =>
          let (document, rest) ← readHeader false document rest
          readLines fuel document (← readLineEnd rest)
      | rest =>
          let (document, rest) ← readKeyValue document rest
          readLines fuel document (← readLineEnd rest)

/-- The text without a byte order mark at its start. -/
def dropMark (text : List Char) : List Char :=
  if text.head? == some '\ufeff' then text.drop 1 else text

/-- Reads a document as one object. -/
def parse (text : String) : Reading Datum := do
  let chars := dropMark text.toList
  let document ← readLines (chars.length + 1) ⟨[], []⟩ chars
  return .object (Dictionary.ofList (fieldsToData document.root))

mutual

/-- Whether every whole number of a document is one that the format guarantees. -/
def hasPlainNumbers : Datum → Bool
  | .int n => Bits.isSigned 64 n
  | .list items => itemsHavePlainNumbers items
  | .object fields => fieldsHavePlainNumbers fields
  | _ => true

def itemsHavePlainNumbers : List Datum → Bool
  | [] => true
  | item :: items => hasPlainNumbers item && itemsHavePlainNumbers items

def fieldsHavePlainNumbers : List (String × Datum) → Bool
  | [] => true
  | (_, value) :: fields => hasPlainNumbers value && fieldsHavePlainNumbers fields

end

end Groundwork.Toml
