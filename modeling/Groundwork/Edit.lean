import Groundwork.Anchor

/-!
Edits of one file: content in, content out. An insertion that is there already changes nothing, so
an edit may be applied again.
-/

namespace Groundwork

open Groundwork.Text

/-- Where a payload goes, seen from its anchor. -/
inductive Placement where
  | after
  | before
deriving Repr, DecidableEq

/-- A change of one file's content. -/
inductive Edit where
  /-- Insert `payload` beside the anchor. With `lenient` a missing anchor is fine if the payload is
  there already. -/
  | insert (placement : Placement) (anchor : Anchor) (payload : String) (lenient : Bool)
  | replace (anchor : Anchor) (replacement : String) (firstOnly : Bool)
  /-- Write a whole file. -/
  | write (content : ByteArray)

/-- What an edit did. -/
inductive EditOutcome where
  | changed (content : ByteArray)
  | unchanged
deriving BEq

/-- Why an edit cannot be applied. -/
inductive EditFault where
  | anchorNotFound (anchor : String)
  | writeConflict
  | fileMissing
  | notUtf8
deriving Repr, DecidableEq

def EditFault.message : EditFault → String
  | .anchorNotFound anchor => s!"anchor {anchor} not found"
  | .writeConflict => "destination exists with different content"
  | .fileMissing => "file does not exist"
  | .notUtf8 => "file is not valid UTF-8"

namespace Edit

/-- Whether a payload consists of whole lines. -/
def isLinePayload (payload : List Char) : Bool := endsInNewline payload

/-- The end of the line that a position lies in, past its newline. A position after a newline, and
the start of the text, is itself the end of a line. -/
def lineEndAt (text : List Char) (position : Nat) : Nat :=
  if position == 0 || endsInNewline (text.take position) then position
  else
    match afterNewline? (text.drop position) with
    | some count => position + count
    | none => text.length

/-- The start of the line that a position lies in. -/
def lineStartAt (text : List Char) (position : Nat) : Nat :=
  position - ((text.take position).reverse.takeWhile (· != '\n')).length

/-- Where a payload is inserted. Whole lines go between lines even if the anchor lies within one. -/
def insertionPoint (text : List Char) (span : Span) (placement : Placement) (linePayload : Bool)
    : Nat :=
  match placement, linePayload with
  | .after, false => span.stop
  | .before, false => span.start
  | .after, true => lineEndAt text span.stop
  | .before, true => lineStartAt text span.start

/-- Whether the lines of a payload stand in the block of lines `lines`, which come nearest first.
The block ends at a blank line or one indented less than the payload. A payload with a blank line
must be the nearest lines exactly. -/
def isInBlock (payload lines : List (List Char)) : Bool :=
  if payload.isEmpty then true
  else if payload.any List.isEmpty then payload.isPrefixOf lines
  else
    let indent := (payload.map indentation).min?.getD 0
    isRun payload (lines.takeWhile (fun line => !line.isEmpty && indent ≤ indentation line))

/-- Whether the lines of a payload stand in the block next to the insertion point. -/
def isInAdjacentBlock (region payload : List Char) : Placement → Bool
  | .after => isInBlock (plainLines payload) (plainLines region)
  | .before => isInBlock (plainLines payload).reverse (plainLines region).reverse

/-- Whether the payload is there already, at the insertion point or in the block next to it. -/
def isPresent (text : List Char) (position : Nat) (payload : List Char) (placement : Placement)
    : Bool :=
  match placement with
  | .after =>
      let region := text.drop position
      payload.isPrefixOf region ||
        (isLinePayload payload && isInAdjacentBlock region payload placement)
  | .before =>
      let region := text.take position
      payload.isSuffixOf region ||
        (isLinePayload payload && isInAdjacentBlock region payload placement)

/-- Whether a payload occurs anywhere, lines up to trailing blanks. -/
def containsPayload (text payload : List Char) : Bool :=
  (find? payload text).isSome ||
    (isLinePayload payload && isRun (plainLines payload) (plainLines text))

/-- What ends a last line that has no end before whole lines are added to it. -/
def separator (text : List Char) (position : Nat) (linePayload : Bool) : List Char :=
  if linePayload && position == text.length && !text.isEmpty && !endsInNewline text then ['\n']
  else []

/-- The text with a payload beside a span, or nothing if it is there already. -/
def insertAt (text : List Char) (span : Span) (payload : List Char) (placement : Placement)
    : Option (List Char) :=
  let linePayload := isLinePayload payload
  let position := insertionPoint text span placement linePayload
  if isPresent text position payload placement then none
  else
    some (text.take position ++ separator text position linePayload ++ payload ++
      text.drop position)

/-- The outcome of an edit whose new text, if any, is given. -/
def outcomeOf : Option (List Char) → EditOutcome
  | some text => .changed (String.ofList text).toUTF8
  | none => .unchanged

/-- Inserts a payload beside an anchor. -/
def applyInsert (text : List Char) (placement : Placement) (anchor : Anchor) (payload : List Char)
    (lenient : Bool) : Except EditFault EditOutcome :=
  match anchor.locate text with
  | none =>
      if lenient && containsPayload text payload then .ok .unchanged
      else .error (.anchorNotFound anchor.toString)
  | some span => .ok (outcomeOf (insertAt text span payload placement))

/-- Replaces what an anchor finds. -/
def applyReplace (text : List Char) (anchor : Anchor) (replacement : List Char)
    (firstOnly : Bool) : EditOutcome :=
  let replaced := anchor.replace replacement firstOnly text
  if replaced == text then .unchanged else outcomeOf (some replaced)

/-- Writes a file that may be there with the same content, but not with another. -/
def applyWrite (current : Option ByteArray) (content : ByteArray)
    : Except EditFault EditOutcome :=
  match current with
  | none => .ok (.changed content)
  | some existing => if existing == content then .ok .unchanged else .error .writeConflict

/-- Applies an edit to a text. -/
def applyText (edit : Edit) (text : String) : Except EditFault EditOutcome :=
  match edit with
  | .insert placement anchor payload lenient =>
      applyInsert text.toList placement anchor payload.toList lenient
  | .replace anchor replacement firstOnly =>
      .ok (applyReplace text.toList anchor replacement.toList firstOnly)
  | .write content => applyWrite (some text.toUTF8) content

/-- Applies an edit to the content of a file, if there is one. -/
def apply (edit : Edit) (current : Option ByteArray) : Except EditFault EditOutcome :=
  match edit with
  | .write content => applyWrite current content
  | _ =>
      match current with
      | none => .error .fileMissing
      | some bytes =>
          match String.fromUTF8? bytes with
          | none => .error .notUtf8
          | some text => applyText edit text

end Edit

end Groundwork
