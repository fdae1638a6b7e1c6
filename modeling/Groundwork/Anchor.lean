import Groundwork.Pattern.Basic
import Groundwork.Text.Lines

/-!
Anchors: places in a text that are found by what stands there, never by line numbers, so that they
stay valid while the text around them changes.
-/

namespace Groundwork

open Groundwork.Text

/-- What to look for: a text as it stands, or a pattern. -/
inductive Anchor where
  | literal (text : String)
  | pattern (pattern : SearchPattern)

/-- A stretch of a text, counted in characters. -/
structure Span where
  start : Nat
  stop : Nat
deriving Repr, DecidableEq

/-- A stretch of a text, counted in bytes. -/
def Span.bytes (span : Span) (text : List Char) : Nat × Nat :=
  (byteLength (text.take span.start), byteLength (text.take span.stop))

/-- Stretches that come in order, counted in bytes, where `text` is what follows a position and so
many bytes. -/
def Span.bytesFrom (position offset : Nat) (text : List Char) : List Span → List (Nat × Nat)
  | [] => []
  | span :: spans =>
      let start := offset + byteLength (text.take (span.start - position))
      let found := text.drop (span.start - position)
      let stop := start + byteLength (found.take (span.stop - span.start))
      (start, stop) :: bytesFrom span.stop stop (found.drop (span.stop - span.start)) spans

/-- Stretches of a text, which come in order, counted in bytes. -/
def Span.allBytes (spans : List Span) (text : List Char) : List (Nat × Nat) :=
  bytesFrom 0 0 text spans

namespace Anchor

def isPattern : Anchor → Bool
  | .literal _ => false
  | .pattern _ => true

/-- The anchor as it was written. -/
def source : Anchor → String
  | .literal text => text
  | .pattern sought => sought.source

/-- Two anchors are the same if they are of one kind and written the same way. -/
def same (a b : Anchor) : Bool := a.isPattern == b.isPattern && a.source == b.source

/-- The anchor as messages show it. -/
def toString : Anchor → String
  | .literal text => quoted text
  | .pattern sought => s!"/{sought.source}/"

instance : ToString Anchor := ⟨toString⟩

/-- The first place of a text where the anchor is found. The empty text is found nowhere. -/
def locate (anchor : Anchor) (text : List Char) : Option Span :=
  match anchor with
  | .literal sought =>
      let needle := sought.toList
      if needle.isEmpty then none
      else (find? needle text).map (fun start => ⟨start, start + needle.length⟩)
  | .pattern sought => (sought.find? text).map (fun found => ⟨found.start, found.stop⟩)

/-- All places of a text where the anchor is found, none overlapping the one before. -/
def locateAll (anchor : Anchor) (text : List Char) : List Span :=
  match anchor with
  | .literal sought =>
      let needle := sought.toList
      if needle.isEmpty then []
      else (occurrences needle text).map (fun start => ⟨start, start + needle.length⟩)
  | .pattern sought => (sought.findAll text).map (fun found => ⟨found.start, found.stop⟩)

/-- The text with `replacement` in place of the anchor, everywhere or in the first place only.
Patterns expand references to their groups; other texts are taken as they stand. -/
def replace (anchor : Anchor) (replacement : List Char) (firstOnly : Bool) (text : List Char)
    : List Char :=
  match anchor with
  | .literal sought =>
      if firstOnly then replaceFirst sought.toList replacement text
      else replaceAll sought.toList replacement text
  | .pattern sought => sought.replace replacement firstOnly text

end Anchor

end Groundwork
