import Groundwork.Text.Blank

/-!
Texts as lists of lines. A line ends at a newline, which may follow a carriage return; the last
line needs no end.
-/

namespace Groundwork.Text

/-- The lines of a text without their ends. Nothing after a last newline counts as no line. -/
def lines : List Char → List (List Char)
  | [] => []
  | c :: rest =>
      if c == '\n' then [] :: lines rest
      else if c == '\r' && rest.head? == some '\n' then lines rest
      else
        match lines rest with
        | [] => [[c]]
        | line :: others => (c :: line) :: others

/-- The lines without trailing blanks, so that neither those nor the form of line ends count. -/
def plainLines (text : List Char) : List (List Char) := (lines text).map trimEnd

/-- The number of bytes of a text. -/
def byteLength (text : List Char) : Nat := text.foldr (fun c n => c.utf8Size + n) 0

/-- The bytes of leading blank on a line. -/
def indentation (line : List Char) : Nat := byteLength (line.takeWhile isBlank)

/-- Whether a list occurs as a run of consecutive members of another. -/
def isRun {α : Type} [BEq α] (run : List α) : List α → Bool
  | [] => run.isEmpty
  | a :: rest => run.isPrefixOf (a :: rest) || isRun run rest

/-- Whether the text ends in a newline. -/
def endsInNewline (text : List Char) : Bool := text.getLast? == some '\n'

/-- The position after the first newline of a text. -/
def afterNewline? (text : List Char) : Option Nat :=
  (text.findIdx? (· == '\n')).map (· + 1)

end Groundwork.Text
