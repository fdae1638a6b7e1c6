import Groundwork.Git.Configuration
import Groundwork.Text.Search

/-!
Messages of commits: how they are cleaned before they are kept, and their subjects.
-/

namespace Groundwork.Git

/-- How a message is cleaned. -/
inductive Cleanup where
  /-- Not at all. -/
  | none
  /-- Blanks and superfluous empty lines go. -/
  | blanks
  /-- So do lines that begin with a mark. -/
  | comments (mark : Char)
deriving Repr, DecidableEq

/-- How settings say that messages are cleaned, or the word that says nothing. -/
def Cleanup.ofSettings (settings : Configuration) : Except String Cleanup :=
  match settings.lookup "commit.cleanup" with
  | some "strip" =>
      .ok (.comments (((settings.word? "core.commentchar").bind (·.toList.head?)).getD '#'))
  | some "verbatim" => .ok .none
  | some word =>
      if ["default", "whitespace", "scissors"].contains word then .ok .blanks else .error word
  | Option.none => .ok .blanks

namespace Message

/-- Blanks in messages. -/
def isLineBlank (c : Char) : Bool := c == ' ' || c == '\t' || c == '\n' || c == '\r'

/-- A line without blanks at its end. -/
def trimLine (line : List Char) : List Char := (line.reverse.dropWhile isLineBlank).reverse

/-- The lines of a message; only newlines end them. -/
def lines (message : List Char) : List (List Char) := Text.splitOn '\n' message

/-- Lines without those empty ones that follow another. -/
def squeeze : List (List Char) → List (List Char)
  | [] :: [] :: rest => squeeze ([] :: rest)
  | line :: rest => line :: squeeze rest
  | [] => []

/-- The lines of a message without blanks at their ends, without empty lines at the start or the end
and with no two in a row. -/
def cleanLines (message : List (List Char)) : List (List Char) :=
  let started := (message.map trimLine).dropWhile List.isEmpty
  squeeze ((started.reverse.dropWhile List.isEmpty).reverse)

/-- What is kept of a message. -/
def clean (cleanup : Cleanup) (message : String) : String :=
  match cleanup with
  | .none => message
  | .blanks => ofLines (cleanLines (lines message.toList))
  | .comments mark =>
      ofLines (cleanLines ((lines message.toList).filter fun line => line.head? != some mark))
where
  ofLines (lines : List (List Char)) : String :=
    String.ofList (lines.flatMap (· ++ ['\n']))

/-- The start of lines that name those who stand for a change. -/
def signature : List Char := "Signed-off-by: ".toList

/-- Whether a kept message says nothing: it has blanks and signatures only. One that is not cleaned
says something unless it is empty. -/
def saysNothing (cleanup : Cleanup) (kept : String) : Bool :=
  kept.isEmpty || (cleanup != .none &&
    (lines kept.toList).all fun line => signature.isPrefixOf line || line.all isLineBlank)

/-- The first paragraph of a kept message on one line. -/
def subject (kept : String) : String :=
  let started := ((lines kept.toList).map trimLine).dropWhile List.isEmpty
  String.ofList ([' '].intercalate (started.takeWhile (!·.isEmpty)))

end Message

/-- How the characters of messages are written. -/
inductive Encoding where
  | unicode
  /-- A byte for each of the first characters. -/
  | bytes
  | unknown
deriving Repr, DecidableEq

namespace Encoding

/-- The encoding that a word names. -/
def ofWord (word : String) : Encoding :=
  if word.isEmpty || word == "utf-8" || word == "utf8" then .unicode
  else if ["latin1", "latin-1", "iso-8859-1", "iso8859-1", "iso_8859-1", "l1"].contains word then
    .bytes
  else .unknown

/-- The encoding in which settings say that messages are kept. -/
def ofKept (settings : Configuration) : Encoding :=
  ofWord ((settings.word? "i18n.commitencoding").getD "")

/-- The encoding in which settings say that messages are shown. -/
def ofShown (settings : Configuration) : Encoding :=
  match settings.word? "i18n.logoutputencoding" with
  | some word => ofWord word
  | none => ofKept settings

/-- A text that is taken for one in an encoding, written in another; what cannot be written stays
as it is. -/
def change (source target : Encoding) (text : String) : ByteArray :=
  match source, target with
  | .unicode, .bytes =>
      if text.toList.all fun c => c.toNat < 256 then
        ⟨(text.toList.map fun c => UInt8.ofNat c.toNat).toArray⟩
      else text.toUTF8
  | .bytes, .unicode =>
      (String.ofList (text.toUTF8.data.toList.map fun b => Char.ofNat b.toNat)).toUTF8
  | _, _ => text.toUTF8

end Encoding

end Groundwork.Git
