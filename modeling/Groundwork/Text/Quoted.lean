import Groundwork.Unicode.Letter

/-!
Texts in double quotes, as messages show them. Quotes, backslashes and line ends are escaped, and
so is every character that has no shape of its own.
-/

namespace Groundwork.Text

open Groundwork.Unicode

/-- Whether a character is shown as its code point. -/
def needsCode (c : Char) : Bool :=
  if c.toNat < 0x7F then c.toNat < 0x20 else shapelessSet.contains c || attachingSet.contains c

/-- A code point in hexadecimal between braces. -/
def codeEscape (c : Char) : List Char :=
  "\\u\x7b".toList ++ Nat.toDigits 16 c.toNat ++ ['\x7d']

def quotedChar (c : Char) : List Char :=
  if c == '"' then ['\\', '"']
  else if c == '\\' then ['\\', '\\']
  else if c == '\n' then ['\\', 'n']
  else if c == '\r' then ['\\', 'r']
  else if c == '\t' then ['\\', 't']
  else if c.toNat == 0 then ['\\', '0']
  else if needsCode c then codeEscape c
  else [c]

/-- The text in double quotes. -/
def quoted (text : String) : String :=
  String.ofList ('"' :: text.toList.flatMap quotedChar ++ ['"'])

end Groundwork.Text
