/-!
Command lines as they are read: words with their expansions, redirections, and commands built from
simple ones.
-/

namespace Groundwork.Shell

/-- What becomes of the value of a parameter. -/
inductive ParameterForm where
  | plain
  | length
  /-- Another word if the parameter is unset, or with `nonempty` if it is empty. -/
  | default (nonempty : Bool)
  | assign (nonempty : Bool)
  /-- Another word if the parameter is set. -/
  | alternative (nonempty : Bool)
  /-- A message if the parameter is unset. -/
  | required (nonempty : Bool)
  /-- Without the shortest or longest start or end that a pattern matches. -/
  | without (fromEnd longest : Bool)
  /-- A form without a meaning. -/
  | faulty
deriving Repr, DecidableEq

/-- Where a redirection leads. -/
inductive RedirectKind where
  | input
  | output
  /-- Like output, also where files are not to be replaced. -/
  | force
  | append
  /-- For reading and writing, with what a file holds. -/
  | update
  | duplicate
  /-- The word is the content itself. -/
  | here
deriving Repr, DecidableEq

mutual

/-- A part of a word. What is quoted is neither split nor taken as a wildcard. -/
inductive WordPart where
  | text (chars : List Char) (quoted : Bool)
  /-- Quotes were here: the word is there even if it is empty. -/
  | quotes
  | parameter (name : String) (form : ParameterForm) (word : List WordPart) (quoted : Bool)
  /-- The output of a command. -/
  | command (body : Command) (quoted : Bool)
  | arithmetic (expression : List WordPart) (quoted : Bool)

/-- A redirection of a channel. -/
inductive Redirect where
  | mk (channel : Nat) (kind : RedirectKind) (target : List WordPart)

/-- A command, with the number of its line where messages tell it. -/
inductive Command where
  | simple (line : Nat) (assignments : List (String × List WordPart))
      (words : List (List WordPart)) (redirects : List Redirect)
  | pipeline (parts : List Command)
  | negated (command : Command)
  | both (left right : Command)
  | either (left right : Command)
  | sequence (commands : List Command)
  | background (command : Command)
  | conditional (test yes no : Command)
  /-- A loop that runs while its test succeeds, or with `negated` while it fails. -/
  | loop (negated : Bool) (test body : Command)
  | forEach (line : Nat) (name : String) (items : List (List WordPart)) (body : Command)
  | select (line : Nat) (subject : List WordPart) (branches : List (List (List WordPart) × Command))
  | subshell (line : Nat) (body : Command) (redirects : List Redirect)
  | redirected (line : Nat) (command : Command) (redirects : List Redirect)
  | function (name : String) (line : Nat) (body : Command)

end

abbrev Word := List WordPart

instance : Inhabited Command := ⟨.sequence []⟩

/-- The command that does nothing. -/
def Command.empty : Command := .sequence []

namespace Redirect

def channel : Redirect → Nat
  | .mk channel _ _ => channel

def kind : Redirect → RedirectKind
  | .mk _ kind _ => kind

def target : Redirect → Word
  | .mk _ _ target => target

end Redirect

/-- The text of a word that has no quotes and no expansions. -/
def plainText? : Word → Option String
  | [.text chars false] => some (String.ofList chars)
  | _ => none

/-! ## Names -/

def isNameStart (c : Char) : Bool := c.isAlpha || c == '_'

def isNameChar (c : Char) : Bool := c.isAlphanum || c == '_'

/-- Whether a text can be the name of a variable. -/
def isName (text : List Char) : Bool := text.head?.any isNameStart && text.all isNameChar

/-- The words that have a meaning where a command begins. -/
def reservedWords : List String :=
  ["!", "case", "do", "done", "elif", "else", "esac", "fi", "for", "if", "in", "then", "until",
    "while", "\x7b", "\x7d"]

/-- Commands of the shell after whose faults it does not go on. -/
def specialCommands : List String :=
  [".", ":", "break", "continue", "eval", "exec", "exit", "export", "local", "readonly", "return",
    "set", "shift", "times", "trap", "unset"]

/-- The name and the value of a word that is an assignment. -/
def assignment? : Word → Option (String × Word)
  | .text chars false :: rest =>
      let name := chars.takeWhile isNameChar
      match chars.drop name.length with
      | '=' :: value =>
          if isName name then
            some (String.ofList name, if value.isEmpty then rest else .text value false :: rest)
          else none
      | _ => none
  | _ => none

end Groundwork.Shell
