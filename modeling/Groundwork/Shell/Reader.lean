import Groundwork.Shell.Token

/-!
Commands of a command line, read one line at a time, since what a line does can change how later
ones are read.
-/

namespace Groundwork.Shell

/-- Where the reading of a part of a word ends. -/
inductive WordEnd where
  /-- At a blank or an operator. -/
  | blank
  | quote
  /-- At the end of the text. -/
  | text
  /-- At a brace, unless quotes are open. -/
  | brace (quotes : Bool)
  /-- At two closing parentheses, after those of so many open ones. -/
  | parens (depth : Nat)
deriving DecidableEq

/-- How a part of a word is read. -/
structure WordContext where
  quoted : Bool := false
  ending : WordEnd := .blank
  /-- Expansions stand for themselves. -/
  verbatim : Bool := false

/-- How a token is read. -/
structure TokenContext where
  /-- Newlines are passed by. -/
  newlines : Bool := false
  reserved : Bool := false
  aliases : Bool := false
  verbatim : Bool := false

/-- The context of the first token of a command. -/
def TokenContext.start : TokenContext := { newlines := true, reserved := true, aliases := true }

/-- Characters that need a closer look within words. -/
def isOrdinary (c : Char) : Bool := !" \t\n\\$`'\"\x7d();&|<>".toList.contains c

/-- Characters that end a word. -/
def endsWord (c : Char) : Bool := " \t\n;&|<>()".toList.contains c

/-- Parameters that are not variables. -/
def isSpecial (c : Char) : Bool := "@*#?-$!".toList.contains c

/-- Adds characters to a word whose parts and characters are collected from the end. -/
def addChars (word : Word) (chars : List Char) (quoted : Bool) : Word :=
  match word with
  | .text taken q :: rest =>
      if q == quoted then .text (chars.reverse ++ taken) q :: rest
      else .text chars.reverse quoted :: word
  | _ => .text chars.reverse quoted :: word

/-- A word whose parts were collected from the end. -/
def finishWord (word : Word) : Word :=
  word.reverse.map fun
    | .text chars quoted => .text chars.reverse quoted
    | part => part

/-- Whether a backslash takes the meaning from a character within quotes. -/
def isEscapable (ending : WordEnd) (c : Char) : Bool :=
  c == '\\' || c == '`' || c == '$' || (c == '"' && ending != .text) ||
    (c == '\x7d' && (ending == .brace true || ending == .brace false))

/-- A command line between backquotes. -/
def readBackquoted (quoted : Bool) (fuel : Nat) (taken : List Char) : Reading (List Char) :=
  match fuel with
  | 0 => Reading.fail .openBackquote
  | fuel + 1 => do
      let next ← Reading.peek
      Reading.advance
      match next with
      | none => Reading.fail .openBackquote
      | some '`' => return taken.reverse
      | some '\\' =>
          let source ← get
          match source.text with
          | [] => Reading.fail .openBackquote
          | c :: _ =>
              Reading.advance
              if c == '\\' || c == '`' || c == '$' || (quoted && c == '"') then
                readBackquoted quoted fuel (c :: taken)
              else readBackquoted quoted fuel (c :: '\\' :: taken)
      | some c => readBackquoted quoted fuel (c :: taken)

/-- The form of a parameter after its name, and whether a word follows. -/
def readForm : Reading (ParameterForm × Bool) := do
  let colon ← Reading.follows ':'
  let next ← Reading.peek
  let take (form : ParameterForm) (word : Bool) : Reading (ParameterForm × Bool) := do
    Reading.advance
    return (form, word)
  match next with
  | some '\x7d' => take .plain colon
  | some '-' => take (.default colon) true
  | some '+' => take (.alternative colon) true
  | some '?' => take (.required colon) true
  | some '=' => take (.assign colon) true
  | some c =>
      if (c == '%' || c == '#') && !colon then do
        Reading.advance
        let longest ← Reading.follows c
        return (.without (c == '%') longest, true)
      else take .faulty true
  | none => return (.faulty, true)

/-- The name of a parameter between braces with its form, and whether a word follows. -/
def readBracedName (fuel : Nat) : Reading (String × ParameterForm × Bool) := do
  let named (chars : List Char) : Reading (String × ParameterForm × Bool) := do
    return (String.ofList chars, ← readForm)
  match ← Reading.peek with
  | none => return ("", .faulty, true)
  | some c =>
      if isNameStart c then named (← Reading.spanJoined fuel isNameChar)
      else if c.isDigit then named (← Reading.spanJoined fuel Char.isDigit)
      else if !isSpecial c then return ("", .faulty, true)
      else
        Reading.advance
        if c != '#' then named [c]
        else
          match ← Reading.peek with
          | none => named ['#']
          | some d =>
              if isNameStart d || d.isDigit then
                let name ← Reading.spanJoined fuel fun e =>
                  if d.isDigit then e.isDigit else isNameChar e
                if ← Reading.follows '\x7d' then return (String.ofList name, .length, false)
                else return ("", .faulty, true)
              else
                let before ← get
                Reading.advance
                if d != '\x7d' && (← Reading.follows '\x7d') then
                  if isSpecial d then return (String.singleton d, .length, false)
                  else return ("", .faulty, false)
                else
                  set before
                  named ['#']

/-- Whether a part is all parameters as words of their own. -/
def isAllParameters : Word → Bool
  | [.parameter "@" .plain _ true] => true
  | _ => false

mutual

/-- Reads what follows a dollar sign; `fuel` bounds the nesting and the length. -/
def readDollar (fuel : Nat) (quoted : Bool) (word : Word) : Reading Word :=
  match fuel with
  | 0 => Reading.fail .openBrace
  | fuel + 1 => do
      match ← Reading.peek with
      | some '(' =>
          Reading.advance
          if ← Reading.follows '(' then
            let inner ← readParts fuel { quoted := true, ending := .parens 0 } []
            return .arithmetic (finishWord inner) quoted :: word
          else
            let commands ← readCommands fuel false true []
            let token ← readToken fuel {}
            if token.isOperator ")" then return .command (.sequence commands) quoted :: word
            else Reading.refuse token "\")\""
      | some '\x7b' =>
          Reading.advance
          let (name, form, more) ← readBracedName fuel
          if !more then return .parameter name form [] quoted :: word
          else
            let unquoted := match form with
              | .without .. => true
              | _ => !quoted
            let inner ← readParts fuel { quoted := !unquoted, ending := .brace false } []
            return .parameter name form (finishWord inner) quoted :: word
      | some c =>
          if isNameStart c then
            let name ← Reading.spanJoined fuel isNameChar
            return .parameter (String.ofList name) .plain [] quoted :: word
          else if c.isDigit || isSpecial c then
            Reading.advance
            return .parameter (String.singleton c) .plain [] quoted :: word
          else return addChars word ['$'] quoted
      | none => return addChars word ['$'] quoted

/-- Reads parts of a word. -/
def readParts (fuel : Nat) (context : WordContext) (word : Word) : Reading Word :=
  match fuel with
  | 0 => Reading.fail .openQuote
  | fuel + 1 => do
      let run ← Reading.span isOrdinary
      if !run.isEmpty then readParts fuel context (addChars word run context.quoted)
      else
        let literally (c : Char) : Reading Word := do
          Reading.advance
          readParts fuel context (addChars word [c] context.quoted)
        match ← Reading.peek with
        | none =>
            match context.ending with
            | .blank | .text => return word
            | .quote => Reading.fail .openQuote
            | .brace quotes =>
                Reading.fail (if context.quoted || quotes then .openQuote else .openBrace)
            | .parens _ => Reading.fail .openArithmetic
        | some c =>
            match c with
            | '\\' => do
                Reading.advance
                match (← get).text with
                | [] => readParts fuel context (addChars word ['\\'] true)
                | d :: _ =>
                    Reading.advance
                    if context.quoted && !isEscapable context.ending d then
                      readParts fuel context (addChars word ['\\', d] true)
                    else readParts fuel context (addChars word [d] true)
            | '$' =>
                if context.verbatim then literally c
                else do
                  Reading.advance
                  readParts fuel context (← readDollar fuel context.quoted word)
            | '`' =>
                if context.verbatim then literally c
                else do
                  Reading.advance
                  let inner ← readBackquoted context.quoted fuel []
                  let commands ← Reading.within inner (readCommands fuel false true [])
                  readParts fuel context
                    (.command (.sequence commands) context.quoted :: word)
            | '\'' =>
                if context.quoted then literally c
                else do
                  Reading.advance
                  let inner ← readSingle fuel []
                  readParts fuel context (addChars (.quotes :: word) inner true)
            | '"' =>
                match context.ending with
                | .quote => do
                    Reading.advance
                    return word
                | .text => literally c
                | .parens _ => do
                    Reading.advance
                    readParts fuel context word
                | .brace quotes =>
                    if context.quoted then do
                      Reading.advance
                      readParts fuel { context with ending := .brace !quotes } word
                    else readQuoted fuel context word
                | .blank => readQuoted fuel context word
            | '\x7d' =>
                if context.ending == .brace false then do
                  Reading.advance
                  return word
                else literally c
            | '(' =>
                match context.ending with
                | .blank => return word
                | .parens depth => do
                    Reading.advance
                    readParts fuel { context with ending := .parens (depth + 1) }
                      (addChars word [c] true)
                | _ => literally c
            | ')' =>
                match context.ending with
                | .blank => return word
                | .parens (depth + 1) => do
                    Reading.advance
                    readParts fuel { context with ending := .parens depth }
                      (addChars word [c] true)
                | .parens 0 => do
                    Reading.advance
                    if ← Reading.follows ')' then return word
                    else readParts fuel context (addChars word [c] true)
                | _ => literally c
            | c =>
                if context.ending == .blank && endsWord c then return word else literally c

/-- Reads parts of a word in double quotes. -/
def readQuoted (fuel : Nat) (context : WordContext) (word : Word) : Reading Word :=
  match fuel with
  | 0 => Reading.fail .openQuote
  | fuel + 1 => do
      Reading.advance
      let inner ← readParts fuel { context with quoted := true, ending := .quote } []
      readParts fuel context
        (inner ++ (if isAllParameters inner then word else .quotes :: word))

/-- Reads up to a single quote. -/
def readSingle (fuel : Nat) (taken : List Char) : Reading (List Char) :=
  match fuel with
  | 0 => Reading.fail .openQuote
  | fuel + 1 => do
      let run ← Reading.span fun c => c != '\'' && c != '\n'
      match (← get).text with
      | [] => Reading.fail .openQuote
      | c :: _ =>
          Reading.advance
          if c == '\'' then return taken ++ run
          else readSingle fuel (taken ++ run ++ ['\n'])

/-- Reads a token. -/
def readToken (fuel : Nat) (context : TokenContext) : Reading Token :=
  match fuel with
  | 0 => return .ending
  | fuel + 1 => do
      let (token, afterAlias) ← match ← Reading.takeBack with
        | some token => pure (token, false)
        | none => do
            Reading.skipBlanks fuel
            let afterAlias ← Reading.leaveAliases
            let token ← readFreshToken fuel context.verbatim
            pure (token, afterAlias)
      match token with
      | .newline =>
          if context.newlines then readToken fuel context else return token
      | .word word =>
          match plainText? word with
          | none => return token
          | some text =>
              if context.reserved && reservedWords.contains text then return .reserved text
              else if context.aliases || afterAlias then
                match ← Reading.alias? text with
                | some value =>
                    Reading.insertAlias text value
                    readToken fuel context
                | none => return token
              else return token
      | token => return token

/-- Reads a token from the text. -/
def readFreshToken (fuel : Nat) (verbatim : Bool) : Reading Token :=
  match fuel with
  | 0 => return .ending
  | fuel + 1 => do
      let double (c : Char) (one : String) : Reading Token := do
        Reading.advance
        if ← Reading.follows c then return .operator (one ++ String.singleton c)
        else return .operator one
      match ← Reading.peek with
      | none => return .ending
      | some '\n' =>
          Reading.advance
          return .newline
      | some '&' => double '&' "&"
      | some '|' => double '|' "|"
      | some ';' => double ';' ";"
      | some '(' =>
          Reading.advance
          return .operator "("
      | some ')' =>
          Reading.advance
          return .operator ")"
      | some '<' => readRedirect none
      | some '>' => readRedirect none
      | some c =>
          let before ← get
          if c.isDigit then
            Reading.advance
            match ← Reading.peek with
            | some '<' | some '>' => readRedirect (some (c.toNat - '0'.toNat))
            | _ =>
                set before
                return .word (finishWord (← readParts fuel { verbatim } []))
          else return .word (finishWord (← readParts fuel { verbatim } []))
where
  /-- Reads the sign of a redirection. -/
  readRedirect (channel : Option Nat) : Reading Token := do
    let isOutput := (← Reading.peek) == some '>'
    Reading.advance
    let take (usual : Nat) (kind : RedirectKind) (stripped : Bool) : Reading Token :=
      return .redirect (channel.getD usual) kind stripped
    if isOutput then
      if ← Reading.follows '>' then take 1 .append false
      else if ← Reading.follows '|' then take 1 .force false
      else if ← Reading.follows '&' then take 1 .duplicate false
      else take 1 .output false
    else if ← Reading.follows '<' then take 0 .here (← Reading.follows '-')
    else if ← Reading.follows '>' then take 0 .update false
    else if ← Reading.follows '&' then take 0 .duplicate false
    else take 0 .input false

/-- Reads the word of a redirection. -/
def readTarget (fuel : Nat) (channel : Nat) (kind : RedirectKind) (stripped : Bool)
    : Reading Redirect :=
  match fuel with
  | 0 => Reading.fail .openQuote
  | fuel + 1 => do
      match ← readToken fuel { verbatim := kind == .here } with
      | .word word =>
          if kind == .here then
            let mark := word.flatMap fun
              | .text chars _ => chars
              | _ => []
            let isQuoted := word.any fun
              | .text _ quoted => quoted
              | _ => true
            let content ← Reading.content mark stripped
            if isQuoted then return .mk channel kind [.text content true]
            else
              let parts ← Reading.within content
                (readParts fuel { quoted := true, ending := .text } [])
              return .mk channel kind (finishWord parts)
          else if kind == .duplicate then
            match plainText? word with
            | some text =>
                if text == "-" || (text.length == 1 && text.toList.all Char.isDigit) then
                  return .mk channel kind word
                else Reading.fail .badChannel
            | none => return .mk channel kind word
          else return .mk channel kind word
      | token => Reading.refuse token none

/-- Reads redirections and puts back what follows them. -/
def readRedirects (fuel : Nat) : Reading (List Redirect) :=
  match fuel with
  | 0 => return []
  | fuel + 1 => do
      match ← readToken fuel { reserved := true, aliases := true } with
      | .redirect channel kind stripped =>
          let redirect ← readTarget fuel channel kind stripped
          return redirect :: (← readRedirects fuel)
      | token =>
          Reading.putBack token
          return []

/-- Reads commands in sequence. With `line` they end with their line; with `maybe` there may be
none. -/
def readCommands (fuel : Nat) (line maybe : Bool) (commands : List Command)
    : Reading (List Command) :=
  match fuel with
  | 0 => return commands.reverse
  | fuel + 1 => do
      let token ← readToken fuel { TokenContext.start with newlines := !line }
      match token with
      | .newline => return commands.reverse
      | .ending =>
          Reading.putBack token
          return commands.reverse
      | token =>
          Reading.putBack token
          if (maybe || !commands.isEmpty) && token.endsSequence && !line then
            return commands.reverse
          else if line && !commands.isEmpty && token.endsSequence then Reading.refuse token none
          else
            let command ← readJoined fuel (← readPipeline fuel)
            let token ← readToken fuel {}
            let command := if token.isOperator "&" then .background command else command
            match token with
            | .newline | .ending =>
                Reading.putBack token
                readCommands fuel line maybe (command :: commands)
            | .operator "&" | .operator ";" =>
                readCommands fuel line maybe (command :: commands)
            | token =>
                if line then Reading.refuse token none
                else
                  Reading.putBack token
                  return (command :: commands).reverse

/-- Reads what is joined to a command by `&&` and `||`. -/
def readJoined (fuel : Nat) (command : Command) : Reading Command :=
  match fuel with
  | 0 => return command
  | fuel + 1 => do
      let token ← readToken fuel {}
      if token.isOperator "&&" || token.isOperator "||" then
        let next ← readToken fuel .start
        Reading.putBack next
        let other ← readPipeline fuel
        readJoined fuel
          (if token.isOperator "&&" then .both command other else .either command other)
      else
        Reading.putBack token
        return command

/-- Reads commands joined by pipes. -/
def readPipeline (fuel : Nat) : Reading Command :=
  match fuel with
  | 0 => return .empty
  | fuel + 1 => do
      let token ← readToken fuel {}
      let negated := token.isReserved "!"
      if negated then
        Reading.putBack (← readToken fuel { reserved := true, aliases := true })
      else Reading.putBack token
      let first ← readCommand fuel
      let others ← readPiped fuel
      let command := if others.isEmpty then first else .pipeline (first :: others)
      return if negated then .negated command else command

/-- Reads the commands after pipes. -/
def readPiped (fuel : Nat) : Reading (List Command) :=
  match fuel with
  | 0 => return []
  | fuel + 1 => do
      let token ← readToken fuel {}
      if token.isOperator "|" then
        Reading.putBack (← readToken fuel .start)
        let command ← readCommand fuel
        return command :: (← readPiped fuel)
      else
        Reading.putBack token
        return []

/-- Reads a token that has to be a certain one. -/
def expectReserved (fuel : Nat) (name : String) : Reading Unit :=
  match fuel with
  | 0 => return ()
  | fuel + 1 => do
      let token ← readToken fuel {}
      if token.isReserved name then return ()
      else Reading.refuse token s!"\"{name}\""

/-- Reads one command with its redirections. -/
def readCommand (fuel : Nat) : Reading Command :=
  match fuel with
  | 0 => return .empty
  | fuel + 1 => do
      let line := (← get).line
      let token ← readToken fuel {}
      match token with
      | .word _ | .redirect .. =>
          Reading.putBack token
          readSimple fuel (← get).line true [] [] []
      | .operator "(" =>
          let body ← readCommands fuel false false []
          let token ← readToken fuel {}
          if token.isOperator ")" then
            return .subshell line (.sequence body) (← readRedirects fuel)
          else Reading.refuse token "\")\""
      | .reserved "\x7b" =>
          let body ← readCommands fuel false false []
          expectReserved fuel "\x7d"
          redirect fuel line (.sequence body)
      | .reserved "if" => redirect fuel line (← readConditional fuel)
      | .reserved "while" => redirect fuel line (← readLoop fuel false)
      | .reserved "until" => redirect fuel line (← readLoop fuel true)
      | .reserved "for" => redirect fuel line (← readFor fuel line)
      | .reserved "case" => redirect fuel line (← readCase fuel line)
      | token => Reading.refuse token none

/-- Adds the redirections that follow a command. -/
def redirect (fuel : Nat) (line : Nat) (command : Command) : Reading Command :=
  match fuel with
  | 0 => return command
  | fuel + 1 => do
      let redirects ← readRedirects fuel
      return if redirects.isEmpty then command else .redirected line command redirects

/-- Reads a conditional after its first word. -/
def readConditional (fuel : Nat) : Reading Command :=
  match fuel with
  | 0 => return .empty
  | fuel + 1 => do
      let test ← readCommands fuel false false []
      expectReserved fuel "then"
      let yes ← readCommands fuel false false []
      let token ← readToken fuel {}
      if token.isReserved "elif" then
        return .conditional (.sequence test) (.sequence yes) (← readConditional fuel)
      else if token.isReserved "else" then
        let no ← readCommands fuel false false []
        expectReserved fuel "fi"
        return .conditional (.sequence test) (.sequence yes) (.sequence no)
      else
        Reading.putBack token
        expectReserved fuel "fi"
        return .conditional (.sequence test) (.sequence yes) .empty

/-- Reads a loop after its first word. -/
def readLoop (fuel : Nat) (negated : Bool) : Reading Command :=
  match fuel with
  | 0 => return .empty
  | fuel + 1 => do
      let test ← readCommands fuel false false []
      expectReserved fuel "do"
      let body ← readCommands fuel false false []
      expectReserved fuel "done"
      return .loop negated (.sequence test) (.sequence body)

/-- Reads a loop over words after its first word. -/
def readFor (fuel : Nat) (line : Nat) : Reading Command :=
  match fuel with
  | 0 => return .empty
  | fuel + 1 => do
      let token ← readToken fuel {}
      let name? := match token with
        | .word word => (plainText? word).filter fun text => isName text.toList
        | _ => none
      match name? with
      | none => Reading.fail .badLoopName
      | some name =>
          let token ← readToken fuel .start
          let items ←
            if token.isReserved "in" then do
              let (words, last) ← readWords fuel
              match last with
              | .newline | .operator ";" => pure words
              | last => Reading.refuse last none
            else do
              if !token.isOperator ";" then Reading.putBack token
              pure [[.parameter "@" .plain [] true]]
          let token ← readToken fuel .start
          if token.isReserved "do" then
            let body ← readCommands fuel false false []
            expectReserved fuel "done"
            return .forEach line name items (.sequence body)
          else Reading.refuse token "\"do\""

/-- Reads words, and the token after them. -/
def readWords (fuel : Nat) : Reading (List Word × Token) :=
  match fuel with
  | 0 => return ([], .ending)
  | fuel + 1 => do
      match ← readToken fuel {} with
      | .word word =>
          let (words, last) ← readWords fuel
          return (word :: words, last)
      | token => return ([], token)

/-- Reads a selection after its first word. -/
def readCase (fuel : Nat) (line : Nat) : Reading Command :=
  match fuel with
  | 0 => return .empty
  | fuel + 1 => do
      match ← readToken fuel {} with
      | .word subject =>
          let token ← readToken fuel .start
          if token.isReserved "in" then
            let token ← readToken fuel { newlines := true, reserved := true }
            return .select line subject (← readBranches fuel token)
          else Reading.refuse token "\"in\""
      | token => Reading.refuse token "word"

/-- Reads the branches of a selection from a token on. -/
def readBranches (fuel : Nat) (token : Token) : Reading (List (List Word × Command)) :=
  match fuel with
  | 0 => return []
  | fuel + 1 => do
      if token.isReserved "esac" then return []
      else
        let token ← if token.isOperator "(" then readToken fuel {} else pure token
        let patterns ← readPatterns fuel token
        let body ← readCommands fuel false true []
        let next ← readToken fuel { newlines := true, reserved := true }
        if next.isReserved "esac" then return [(patterns, .sequence body)]
        else if next.isOperator ";;" then
          let first ← readToken fuel { newlines := true, reserved := true }
          return (patterns, .sequence body) :: (← readBranches fuel first)
        else Reading.refuse next "\";;\""

/-- Reads the patterns of a branch from a token on, up to the parenthesis that ends them. -/
def readPatterns (fuel : Nat) (token : Token) : Reading (List Word) :=
  match fuel with
  | 0 => return []
  | fuel + 1 => do
      let pattern : Word := match token with
        | .word word => word
        | .reserved name => [.text name.toList false]
        | _ => []
      let next ← readToken fuel {}
      if next.isOperator "|" then
        return pattern :: (← readPatterns fuel (← readToken fuel {}))
      else if next.isOperator ")" then return [pattern]
      else Reading.refuse next "\")\""

/-- Reads the rest of a simple command. -/
def readSimple (fuel line : Nat) (leading : Bool) (assignments : List (String × Word))
    (words : List Word) (redirects : List Redirect) : Reading Command :=
  match fuel with
  | 0 => return .empty
  | fuel + 1 => do
      let token ← readToken fuel { aliases := leading }
      let finish : Reading Command := do
        Reading.putBack token
        return .simple line assignments.reverse words.reverse redirects.reverse
      match token with
      | .word word =>
          match if leading then assignment? word else none with
          | some assignment =>
              readSimple fuel line leading (assignment :: assignments) words redirects
          | none => readSimple fuel line false assignments (word :: words) redirects
      | .redirect channel kind stripped =>
          let redirect ← readTarget fuel channel kind stripped
          readSimple fuel line leading assignments words (redirect :: redirects)
      | .operator "(" =>
          match words with
          | [word] =>
              if assignments.isEmpty && redirects.isEmpty then
                let token ← readToken fuel {}
                if !token.isOperator ")" then Reading.refuse token "\")\""
                else
                  match plainText? word with
                  | some name =>
                      if isName name.toList && !specialCommands.contains name then
                        let line := (← get).line
                        Reading.putBack (← readToken fuel .start)
                        return .function name line (← readCommand fuel)
                      else Reading.fail .badFunctionName
                  | none => Reading.fail .badFunctionName
              else finish
          | _ => finish
      | _ => finish

end

/-- How deep the reading of a text can go. -/
def readingFuel (text : List Char) : Nat := 16 * (text.length + 1000)

/-- Reads the commands of the next line. There are none at the end of the text. -/
def readLine (source : Source) : Except PlacedFault (Option Command × Source) := do
  let source := { source with putBack := none }
  let (commands, rest) ← (readCommands (readingFuel source.text) true false []).run source
  match commands, rest.putBack with
  | [], some .ending => return (none, rest)
  | commands, _ => return (some (.sequence commands), rest)

end Groundwork.Shell
