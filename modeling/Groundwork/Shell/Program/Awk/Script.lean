import Groundwork.Shell.Program.Awk.Value
import Groundwork.Text.Expression

/-!
Scripts of `awk`: rules of patterns and actions, and functions.
-/

namespace Groundwork.Shell.Program.Awk

inductive Operator where
  | add
  | subtract
  | multiply
  | divide
  | remainder
  | power
deriving Repr, DecidableEq

inductive Relation where
  | equal
  | unequal
  | less
  | atMost
  | greater
  | atLeast
deriving Repr, DecidableEq

/-- Whether values stand in a relation that compare in some way. Nothing but being unequal holds of
what cannot be compared. -/
def Relation.holds (relation : Relation) : Option Ordering → Bool
  | none => relation == .unequal
  | some order =>
      match relation with
      | .equal => order == .eq
      | .unequal => order != .eq
      | .less => order == .lt
      | .atMost => order != .gt
      | .greater => order == .gt
      | .atLeast => order != .lt

/-- A pattern of a script: as it is spelled, and as it is matched. -/
structure Pattern where
  source : ByteArray
  expression : Expression

mutual

inductive Expr where
  | number (x : Float)
  | text (bytes : ByteArray)
  | pattern (pattern : Pattern)
  | name (name : String)
  | element (table : String) (keys : List Expr)
  | field (index : Expr)
  | negate (e : Expr)
  | plus (e : Expr)
  | deny (e : Expr)
  | arithmetic (operator : Operator) (left right : Expr)
  | relate (relation : Relation) (left right : Expr)
  | matching (positive : Bool) (left right : Expr)
  | both (left right : Expr)
  | either (left right : Expr)
  | choose (condition yes no : Expr)
  | join (left right : Expr)
  | within (keys : List Expr) (table : String)
  | assign (operator : Option Operator) (target value : Expr)
  /-- Counts a variable up or down; the value is that before or after it. -/
  | count (up after : Bool) (target : Expr)
  | read (source : Source) (target : Option Expr)
  | call (name : String) (arguments : List Expr)
  | builtin (name : String) (arguments : List Expr)
  /-- Something in parentheses, to which nothing can be assigned. -/
  | plainly (e : Expr)
  /-- Expressions in parentheses, which only some places can take. -/
  | several (parts : List Expr)

/-- Where a line is read. -/
inductive Source where
  | input
  | file (name : Expr)
  | command (text : Expr)

end

instance : Inhabited Expr := ⟨.text .empty⟩

/-- Where output goes. -/
inductive TargetKind where
  | file
  | fileEnd
  | command
deriving Repr, DecidableEq

inductive Statement where
  | expression (e : Expr)
  | print (arguments : List Expr) (target : Option (TargetKind × Expr))
  | printf (arguments : List Expr) (target : Option (TargetKind × Expr))
  | block (statements : List Statement)
  | choose (condition : Expr) (yes no : Statement)
  | whilst (condition : Expr) (body : Statement)
  | doWhile (body : Statement) (condition : Expr)
  | loop (start : Option Expr) (condition : Option Expr) (step : Option Expr) (body : Statement)
  | each (name table : String) (body : Statement)
  | delete (table : String) (keys : Option (List Expr))
  | leave
  | again
  | next
  | nextFile
  | exit (status : Option Expr)
  | give (value : Option Expr)

instance : Inhabited Statement := ⟨.block []⟩

/-- When an action is done. -/
inductive Guard where
  | begin
  | finish
  | always
  | one (condition : Expr)
  | range (first last : Expr)

structure Rule where
  guard : Guard
  /-- Without an action the record is printed. -/
  action : Option Statement

structure Function where
  parameters : List String
  body : Statement

structure Script where
  rules : List Rule
  functions : List (String × Function)

/-- How patterns are spelled. -/
def dialect : Expression.Dialect :=
  { extended := true, strict := true, braces := false, escapes := true }

/-- What is wrong with a pattern. -/
def patternFault : Expression.Fault → String
  | .openGroup => "missing ')'"
  | .closedGroup => "missing '('"
  | .bracket | .className | .collation | .rangeEnd | .classSyntax => "bad class -- [], [^] or ["
  | .tooLarge => "resource exhaustion -- regular expression too large"
  | _ => "missing operand"

/-- What came last in a pattern. -/
inductive Scan where
  | start
  | choice
  | filled
  | escaped
  /-- In brackets, right behind their beginning if `first`. -/
  | bracket (first : Bool)

/-- Whether a choice lacks one of its sides. -/
def lacksSide : Scan → List UInt8 → Bool
  | .choice, [] => true
  | _, [] => false
  | .escaped, _ :: rest => lacksSide .filled rest
  | .bracket first, b :: rest =>
      if b == 94 && first then lacksSide (.bracket true) rest
      else if b == 93 && !first then lacksSide .filled rest
      else lacksSide (.bracket false) rest
  | .filled, b :: rest => lacksSide (after b) rest
  | .choice, b :: rest => b == 124 || b == 41 || lacksSide (after b) rest
  | .start, b :: rest => b == 124 || lacksSide (after b) rest
where
  after (b : UInt8) : Scan :=
    if b == 92 then .escaped
    else if b == 91 then .bracket true
    else if b == 124 then .choice
    else if b == 40 then .start
    else .filled

/-- Reads a pattern. -/
def readPattern (source : ByteArray) : Except String Pattern :=
  let bytes := source.data.toList
  if lacksSide .start bytes then .error "missing operand"
  else
    match Expression.parse dialect bytes with
    | .ok spelled => .ok ⟨source, spelled.pattern⟩
    | .error fault => .error (patternFault fault)

end Groundwork.Shell.Program.Awk
