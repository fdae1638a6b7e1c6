import Groundwork.Template.Value

/-!
Templates as trees: expressions, the targets of assignments, and statements. The variables that a
routine takes from outside are those it reads before it assigns them.
-/

namespace Groundwork.Template

/-- The operators on two values. -/
inductive Operator where
  | add
  | subtract
  | multiply
  | divide
  | divideWhole
  | modulo
  | power
  | join
  | equal
  | notEqual
  | less
  | lessEqual
  | greater
  | greaterEqual
  | member
deriving Repr, DecidableEq

/-- How an argument is passed: by its place or by name, and as one value or as all the members of
one. -/
inductive Passing where
  | placed
  | named (name : String)
  | spread
  | spreadNamed
deriving Repr, DecidableEq

/-- An expression. -/
inductive Expr where
  | const (value : Value)
  | var (name : String)
  | negate (operand : Expr)
  | not (operand : Expr)
  | both (left right : Expr)
  | either (left right : Expr)
  | binary (operator : Operator) (left right : Expr)
  | choose (test yes : Expr) (no : Option Expr)
  | attribute (of : Expr) (name : String)
  | item (of key : Expr)
  | slice (of : Expr) (start stop step : Option Expr)
  | filtered (name : String) (subject : Option Expr) (arguments : List (Passing × Expr))
  | tested (name : String) (subject : Expr) (arguments : List (Passing × Expr))
  | call (callee : Expr) (arguments : List (Passing × Expr))
  | list (items : List Expr)
  | map (entries : List (Expr × Expr))
deriving Inhabited

/-- What an assignment assigns to. -/
inductive Target where
  | name (name : String)
  | attribute (of : Expr) (name : String)
  | parts (targets : List Target)
deriving Inhabited

/-- A statement. -/
inductive Stmt where
  | data (text : String)
  | emit (value : Expr)
  | loop (target : Target) (subject : Expr) (condition : Option Expr) (recursive : Bool)
      (body otherwise : List Stmt)
  | branch (test : Expr) (yes no : List Stmt)
  | scope (assignments : List (Target × Expr)) (body : List Stmt)
  | assign (target : Target) (value : Expr)
  | capture (target : Target) (filters : Option Expr) (body : List Stmt)
  | escaping (enabled : Expr) (body : List Stmt)
  | filtered (filters : Expr) (body : List Stmt)
  | block (name : String) (body : List Stmt)
  | parent (template : Expr)
  | inclusion (template : Expr) (optional : Bool)
  | imported (template : Expr) (target : Target)
  | names (template : Expr) (names : List (String × Target))
  | routine (name : String) (parameters : List String) (defaults : List Expr) (body : List Stmt)
  | callWith (callee : Expr) (arguments : List (Passing × Expr)) (parameters : List String)
      (defaults : List Expr) (body : List Stmt)
  | perform (callee : Expr) (arguments : List (Passing × Expr))
deriving Inhabited

/-! ## Variables that a routine takes from outside -/

/-- The names seen so far: those taken from outside, and those assigned. -/
structure Names where
  free : List String
  assigned : List String

namespace Names

def assign (names : Names) (name : String) : Names :=
  { names with assigned := name :: names.assigned }

def look (names : Names) (name : String) : Names :=
  if names.assigned.contains name || names.free.contains name then names
  else { names with free := name :: names.free }

/-- The names after a part whose assignments are its own. -/
def leave (names inner : Names) : Names := { names with free := inner.free }

end Names

mutual

def Expr.look (names : Names) : Expr → Names
  | .const _ => names
  | .var name => names.look name
  | .negate e => e.look names
  | .not e => e.look names
  | .both a b => b.look (a.look names)
  | .either a b => b.look (a.look names)
  | .binary _ a b => b.look (a.look names)
  | .choose t y n => lookOption (y.look (t.look names)) n
  | .attribute e _ => e.look names
  | .item e k => k.look (e.look names)
  | .slice e a b c => lookOption (lookOption (lookOption (e.look names) a) b) c
  | .filtered _ e args => lookArguments (lookOption names e) args
  | .tested _ e args => lookArguments (e.look names) args
  | .call e args => lookArguments (e.look names) args
  | .list items => lookItems names items
  | .map entries => lookEntries names entries

def lookOption (names : Names) : Option Expr → Names
  | none => names
  | some e => e.look names

def lookItems (names : Names) : List Expr → Names
  | [] => names
  | e :: rest => lookItems (e.look names) rest

def lookArguments (names : Names) : List (Passing × Expr) → Names
  | [] => names
  | (_, e) :: rest => lookArguments (e.look names) rest

def lookEntries (names : Names) : List (Expr × Expr) → Names
  | [] => names
  | (k, v) :: rest => lookEntries (v.look (k.look names)) rest

end

mutual

/-- The names that an assignment to a target assigns. -/
def Target.assign (names : Names) : Target → Names
  | .name n => names.assign n
  | .attribute .. => names
  | .parts targets => assignAll names targets

def assignAll (names : Names) : List Target → Names
  | [] => names
  | t :: rest => assignAll (t.assign names) rest

end

/-- Targets are assigned before their values are looked at. -/
def lookAssignments (names : Names) : List (Target × Expr) → Names
  | [] => names
  | (target, value) :: rest => lookAssignments (value.look (target.assign names)) rest

def assignNames (names : Names) : List (String × Target) → Names
  | [] => names
  | (_, target) :: rest => assignNames (target.assign names) rest

mutual

def Stmt.look (names : Names) : Stmt → Names
  | .data _ => names
  | .emit e => e.look names
  | .loop target subject condition _ body otherwise =>
      let inner := lookOption (target.assign (subject.look (names.assign "loop"))) condition
      let names := names.leave (lookAll inner body)
      names.leave (lookAll names otherwise)
  | .branch test yes no =>
      let names := test.look names
      let names := names.leave (lookAll names yes)
      names.leave (lookAll names no)
  | .scope assignments body => names.leave (lookAll (lookAssignments names assignments) body)
  | .assign target value => value.look (target.assign names)
  | .capture target _ body =>
      let names := target.assign names
      names.leave (lookAll names body)
  | .escaping _ body => names.leave (lookAll names body)
  | .filtered _ body => names.leave (lookAll names body)
  | .block _ body => names.leave (lookAll (names.assign "super") body)
  | .parent _ => names
  | .inclusion .. => names
  | .imported _ target => target.assign names
  | .names _ items => assignNames names items
  | .routine name parameters defaults body =>
      lookAll (lookItems (parameters.foldl Names.assign (names.assign name)) defaults) body
  | .callWith callee arguments parameters defaults body =>
      let names := lookArguments (callee.look names) arguments
      lookAll (lookItems (parameters.foldl Names.assign names) defaults) body
  | .perform callee arguments => lookArguments (callee.look names) arguments

def lookAll (names : Names) : List Stmt → Names
  | [] => names
  | s :: rest => lookAll (s.look names) rest

end

/-- The names that a routine reads before it assigns them. -/
def freeNames (parameters : List String) (defaults : List Expr) (body : List Stmt) : List String :=
  (lookAll (lookItems (parameters.foldl Names.assign ⟨[], []⟩) defaults) body).free.reverse

end Groundwork.Template
