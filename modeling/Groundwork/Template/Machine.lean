import Groundwork.Dictionary
import Groundwork.Template.Filter

/-!
The state of a template that is being rendered: frames of variables, what was written so far, and
the things that values refer to by number. A frame is looked through before the ones below it.
-/

namespace Groundwork.Template

/-- The loop of a frame. A recursive loop can be run again on other members; `answers` tells whether
it says if there were members, for statements that are run if there were none. -/
structure FrameLoop where
  id : Nat
  named : Bool
  answers : Bool
  again : Option (Target × List Stmt)

/-- What lies under the variables of a frame. -/
inductive Base where
  | nothing
  | options
  | closure (id : Nat)

/-- Variables set at one place, the closure that routines defined there share, and a loop. -/
structure Frame where
  locals : Dictionary String Value
  base : Base
  closure : Option Nat
  loop : Option FrameLoop

namespace Frame

def empty : Frame := ⟨[], .nothing, none, none⟩

/-- The frame with the options, below all others. -/
def ofOptions : Frame := { empty with base := .options }

end Frame

/-- Where a loop is. -/
structure LoopState where
  index : Nat
  length : Option Nat
  depth : Nat
  previous : Value
  next : Value
  last : Option (List Value)

/-- A routine with the closure it was defined in. -/
structure Routine where
  name : String
  parameters : List String
  defaults : List Expr
  body : List Stmt
  takesCaller : Bool
  closure : Nat

/-- The state of rendering. `outer` counts the depth of what the frames were started from; `beneath`
are values that the parts of an expression left below their own; `discarding` tells that what is
written is not used; `marks` is the first mark that nothing has. -/
structure Machine where
  frames : List Frame
  outer : Nat
  beneath : List Value
  output : String
  discarding : Bool
  escaping : Bool
  block : Option String
  blocks : List (String × List Stmt)
  closures : Array (Dictionary String Value)
  spaces : Array (List (Value × Value))
  loops : Array LoopState
  routines : Array Routine
  marks : Nat

/-- What is rendered: the name, statements and blocks of the template, whether it is markup, and the
variables given to it, which have marks below `marks`. -/
structure Setting where
  name : String
  stmts : List Stmt
  blocks : List (String × List Stmt)
  markup : Bool
  bindings : Dictionary String Value
  marks : Nat

namespace LoopState

def initial (length : Option Nat) (depth : Nat) : LoopState :=
  ⟨0, length, depth, Filter.absent, Filter.absent, none⟩

/-- The attributes of a loop. Those that need its length are not defined if that is not known. -/
def entries (loop : LoopState) : List (Value × Value) :=
  let ofNat (n : Nat) : Value := .int n
  let known (f : Nat → Value) : Value := (loop.length.map f).getD Filter.absent
  let i := loop.index
  let all : List (String × Value) :=
    [("index0", ofNat i), ("index", ofNat (i + 1)), ("length", known ofNat),
      ("revindex", known fun n => ofNat (n - i)),
      ("revindex0", known fun n => ofNat (n - i - 1)), ("first", .bool (i == 0)),
      ("last", .bool (loop.length == some (i + 1))),
      ("depth", ofNat (loop.depth + 1)), ("depth0", ofNat loop.depth),
      ("previtem", loop.previous), ("nextitem", loop.next)]
  all.map fun e => (.ofText e.1, e.2)

def display (loop : LoopState) : String :=
  let length := (loop.length.map (toString ·)).getD "?"
  s!"<loop {loop.index}/{length}>"

end LoopState

namespace Machine

def initial (setting : Setting) : Machine :=
  { frames := [Frame.ofOptions], outer := 0, beneath := [], output := "", discarding := false,
    escaping := setting.markup, block := none, blocks := setting.blocks, closures := #[],
    spaces := #[], loops := #[], routines := #[], marks := setting.marks }

def closureOf (m : Machine) (id : Nat) : Dictionary String Value := m.closures.getD id []

/-- The variable of a name in one frame. -/
def frameLookup? (setting : Setting) (m : Machine) (name : String) (frame : Frame) : Option Value :=
  match Dictionary.get? frame.locals name with
  | some v => some v
  | none =>
      let loop := match frame.loop with
        | some l => if l.named && name == "loop" then some (Value.loop l.id) else none
        | none => none
      match loop, frame.base with
      | some v, _ => some v
      | none, .nothing => none
      | none, .options => Dictionary.get? setting.bindings name
      | none, .closure id => Dictionary.get? (m.closureOf id) name

/-- The variable or function of a name. -/
def lookup? (setting : Setting) (m : Machine) (name : String) : Option Value :=
  match m.frames.findSome? (m.frameLookup? setting name) with
  | some v => some v
  | none => (Builtin.ofName? name).map .function

/-- The names of all variables, without those of the functions that every template has. -/
def variableNames (setting : Setting) (m : Machine) : List String :=
  m.frames.flatMap fun frame =>
    let loop := if frame.loop.any (·.named) then ["loop"] else []
    let base := match frame.base with
      | .nothing => []
      | .options => setting.bindings
      | .closure id => m.closureOf id
    frame.locals.map (·.1) ++ loop ++ base.map (·.1)

/-- Sets a variable of the frame on top, and of the closure that it shares. -/
def store (m : Machine) (name : String) (v : Value) : Machine :=
  match m.frames with
  | [] => m
  | frame :: below =>
      let frames := { frame with locals := Dictionary.insert frame.locals name v } :: below
      match frame.closure with
      | none => { m with frames }
      | some id =>
          { m with frames, closures := m.closures.modify id fun c => Dictionary.insert c name v }

/-- The closure of the frame on top. -/
def openClosure (m : Machine) : Nat × Machine :=
  match m.frames with
  | [] => (0, m)
  | frame :: below =>
      match frame.closure with
      | some id => (id, m)
      | none =>
          let id := m.closures.size
          (id, { m with
            frames := { frame with closure := some id } :: below
            closures := m.closures.push [] })

/-- Takes variables into a closure, but none that it has already. -/
def enclose (setting : Setting) (m : Machine) (id : Nat) (names : List String) : Machine :=
  names.foldl (fun m name =>
    if Dictionary.contains (m.closureOf id) name then m
    else
      let v := (m.lookup? setting name).getD Filter.absent
      { m with closures := m.closures.modify id fun c => Dictionary.insert c name v }) m

/-- The loop that is run innermost. -/
def currentLoop? (m : Machine) : Option FrameLoop := m.frames.findSome? (·.loop)

def loopState (m : Machine) (id : Nat) : LoopState :=
  (m.loops[id]?).getD (LoopState.initial none 0)

/-- The value with its members in the open, if it refers to the machine. -/
def view (m : Machine) (v : Value) : Value :=
  match v with
  | .space id => .map (m.spaces.getD id []) (.space id)
  | .loop id => .map (m.loopState id).entries (.loop id (m.loopState id).display)
  | .routine id name =>
      let parameters := ((m.routines[id]?).map (·.parameters)).getD []
      let takesCaller := ((m.routines[id]?).map (·.takesCaller)).getD false
      .map [(.ofText "name", .ofText name),
        (.ofText "arguments", .list (parameters.map Value.ofText)),
        (.ofText "caller", .bool takesCaller)] (.routine id name)
  | _ => v

/-- The value without references to the machine, down to a depth. -/
def settle (m : Machine) : Nat → Value → Value
  | 0, v => v
  | fuel + 1, v =>
      match m.view v with
      | .sequence form items => .sequence form (items.map (m.settle fuel))
      | .map entries form => .map (entries.map fun e => (e.1, m.settle fuel e.2)) form
      | v => v

/-- How deep values are looked into for references. -/
def settleDepth : Nat := 100

/-- Whether there is anything to refer to. -/
def hasReferents (m : Machine) : Bool :=
  !(m.spaces.isEmpty && m.loops.isEmpty && m.routines.isEmpty)

/-- The value as filters and operators see it. -/
def settled (m : Machine) (v : Value) : Value :=
  if m.hasReferents then m.settle settleDepth v else v

/-- The value that filters and operators gave, with references to the machine again. -/
def resumed (m : Machine) (v : Value) : Value := if m.hasReferents then v.referred else v

end Machine

end Groundwork.Template
