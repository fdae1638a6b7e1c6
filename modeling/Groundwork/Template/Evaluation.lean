import Groundwork.Bits
import Groundwork.Template.Machine

/-!
Rendering: what expressions evaluate to and what statements write. Variables that are not defined
may be passed on, but not printed, tested for truth, looped over or looked into.
-/

namespace Groundwork.Template

/-- A step of rendering. -/
abbrev Run := ReaderT Setting (StateT Machine (Except TemplateFault))

namespace Run

def fail {α : Type} (kind : TemplateFaultKind) (detail : String) : Run α := throw ⟨kind, detail⟩

def lift {α : Type} (result : Except TemplateFault α) : Run α :=
  match result with
  | .ok a => pure a
  | .error fault => throw fault

/-! ## Depth -/

/-- How deep frames and calls may be nested. -/
def depthLimit : Nat := 500

/-- What a call of a routine adds to the depth. -/
def routineCost : Nat := 4

/-- What the inclusion of a template adds to the depth. -/
def inclusionCost : Nat := 10

def depth : Run Nat := do
  let m ← get
  return m.outer + m.frames.length

def checkDepth : Run Unit := do
  if depthLimit < (← depth) then fail .invalidOperation "recursion limit exceeded"

def pushFrame (frame : Frame) : Run Unit := do
  checkDepth
  modify fun m => { m with frames := frame :: m.frames }

def popFrame : Run Unit := modify fun m => { m with frames := m.frames.drop 1 }

/-! ## Output -/

def write (text : String) : Run Unit := modify fun m => { m with output := m.output ++ text }

/-- What a part writes, which is not output; `unused` tells that it is of no use. -/
def captured (unused : Bool) (part : Run Unit) : Run String := do
  let before ← get
  set { before with output := "", discarding := unused }
  part
  let after ← get
  set { after with output := before.output, discarding := before.discarding }
  return after.output

/-- Captured text is safe if it was escaped already. -/
def capturedValue (part : Run Unit) : Run Value := do
  let text ← captured false part
  return .text text (← get).escaping

def settled (v : Value) : Run Value := do return (← get).settled v

def viewed (v : Value) : Run Value := do return (← get).view v

/-- What filters and operators gave, as a value of the machine. -/
def resumed (result : Except TemplateFault Value) : Run Value := do
  let v ← lift result
  return (← get).resumed v

/-- Prints a value. -/
def emit (v : Value) : Run Unit := do
  match v with
  | .undefined false => fail .undefined ""
  | _ =>
      let v ← settled v
      write (if (← get).escaping then Filter.escaped v else v.display)

/-! ## Values -/

/-- Whether a value counts as true. -/
def truth (v : Value) : Run Bool := do
  match v with
  | .undefined false => fail .undefined ""
  | _ => return ((← get).view v).isTrue

/-- The members that a loop goes through. -/
def membersOf (v : Value) : Run (List Value) := do lift (Filter.members ((← get).view v))

/-- The value with marks, so that it can be told from others. -/
def kept (v : Value) : Run Value := do
  let m ← get
  let (v, marks) := v.marked m.marks
  set { m with marks }
  return v

/-- Keeps a value under a name. -/
def store (name : String) (v : Value) : Run Unit := do
  let v ← kept v
  modify fun m => m.store name v

/-- A value that can be looked at. -/
def valid (v : Value) : Run Value :=
  match v with
  | .invalid fault => throw fault
  | _ => pure v

/-- A member that may be missing, of a value that may not. -/
def found (whole : Value) (part : Option Value) : Run Value :=
  match part with
  | some v => valid v
  | none => if whole.isUndefined then fail .undefined "" else pure Filter.absent

def memberNamed (v : Value) (name : String) : Run Value := do
  found v (((← get).view v).attribute? name)

def memberAt (v key : Value) : Run Value := do found v (((← get).view v).item? key)

/-! ## Operands -/

/-- The values of the parts of an expression, in order. What a part leaves below its own value
counts among them; only as many as there are parts are taken, and the others stay below. -/
def operands (parts : List (Run Value)) : Run (List Value) := do
  let before := (← get).beneath
  let pushed ← parts.foldlM (fun (pushed : List Value) part => do
    modify fun m => { m with beneath := [] }
    let v ← part
    return v :: (← get).beneath.reverse ++ pushed) []
  let left := (pushed.drop parts.length).reverse
  modify fun m => { m with beneath := before ++ left }
  return (pushed.take parts.length).reverse

/-- Keys and values that follow one another, as entries. -/
def pairs : List Value → List (Value × Value)
  | key :: value :: rest => (key, value) :: pairs rest
  | _ => []

/-- Parts in batches: spread ones by themselves, and those between them as what is built of them. -/
def batched (build : List Value → Value) (pending : List (Run Value))
    : List (Bool × List (Run Value)) → List (Run Value)
  | [] => if pending.isEmpty then [] else [build <$> operands pending]
  | (false, parts) :: rest => batched build (pending ++ parts) rest
  | (true, parts) :: rest =>
      let built := if pending.isEmpty then [] else [build <$> operands pending]
      built ++ parts ++ batched build [] rest

/-- The members of all batches of arguments. -/
def unpackBatches (batches : List Value) : Run (List Value) := do
  let m ← get
  let members ← batches.mapM fun batch =>
    match (m.view batch).members? with
    | some items => return items
    | none => fail .invalidOperation "value is not iterable"
  return members.flatten

/-- The named arguments of all batches, later ones before earlier ones of the same name. -/
def mergeNamed (batches : List Value) : Run Value := do
  let m ← get
  let entries ← batches.mapM fun batch =>
    match m.view batch with
    | .map entries _ => return entries
    | .undefined false => fail .undefined ""
    | _ => fail .invalidOperation "attempted to apply keyword arguments from non map"
  return .map (Value.ofEntries entries.flatten) .arguments

def namedArguments (values : List Value) : Value := .map (Value.ofEntries (pairs values)) .arguments

/-! ## Functions -/

/-- How many steps lead from a start to before a bound. -/
def stepsTo (start stop step : Int) : Nat :=
  if 0 < step then ((stop - start + step - 1) / step).toNat
  else ((start - stop - step - 1) / (-step)).toNat

/-- How many members a range may have. -/
def rangeLimit : Nat := 100000

def takeRange : Take Value := do
  let first ← Take.one (Reading.signed 64)
  let second ← Take.optional (Reading.signed 64)
  let step := (← Take.optional (Reading.signed 64)).getD 1
  if step == 0 then Take.fail .invalidOperation "cannot create range with step of 0"
  let (start, stop) := match second with
    | some stop => (first, stop)
    | none => (0, first)
  let length := stepsTo start stop step
  if rangeLimit < length then Take.fail .invalidOperation "range has too many elements"
  return Value.stream ((List.range length).map fun (i : Nat) => .int (start + i * step))

def takeDictionary : Take Value := do
  let base ←
    match ← get with
    | .map _ .arguments :: _ => pure none
    | _ => Take.optional Reading.whatever
  let named ← Take.named
  match base with
  | none => return .ofMap (Value.ofEntries named)
  | some (.map entries _) => return .ofMap (Value.ofEntries (entries ++ named))
  | some _ => Take.fail .invalidOperation ""

/-- The entries that a namespace starts with. -/
def takeNamespace : Take (List (Value × Value)) := do
  match ← Take.optional Reading.whatever with
  | none => return []
  | some (.map entries _) =>
      return Value.ofEntries (entries.filter fun (e : Value × Value) => e.1.asText?.isSome)
  | some _ => Take.fail .invalidOperation "expected object or keyword arguments"

/-- The state of rendering over several lines: what is rendered, the variables, and what every
template can use. -/
def stateText : Run String := do
  let setting ← read
  let m ← get
  let block := match m.block with
    | some name => "Some(" ++ "\n    " ++ Text.quoted name ++ ",\n)"
    | none => "None"
  let values := (m.variableNames setting).map fun name =>
    (Value.ofText name, m.settled ((m.lookup? setting name).getD Filter.absent))
  let shown (entries : List (Value × Value)) : String :=
    (Value.ofMap (Value.ofEntries entries)).pretty
  let listed (names : List String) : String :=
    Value.bracketed "[" "]" (names.map Text.quoted)
  let environment := Value.bracketed "Environment \x7b" "\x7d"
    ["globals: " ++ shown (Builtin.all.map fun f => (.ofText f.name, .function f)),
      "tests: " ++ listed Test.names, "filters: " ++ listed Filter.names,
      "templates: " ++ listed [setting.name]]
  return Value.bracketed "State \x7b" "\x7d"
    ["name: " ++ Text.quoted setting.name, "current_block: " ++ block,
      "auto_escape: " ++ (if m.escaping then "Html" else "None"), "ctx: " ++ shown values,
      "env: " ++ environment]

/-- Calls a function that every template has. -/
def callBuiltin (builtin : Builtin) (arguments : List Value) : Run Value := do
  match builtin with
  | .range => lift (takeRange.run arguments)
  | .dictionary => lift (takeDictionary.run (← arguments.mapM viewed))
  | .namespaces => do
      let entries ← lift (takeNamespace.run (← arguments.mapM viewed))
      let m ← get
      let (entries, marks) := Value.markedEntries m.marks entries
      set { m with spaces := m.spaces.push entries, marks }
      return .space m.spaces.size
  | .debug =>
      match ← arguments.mapM settled with
      | [] => return .ofText (← stateText)
      | [v] => return .ofText v.pretty
      | all => return .ofText (Value.list all).pretty

/-- A method of a loop: whether arguments changed since the last round, or the argument of this
round. -/
def callLoop (id : Nat) (name : String) (arguments : List Value) : Run Value := do
  let loop := (← get).loopState id
  match name with
  | "changed" =>
      let same := match loop.last with
        | some before => Value.equalItems before arguments
        | none => false
      if same then return .bool false
      modify fun m => { m with loops := m.loops.set! id { loop with last := some arguments } }
      return .bool true
  | "cycle" =>
      return (arguments[loop.index % arguments.length]?).getD Filter.absent
  | _ => fail .unknownMethod ""

/-- The values of the parameters of a routine, and the block that its caller passed. -/
def bindParameters (routine : Routine) (arguments : List Value)
    : Except TemplateFault (List (String × Value) × Value) := do
  let (placed, named) := Filter.splitNamed arguments
  if routine.parameters.length < placed.length then
    throw ⟨.tooManyArguments, "received unexpected additional positional arguments"⟩
  let bound ← routine.parameters.zipIdx.mapM fun (name, i) =>
    match placed[i]?, Value.valueAt? named (.ofText name) with
    | some _, some _ =>
        (.error ⟨.tooManyArguments, s!"duplicate argument {name}"⟩ : Except TemplateFault _)
    | some v, none => .ok (name, v)
    | none, some v => .ok (name, v)
    | none, none => .ok (name, Filter.absent)
  let caller := (Value.valueAt? named (.ofText "caller")).getD Filter.absent
  let known := if routine.takesCaller then "caller" :: routine.parameters else routine.parameters
  if (named.filterMap (·.1.asText?)).any fun name => !known.contains name then
    throw ⟨.tooManyArguments, "unknown keyword argument"⟩
  return (bound, caller)

/-- Whether the value of an escaping block turns escaping on. -/
def escapingOf (v : Value) : Except TemplateFault Bool :=
  match v.asText?, Value.equal v (.bool true) with
  | some "html", _ => .ok true
  | some "none", _ => .ok false
  | none, false => .ok false
  | none, true => .ok true
  | _, _ => TemplateFault.invalid "invalid value to autoescape tag"

/-- The parts of a value that is assigned to several targets. -/
def unpack (v : Value) (count : Nat) : Run (List Value) := do
  let items? : Option (List Value) := match (← get).view v with
    | .sequence _ items => some items
    | .map entries _ => some (entries.map (·.1))
    | _ => none
  match items? with
  | none => fail .cannotUnpack "value is not iterable"
  | some items =>
      if items.length == count then return items
      else fail .cannotUnpack s!"sequence of wrong length (expected {count}, got {items.length})"

/-- The defaults that belong to the last of the parameters, or none. -/
def withDefaults (parameters : List String) (defaults : List Expr) : List (String × Option Expr) :=
  let without := parameters.length - defaults.length
  parameters.zip (List.replicate without none ++ defaults.map some)

/-- Makes a routine of the frame on top. -/
def defineRoutine (name : String) (parameters : List String) (defaults : List Expr)
    (body : List Stmt) : Run Value := do
  let free := freeNames parameters defaults body
  let setting ← read
  let (closure, m) := (← get).openClosure
  let m := m.enclose setting closure (free.filter (· != "caller"))
  let id := m.routines.size
  let routine : Routine :=
    { name, parameters, defaults, body, takesCaller := free.contains "caller", closure }
  set { m with routines := m.routines.push routine }
  return .routine id name

/-- The names of templates that an inclusion may try, in order. -/
def templateNames (v : Value) : Run (List Value) := do
  match (← get).view v with
  | .sequence _ items => return items
  | .map entries _ => return entries.map (·.1)
  | .function _ => return []
  | v => return [v]

end Run

open Run

mutual

/-- The value of an expression. -/
def evaluate : Nat → Expr → Run Value
  | 0, _ => fail .invalidOperation "recursion limit exceeded"
  | fuel + 1, e => do
      match e with
      | .const v => return v
      | .var name => valid (((← get).lookup? (← read) name).getD Filter.absent)
      | .negate a => lift (Value.negate (← evaluate fuel a))
      | .not a => return .bool (!(← truth (← evaluate fuel a)))
      | .both a b =>
          let left ← evaluate fuel a
          if ← truth left then evaluate fuel b else return left
      | .either a b =>
          let left ← evaluate fuel a
          if ← truth left then return left else evaluate fuel b
      | .binary operator a b =>
          match ← (← operands [evaluate fuel a, evaluate fuel b]).mapM settled with
          | [left, right] => resumed (Value.operate operator left right)
          | _ => fail .invalidOperation "missing operands"
      | .choose test yes no =>
          if ← truth (← evaluate fuel test) then evaluate fuel yes
          else match no with
            | some e => evaluate fuel e
            | none => return .undefined true
      | .attribute of name => memberNamed (← evaluate fuel of) name
      | .item of key =>
          match ← operands [evaluate fuel of, evaluate fuel key] with
          | [whole, key] => memberAt whole key
          | _ => fail .invalidOperation "missing operands"
      | .slice of start stop step =>
          let bound (e : Option Expr) : Run Value :=
            match e with
            | some e => evaluate fuel e
            | none => return .null
          match ← operands [evaluate fuel of, bound start, bound stop, bound step] with
          | [whole, start, stop, step] =>
              if whole.isUndefined then fail .undefined ""
              resumed (Value.slice (← settled whole) start stop step)
          | _ => fail .invalidOperation "missing operands"
      | .filtered name subject arguments =>
          let v : Run Value :=
            match subject with
            | some e => evaluate fuel e
            | none => return Filter.absent
          applyFilter fuel name v arguments
      | .tested name subject arguments =>
          let values ← evaluateArguments fuel [evaluate fuel subject] arguments none
          return .bool (← lift (Test.apply Filter.names name (← values.mapM settled)))
      | .call callee arguments => call fuel callee arguments none
      | .list items => return .list (← operands (items.map (evaluate fuel)))
      | .map entries =>
          let values ← operands (entries.flatMap fun (k, v) => [evaluate fuel k, evaluate fuel v])
          return .ofMap (Value.ofEntries (pairs values))

/-- Applies a filter to a value. -/
def applyFilter : Nat → String → Run Value → List (Passing × Expr) → Run Value
  | 0, _, _, _ => fail .invalidOperation "recursion limit exceeded"
  | fuel + 1, name, v, arguments => do
      let values ← evaluateArguments fuel [v] arguments none
      valid (← resumed (Filter.apply name (← values.mapM settled)))

/-- Applies a chain of filters to the text of a block. -/
def applyChain : Nat → Expr → Value → Run Value
  | 0, _, _ => fail .invalidOperation "recursion limit exceeded"
  | fuel + 1, chain, v => do
      match chain with
      | .filtered name subject arguments =>
          let v : Run Value :=
            match subject with
            | some e => applyChain fuel e v
            | none => return v
          applyFilter fuel name v arguments
      | _ => return v

/-- The values of arguments, after those of some parts before them: those by place, then one map of
those by name, the block of a caller last among these. -/
def evaluateArguments : Nat → List (Run Value) → List (Passing × Expr) → Option (Run Value)
    → Run (List Value)
  | 0, _, _, _ => fail .invalidOperation "recursion limit exceeded"
  | fuel + 1, before, arguments, caller => do
      let placed : List (Bool × List (Run Value)) := arguments.filterMap fun (passing, e) =>
        match passing with
        | .placed => some (false, [evaluate fuel e])
        | .spread => some (true, [evaluate fuel e])
        | _ => none
      let given : List (Bool × List (Run Value)) := arguments.filterMap fun (passing, e) =>
        match passing with
        | .named name => some (false, [return .ofText name, evaluate fuel e])
        | .spreadNamed => some (true, [evaluate fuel e])
        | _ => none
      let given := given ++ match caller with
        | some part => [(false, [return .ofText "caller", part])]
        | none => []
      let named : Run Value :=
        if given.any (·.1) then do mergeNamed (← operands (batched namedArguments [] given))
        else namedArguments <$> operands (given.flatMap (·.2))
      let parts := (false, before) :: placed ++ if given.isEmpty then [] else [(false, [named])]
      if placed.any (·.1) then
        unpackBatches (← operands (batched Value.list [] parts))
      else operands (parts.flatMap (·.2))

/-- Calls what an expression names. A routine may get the block of its caller. The name of a loop
runs it again. -/
def call : Nat → Expr → List (Passing × Expr) → Option (Run Value) → Run Value
  | 0, _, _, _ => fail .invalidOperation "recursion limit exceeded"
  | fuel + 1, callee, arguments, caller => do
      match callee with
      | .var name =>
          let values ← evaluateArguments fuel [] arguments caller
          if name == "super" then
            if !values.isEmpty then fail .invalidOperation "super() takes no arguments"
            else if (← get).block.isNone then
              fail .invalidOperation "cannot super outside of block"
            else fail .invalidOperation "no parent block exists"
          else
            match (← get).lookup? (← read) name, values with
            | some (.loop _), [v] => capturedValue (loopAgain fuel v)
            | some (.loop _), _ => fail .invalidOperation "loop() takes one argument"
            | some f, _ => callValue fuel f values
            | none, _ => fail .unknownFunction s!"{name} is unknown"
      | .attribute (.var "self") name => capturedValue (runBlock fuel name)
      | .attribute of name =>
          match ← evaluateArguments fuel [evaluate fuel of] arguments caller with
          | object :: values => callMethod fuel object name values
          | [] => fail .invalidOperation "missing operands"
      | e =>
          match ← evaluateArguments fuel [evaluate fuel e] arguments caller with
          | f :: values => callValue fuel f values
          | [] => fail .invalidOperation "missing operands"

def callMethod : Nat → Value → String → List Value → Run Value
  | 0, _, _, _ => fail .invalidOperation "recursion limit exceeded"
  | fuel + 1, object, name, arguments => do
      match object with
      | .loop id => callLoop id name arguments
      | _ =>
          match ((← get).view object).attribute? name with
          | some f => callValue fuel f arguments
          | none => fail .unknownMethod s!"{object.kind.describe} has no method named {name}"

def callValue : Nat → Value → List Value → Run Value
  | 0, _, _ => fail .invalidOperation "recursion limit exceeded"
  | fuel + 1, f, arguments => do
      match f with
      | .function builtin => callBuiltin builtin arguments
      | .routine id _ => callRoutine fuel id arguments
      | .loop _ => fail .invalidOperation "loop recursion cannot be called this way"
      | _ => fail .invalidOperation s!"value of type {f.kind.describe} is not callable"

/-- Runs a routine on frames of its own. Its defaults are evaluated from the last parameter to the
first. -/
def callRoutine : Nat → Nat → List Value → Run Value
  | 0, _, _ => fail .invalidOperation "recursion limit exceeded"
  | fuel + 1, id, arguments => do
      match (← get).routines[id]? with
      | none => fail .invalidOperation "cannot call this macro"
      | some routine =>
          let (bound, caller) ← lift (bindParameters routine arguments)
          let before ← get
          let below ← depth
          let frame : Frame := { Frame.empty with base := .closure routine.closure }
          let start := { before with
            frames := [frame, Frame.ofOptions], outer := below + routineCost, beneath := []
            output := "", discarding := false, block := none, blocks := [] }
          set (if routine.takesCaller then start.store "caller" caller else start)
          checkDepth
          for ((name, v), default) in
              (bound.zip ((withDefaults routine.parameters routine.defaults).map (·.2))).reverse do
            let v ← match v, default with
              | .undefined _, some e => evaluate fuel e
              | v, _ => pure v
            store name v
          executeAll fuel routine.body
          let after ← get
          set { after with
            frames := before.frames, outer := before.outer, beneath := before.beneath
            output := before.output, discarding := before.discarding, escaping := before.escaping
            block := before.block, blocks := before.blocks }
          return .text after.output before.escaping

/-- Runs a block of the template. -/
def runBlock : Nat → String → Run Unit
  | 0, _ => fail .invalidOperation "recursion limit exceeded"
  | fuel + 1, name => do
      match ((← get).blocks.find? fun b => b.1 == name) with
      | none => fail .unknownBlock s!"block '{name}' not found"
      | some (_, body) =>
          let before := (← get).block
          modify fun m => { m with block := some name }
          pushFrame Frame.empty
          executeAll fuel body
          popFrame
          modify fun m => { m with block := before }

/-- Runs a block of the template where its output is used. -/
def showBlock : Nat → String → Run Unit
  | 0, _ => fail .invalidOperation "recursion limit exceeded"
  | fuel + 1, name => do if !(← get).discarding then runBlock fuel name

/-- Runs the innermost loop on other members, if it is recursive. One that answers leaves below
what it writes whether there were none. -/
def loopAgain : Nat → Value → Run Unit
  | 0, _ => fail .invalidOperation "recursion limit exceeded"
  | fuel + 1, v => do
      match (← get).currentLoop? with
      | none => fail .unknownFunction "loop is unknown"
      | some loop =>
          match loop.again with
          | none => fail .invalidOperation "cannot recurse outside of recursive loop"
          | some (target, body) =>
              let any ← runLoop fuel v target body loop.answers true
              if loop.answers then
                modify fun m => { m with beneath := m.beneath ++ [.bool !any] }

/-- Runs statements for every member of a value, on a frame that stays for all of them. Tells
whether there were members. -/
def runLoop : Nat → Value → Target → List Stmt → Bool → Bool → Run Bool
  | 0, _, _, _, _, _ => fail .invalidOperation "recursion limit exceeded"
  | fuel + 1, v, target, body, answers, recursive => do
      let v ← kept v
      let items ← membersOf v
      let m ← get
      let level := match m.currentLoop? with
        | some outer => if outer.again.isSome then (m.loopState outer.id).depth + 1 else 0
        | none => 0
      let id := m.loops.size
      modify fun m =>
        { m with loops := m.loops.push (LoopState.initial (m.view v).loopLength? level) }
      pushFrame { Frame.empty with
        loop := some ⟨id, true, answers, if recursive then some (target, body) else none⟩ }
      let nexts := items.drop 1 ++ [Filter.absent]
      let previous := Filter.absent :: items
      for ((v, i), (before, after)) in items.zipIdx.zip (previous.zip nexts) do
        modify fun m => { m with loops := m.loops.modify id fun l =>
          { l with index := i, previous := before, next := after } }
        assign fuel target (← valid v)
        executeAll fuel body
      modify fun m => { m with loops := m.loops.modify id fun l =>
        { l with index := items.length, previous := items.getLast?.getD Filter.absent
                 next := Filter.absent } }
      popFrame
      return !items.isEmpty

/-- Assigns a value to a target. -/
def assign : Nat → Target → Value → Run Unit
  | 0, _, _ => fail .invalidOperation "recursion limit exceeded"
  | fuel + 1, target, v => do
      match target with
      | .name name => store name v
      | .attribute of name =>
          match ← evaluate fuel of with
          | .space id =>
              let v ← kept v
              modify fun m =>
                { m with spaces := m.spaces.modify id (Value.setEntry (.ofText name) v) }
          | object =>
              fail .invalidOperation s!"can only assign to namespaces, not {object.kind.describe}"
      | .parts targets =>
          let parts ← unpack v targets.length
          for (target, v) in targets.zip parts do
            assign fuel target v

def executeAll : Nat → List Stmt → Run Unit
  | 0, _ => fail .invalidOperation "recursion limit exceeded"
  | fuel + 1, stmts =>
      for stmt in stmts do
        execute fuel stmt

/-- Includes the first template of the given names that there is. Only the template itself is
known by its name. -/
def includeFirst : Nat → Value → Bool → Run Unit
  | 0, _, _ => fail .invalidOperation "recursion limit exceeded"
  | fuel + 1, v, optional => do
      let setting ← read
      let mut found := false
      let mut tried := false
      for choice in ← templateNames v do
        if !found then
          match choice.asText? with
          | none => fail .invalidOperation "template name was not a string"
          | some name => if name == setting.name then found := true else tried := true
      if found then
        let before ← get
        let within := { before with
          frames := match before.frames with
            | frame :: below => { frame with closure := none } :: below
            | [] => []
          escaping := setting.markup, blocks := setting.blocks
          outer := before.outer + inclusionCost }
        set within
        checkDepth
        let inside : Run Unit := executeAll fuel setting.stmts
        match (inside setting).run (← get) with
        | .error _ => fail .badInclude s!"error in \"{setting.name}\""
        | .ok (_, after) =>
            set { after with
              frames := match after.frames, before.frames with
                | frame :: below, old :: _ => { frame with closure := old.closure } :: below
                | frames, _ => frames
              outer := before.outer, escaping := before.escaping, blocks := before.blocks }
      else if tried && !optional then
        fail .templateNotFound "tried to include non-existing template"

/-- Runs a statement. -/
def execute : Nat → Stmt → Run Unit
  | 0, _ => fail .invalidOperation "recursion limit exceeded"
  | fuel + 1, stmt => do
      match stmt with
      | .data text => write text
      | .emit (.call (.var "loop") [argument]) => do
          match ← evaluateArguments fuel [] [argument] none, argument.1 with
          | [v], .placed | [v], .named _ | [v], .spreadNamed => loopAgain fuel v
          | values, _ => loopAgain fuel (.int values.length)
      | .emit (.call (.attribute (.var "self") name) _) => showBlock fuel name
      | .emit e => emit (← evaluate fuel e)
      | .loop target subject condition recursive body otherwise =>
          let v ← evaluate fuel subject
          let v ← match condition with
            | none => pure v
            | some test => do
                let items ← membersOf v
                let id := (← get).loops.size
                modify fun m => { m with loops := m.loops.push (LoopState.initial none 0) }
                pushFrame { Frame.empty with loop := some ⟨id, false, false, none⟩ }
                let kept ← items.filterM fun item => do
                  assign fuel target (← valid item)
                  truth (← evaluate fuel test)
                popFrame
                pure (Value.list kept)
          let answers := !otherwise.isEmpty
          if !(← runLoop fuel v target body answers recursive) then executeAll fuel otherwise
      | .branch test yes no =>
          if ← truth (← evaluate fuel test) then executeAll fuel yes else executeAll fuel no
      | .scope assignments body =>
          pushFrame Frame.empty
          for (target, e) in assignments do
            assign fuel target (← evaluate fuel e)
          executeAll fuel body
          popFrame
      | .assign target e => assign fuel target (← evaluate fuel e)
      | .capture target chain body =>
          let v ← capturedValue (executeAll fuel body)
          let v ← match chain with
            | some e => applyChain fuel e v
            | none => pure v
          assign fuel target v
      | .escaping enabled body =>
          let v ← evaluate fuel enabled
          let before := (← get).escaping
          let on ← lift (escapingOf v)
          modify fun m => { m with escaping := on }
          executeAll fuel body
          modify fun m => { m with escaping := before }
      | .filtered chain body =>
          emit (← applyChain fuel chain (← capturedValue (executeAll fuel body)))
      | .block name _ => showBlock fuel name
      | .parent e =>
          let v ← evaluate fuel e
          match v.asText? with
          | none => fail .invalidOperation "template name was not a string"
          | some name =>
              if name == (← read).name then fail .invalidOperation "cycle in template inheritance"
              else fail .templateNotFound s!"template {Text.quoted name} does not exist"
      | .inclusion e optional => includeFirst fuel (← evaluate fuel e) optional
      | .imported e target =>
          pushFrame Frame.empty
          let v ← evaluate fuel e
          let written ← captured false (includeFirst fuel v false)
          let locals := match (← get).frames with
            | frame :: _ => frame.locals
            | [] => []
          popFrame
          assign fuel target (.map (locals.map fun l => (.ofText l.1, l.2)) (.module written))
      | .names e names =>
          pushFrame Frame.empty
          let v ← evaluate fuel e
          let _ ← captured true (includeFirst fuel v false)
          let m ← get
          let setting ← read
          popFrame
          for (name, target) in names.reverse do
            assign fuel target ((m.lookup? setting name).getD Filter.absent)
      | .routine name parameters defaults body =>
          let v ← defineRoutine name parameters defaults body
          store name v
      | .callWith callee arguments parameters defaults body =>
          let caller := defineRoutine "caller" parameters defaults body
          emit (← call fuel callee arguments (some caller))
      | .perform callee arguments => let _ ← call fuel callee arguments none

end

mutual

/-- The blocks in a statement, wherever they stand. -/
def Stmt.blocks : Stmt → List (String × List Stmt)
  | .loop _ _ _ _ body otherwise => blocksOf body ++ blocksOf otherwise
  | .branch _ yes no => blocksOf yes ++ blocksOf no
  | .scope _ body => blocksOf body
  | .capture _ _ body => blocksOf body
  | .escaping _ body => blocksOf body
  | .filtered _ body => blocksOf body
  | .block name body => (name, body) :: blocksOf body
  | _ => []

def blocksOf : List Stmt → List (String × List Stmt)
  | [] => []
  | s :: rest => s.blocks ++ blocksOf rest

end

end Groundwork.Template
