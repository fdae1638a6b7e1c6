import Groundwork.Shell.Program.Sorting

/-!
Programs that compare two ordered streams of lines: `comm` and `join`.
-/

namespace Groundwork.Shell.Program.Merging

open Sorting (compareBytes)

/-- Whether the order of lines is checked: always, never, or once lines differ. -/
inductive Check where
  | always
  | never
  | late
deriving DecidableEq

/-- How a check is asked for. -/
def checkOf (options : GivenOptions) : Check :=
  match (options.filter fun option =>
      option.1 == "check-order" || option.1 == "nocheck-order").getLast? with
  | some ("check-order", _) => .always
  | some _ => .never
  | none => .late

/-! ## Common lines -/

/-- Two streams of lines that are compared, with the lines read last of each. -/
structure Pair where
  left : List (List UInt8)
  right : List (List UInt8)
  leftPast : List (List UInt8) := []
  rightPast : List (List UInt8) := []

/-- Whether the last two lines of a stream that were read are in disorder. -/
def disordered (past : List (List UInt8)) (rest : List (List UInt8)) : Bool :=
  match rest, past with
  | line :: _, before :: _ => compareBytes before line == .gt
  | [], last :: before :: _ => compareBytes before last == .gt
  | _, _ => false

/-- What is written of each line: a column, and the line. The flags tell which files were found to
be in disorder; `fuel` bounds the lines. -/
def commonLines (check : Check) (fuel : Nat) (pair : Pair) (differ first second : Bool)
    : List (Nat × List UInt8) × Bool × Bool :=
  match fuel with
  | 0 => ([], first, second)
  | fuel + 1 =>
      let go (column : Nat) (line : List UInt8) (next : Pair) (stepsLeft stepsRight : Bool) :=
        let differ := differ || column != 3
        let checks := check == .always || (check == .late && differ)
        let first := first || (checks && stepsLeft && disordered next.leftPast next.left)
        let second := second || (checks && stepsRight && disordered next.rightPast next.right)
        let (rest, first, second) := commonLines check fuel next differ first second
        ((column, line) :: rest, first, second)
      let stepLeft (pair : Pair) : Pair :=
        { pair with left := pair.left.tail, leftPast := pair.left.take 1 ++ pair.leftPast.take 1 }
      let stepRight (pair : Pair) : Pair :=
        { pair with
          right := pair.right.tail
          rightPast := pair.right.take 1 ++ pair.rightPast.take 1 }
      match pair.left, pair.right with
      | [], [] => ([], first, second)
      | a :: _, [] => go 1 a (stepLeft pair) true false
      | [], b :: _ => go 2 b (stepRight pair) false true
      | a :: _, b :: _ =>
          match compareBytes a b with
          | .lt => go 1 a (stepLeft pair) true false
          | .gt => go 2 b (stepRight pair) false true
          | .eq => go 3 b (stepRight (stepLeft pair)) true true

/-- Reads the lines of two files. -/
def readTwo (mark : UInt8) (first second : String)
    : Action (Except String (List (List UInt8) × List (List UInt8))) := do
  let mut found : List (List (List UInt8)) := []
  for file in [first, second] do
    match ← operandContent file with
    | .ok content => found := found ++ [(splitLines mark content).1]
    | .error fault => return .error s!"{file}: {reason fault}"
  return .ok (found.headD [], (found.drop 1).headD [])

/-- Complains about a number of operands that is not two. -/
def wrongCount (operands : List String) : Action Nat :=
  match operands with
  | [] => misuse 1 "missing operand"
  | [only] => misuse 1 s!"missing operand after {quote only}"
  | _ => misuse 1 ("extra operand " ++ quote (operands.getD 2 ""))

/-! ## Joined lines -/

/-- A field of joined lines: the one they have in common, or one of a file. -/
inductive Field where
  | common
  | of (second : Bool) (index : Nat)

/-- How lines are joined. -/
structure JoinPlan where
  leftKey : Nat
  rightKey : Nat
  mark : Option UInt8
  folded : Bool
  /-- Whether lines are shown that have no partner, and those that have one. -/
  loneLeft : Bool
  loneRight : Bool
  paired : Bool
  filler : List UInt8
  /-- The fields that are shown, if others than all. -/
  fields : Option (List Field)

/-- The fields of a line. -/
def fieldsOf (mark : Option UInt8) (line : List UInt8) : List (List UInt8) :=
  match mark with
  | some mark => split (· == mark) line
  | none => (split Sorting.isBlank line).filter (!·.isEmpty)
where
  split (separates : UInt8 → Bool) (line : List UInt8) : List (List UInt8) :=
    let (field, fields) := line.foldr (fun b (field, fields) =>
      if separates b then ([], field :: fields) else (b :: field, fields))
      (([] : List UInt8), ([] : List (List UInt8)))
    field :: fields

/-- The key of a line. -/
def keyOf (plan : JoinPlan) (second : Bool) (fields : List (List UInt8)) : List UInt8 :=
  let key := fields.getD (if second then plan.rightKey else plan.leftKey) []
  if plan.folded then key.map fun b => if 65 ≤ b && b ≤ 90 then b + 32 else b else key

/-- How two lines are shown together, of which one may be missing. -/
def joinedLine (plan : JoinPlan) (left right : Option (List (List UInt8))) : List UInt8 :=
  let filled (field : Option (List UInt8)) : List UInt8 :=
    match field with
    | some [] | none => plan.filler
    | some field => field
  let common := match left, right with
    | some left, _ => left[plan.leftKey]?
    | none, some right => right[plan.rightKey]?
    | none, none => none
  let fields := match plan.fields with
    | some fields => fields.map fun
        | .common => filled common
        | .of second index => filled ((if second then right else left).bind (·[index]?))
    | none =>
        let others (key : Nat) (fields : Option (List (List UInt8))) : List (List UInt8) :=
          ((fields.getD []).zipIdx.filter fun field => field.2 != key).map fun field =>
            filled (some field.1)
        filled common :: (others plan.leftKey left ++ others plan.rightKey right)
  List.intercalate [plan.mark.getD 32] fields

/-- Joins lines; `fuel` bounds them. -/
def pairLines (plan : JoinPlan) (fuel : Nat) (left right : List (List (List UInt8)))
    : List (List UInt8) :=
  match fuel with
  | 0 => []
  | fuel + 1 =>
      let lone (shown : Bool) (line : List UInt8) (rest : List (List UInt8)) : List (List UInt8) :=
        if shown then line :: rest else rest
      match left, right with
      | [], [] => []
      | a :: left, [] =>
          lone plan.loneLeft (joinedLine plan (some a) none) (pairLines plan fuel left [])
      | [], b :: right =>
          lone plan.loneRight (joinedLine plan none (some b)) (pairLines plan fuel [] right)
      | a :: left, b :: right =>
          match compareBytes (keyOf plan false a) (keyOf plan true b) with
          | .lt =>
              lone plan.loneLeft (joinedLine plan (some a) none)
                (pairLines plan fuel left (b :: right))
          | .gt =>
              lone plan.loneRight (joinedLine plan none (some b))
                (pairLines plan fuel (a :: left) right)
          | .eq =>
              let key := keyOf plan false a
              let lefts := a :: left.takeWhile (keyOf plan false · == key)
              let rights := b :: right.takeWhile (keyOf plan true · == key)
              let shown := if plan.paired then
                  lefts.flatMap fun a => rights.map fun b => joinedLine plan (some a) (some b)
                else []
              shown ++ pairLines plan fuel (left.drop (lefts.length - 1))
                (right.drop (rights.length - 1))

/-- Whether all lines have a partner. -/
def allPaired (plan : JoinPlan) (left right : List (List (List UInt8))) : Bool :=
  left.all (fun a => right.any (keyOf plan true · == keyOf plan false a)) &&
    right.all (fun b => left.any (keyOf plan false · == keyOf plan true b))

/-- The number of the first line whose key comes before that of the one above it. -/
def disorder? (plan : JoinPlan) (second : Bool) (number : Nat)
    : List (List (List UInt8)) → Option Nat
  | a :: b :: rest =>
      if compareBytes (keyOf plan second a) (keyOf plan second b) == .gt then some (number + 1)
      else disorder? plan second (number + 1) (b :: rest)
  | _ => none

/-- Reads the number of a field. -/
def readFieldNumber (text : String) : Except String Nat :=
  match text.toNat? with
  | some (n + 1) => .ok n
  | _ => .error s!"invalid field number: {quote text}"

/-- Reads which fields are shown. -/
def readFields (text : String) : Except String (List Field) :=
  let parts := (text.toList.map fun c => if c == ' ' || c == '\t' then ',' else c)
  ((Text.splitOn ',' parts).filter (!·.isEmpty)).mapM fun part =>
    match part with
    | ['0'] => .ok .common
    | '1' :: '.' :: rest => (readFieldNumber (String.ofList rest)).map (.of false)
    | '2' :: '.' :: rest => (readFieldNumber (String.ofList rest)).map (.of true)
    | part =>
        if part.head?.any fun c => c == '0' || c == '1' || c == '2' then
          .error s!"invalid field specifier: {quote (String.ofList part)}"
        else .error s!"invalid file number in field spec: {quote (String.ofList part)}"

/-- How lines are joined, as options say. -/
def joinPlan (options : GivenOptions) : Except String JoinPlan := do
  let field (names : List String) : Except String Nat :=
    match options.last? names with
    | some text => readFieldNumber text
    | none => .ok 0
  let leftKey ← field ["1", "j"]
  let rightKey ← field ["2", "j"]
  let asked (name file : String) : Bool := options.contains (name, file)
  for (name, file) in options do
    if (name == "a" || name == "v") && file != "1" && file != "2" then
      throw s!"invalid file number: {quote file}"
  let mark ← match options.last? ["t"] with
    | none => pure none
    | some text => match text.toUTF8.data.toList with
      | [] => pure (some 10)
      | [b] => pure (some b)
      | [92, 48] => pure (some 0)
      | _ => throw s!"multi-character tab {quote text}"
  let spelled := (options.filter (·.1 == "o")).map (·.2)
  let fields ← if spelled.isEmpty || spelled == ["auto"] then pure none
    else do pure (some (← readFields (",".intercalate spelled)))
  return {
    leftKey, rightKey, mark, fields
    folded := options.has ["i", "ignore-case"]
    loneLeft := asked "a" "1" || asked "v" "1"
    loneRight := asked "a" "2" || asked "v" "2"
    paired := !options.has ["v"]
    filler := ((options.last? ["e"]).getD "").toUTF8.data.toList }

end Merging

open Merging in
/-- Shows lines that two files have in common, and those that they do not. -/
def comm : Program := fun _ arguments =>
  withOptions 1
    { letters := "123z"
      long := ["check-order", "nocheck-order", "output-delimiter=", "total", "zero-terminated"] }
    arguments fun options operands => do
      match operands with
      | [first, second] =>
          let mark : UInt8 := if options.has ["z", "zero-terminated"] then 0 else 10
          match ← readTwo mark first second with
          | .error message =>
              report message
              return 1
          | .ok (left, right) =>
              let (lines, one, two) :=
                commonLines (checkOf options) (left.length + right.length + 1)
                  { left, right } false false false
              let hidden (column : Nat) : Bool := options.has [toString column]
              let gap := ((options.last? ["output-delimiter"]).getD "\t").toUTF8.data.toList
              let lead (column : Nat) : List UInt8 :=
                (if 1 < column && !hidden 1 then gap else []) ++
                  (if 2 < column && !hidden 2 then gap else [])
              emit (ofBytes (lines.flatMap fun (column, line) =>
                if hidden column then [] else lead column ++ line ++ [mark]))
              if options.has ["total"] then
                let count (column : Nat) : String := toString (lines.countP (·.1 == column))
                let gap := bytesText gap
                say 1 s!"{count 1}{gap}{count 2}{gap}{count 3}{gap}total\n"
              if one then report "file 1 is not in sorted order"
              if two then report "file 2 is not in sorted order"
              if one || two then
                if checkOf options != .always then report "input is not in sorted order"
                return 1
              else return 0
      | operands => wrongCount operands

open Merging in
/-- Joins lines of two files that have a field in common. -/
def join : Program := fun _ arguments =>
  withOptions 1
    { letters := "iz", marked := "12jtaveo"
      long := ["ignore-case", "check-order", "nocheck-order", "header", "zero-terminated"] }
    arguments fun options operands => do
      match operands with
      | [first, second] =>
          match joinPlan options with
          | .error message =>
              report message
              return 1
          | .ok plan =>
              let mark : UInt8 := if options.has ["z", "zero-terminated"] then 0 else 10
              match ← readTwo mark first second with
              | .error message =>
                  report message
                  return 1
              | .ok (left, right) => run options plan mark (first, left) (second, right)
      | operands => wrongCount operands
where
  run (options : GivenOptions) (plan : JoinPlan) (mark : UInt8)
      (first second : String × List (List UInt8)) : Action Nat := do
    let left := first.2.map (fieldsOf plan.mark)
    let right := second.2.map (fieldsOf plan.mark)
    let titled := options.has ["header"]
    let heading := if titled then
        match left.head?, right.head? with
        | none, none => []
        | a, b => [joinedLine plan a b]
      else []
    let left := if titled then left.drop 1 else left
    let right := if titled then right.drop 1 else right
    let lines := heading ++ pairLines plan (left.length + right.length + 1) left right
    emit (ofBytes (lines.flatMap (· ++ [mark])))
    let check := checkOf options
    let checks := check == .always || (check == .late && !allPaired plan left right)
    let start := if titled then 2 else 1
    let mut wrong := false
    for (file, lines, second) in [(first, left, false), (second, right, true)] do
      match if checks then disorder? plan second start lines else none with
      | none => pure ()
      | some number =>
          wrong := true
          report s!"{file.1}:{number}: is not sorted: {bytesText (file.2.getD (number - 1) [])}"
    if wrong then
      if check != .always then report "input is not in sorted order"
      return 1
    else return 0

end Groundwork.Shell.Program
