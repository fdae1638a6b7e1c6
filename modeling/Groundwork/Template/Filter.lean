import Groundwork.Bits
import Groundwork.Template.Format
import Groundwork.Template.Test
import Groundwork.Template.Token
import Groundwork.Text.Lines
import Groundwork.Unicode.CaseMap
import Std.Data.TreeSet

/-!
The filters of templates, which make a value from a value and arguments.
-/

namespace Groundwork.Template.Filter

/-! ## Texts -/

/-- What stands for a character in markup. -/
def escapeChar (c : Char) : List Char :=
  match c with
  | '<' => "&lt;".toList
  | '>' => "&gt;".toList
  | '&' => "&amp;".toList
  | '"' => "&quot;".toList
  | '\'' => "&#x27;".toList
  | '/' => "&#x2f;".toList
  | c => [c]

def escapeText (text : String) : String := String.ofList (text.toList.flatMap escapeChar)

/-- The text of a value in markup. Safe texts stay, and numbers need no escapes. -/
def escaped (v : Value) : String :=
  match v with
  | .text s true => s
  | .undefined _ | .null | .bool _ | .int _ | .float _ => v.display
  | _ => escapeText v.display

def isPunctuation (c : Char) : Bool :=
  let n := c.toNat
  (0x21 ≤ n && n ≤ 0x2F) || (0x3A ≤ n && n ≤ 0x40) || (0x5B ≤ n && n ≤ 0x60) ||
    (0x7B ≤ n && n ≤ 0x7E)

/-- Starts every word with a capital; `starting` tells whether a word begins here. -/
def titleFrom (starting : Bool) : List Char → List Char
  | [] => []
  | c :: rest =>
      if isPunctuation c || Text.isBlank c then c :: titleFrom true rest
      else
        (if starting then Unicode.upperChar c else Unicode.lowerChar c) ++ titleFrom false rest

def capitalized : List Char → List Char
  | [] => []
  | c :: rest => Unicode.upperChar c ++ Unicode.lowerCase rest

/-- The text without the given characters at its ends. -/
def stripped (chars text : List Char) : List Char :=
  ((text.dropWhile chars.contains).reverse.dropWhile chars.contains).reverse

/-- The words of a text. -/
def words : Nat → List Char → List (List Char)
  | 0, _ => []
  | fuel + 1, text =>
      let text := Text.trimStart text
      if text.isEmpty then []
      else
        text.takeWhile (fun c => !Text.isBlank c) ::
          words fuel (text.dropWhile fun c => !Text.isBlank c)

/-- The words of a text in at most `limit` parts, the last with all that follows. Blanks after the
last word are a part of their own. -/
def wordParts : Nat → Nat → List Char → List (List Char)
  | 0, _, _ => []
  | fuel + 1, limit, text =>
      let words := Text.trimStart text
      let rest := words.dropWhile fun c => !Text.isBlank c
      if text.isEmpty then []
      else if words.isEmpty then [text]
      else if limit ≤ 1 || rest.isEmpty then [words]
      else words.takeWhile (fun c => !Text.isBlank c) :: wordParts fuel (limit - 1) rest

/-- The parts of a text between separators, at most `limit` of them; `skip` characters belong to the
separator found last. -/
def partsFrom (separator : List Char) (limit : Option Nat) (skip : Nat)
    : List Char → List (List Char)
  | [] => [[]]
  | c :: rest =>
      match skip with
      | skip + 1 => partsFrom separator limit skip rest
      | 0 =>
          if limit != some 1 && separator.isPrefixOf (c :: rest) then
            [] :: partsFrom separator (limit.map (· - 1)) (separator.length - 1) rest
          else
            match partsFrom separator limit 0 rest with
            | [] => [[c]]
            | part :: others => (c :: part) :: others

/-- The parts of a text between separators. An empty separator is found around every character. -/
def parts (separator : List Char) (limit : Option Nat) (text : List Char) : List (List Char) :=
  if limit == some 0 then []
  else if separator.isEmpty then
    let all := [] :: text.map ([·]) ++ [[]]
    match limit with
    | none => all
    | some n => if all.length ≤ n then all else all.take (n - 1) ++ [(all.drop (n - 1)).flatten]
  else partsFrom separator limit 0 text

def withoutLastNewline (text : List Char) : List Char :=
  let text := if text.getLast? == some '\n' then text.dropLast else text
  if text.getLast? == some '\r' then text.dropLast else text

/-- Moves the lines of a text to the right, the first and the blank ones only if asked for. -/
def indent (width : Nat) (first blank : Bool) (text : List Char) : List Char :=
  let margin := List.replicate width ' '
  let shift (line : List Char) : List Char :=
    if line.isEmpty then if blank then margin else [] else margin ++ line
  let lines := partsFrom ['\n'] none 0 (withoutLastNewline text)
  let moved :=
    if first then lines.map shift else lines.take 1 ++ (lines.drop 1).map shift
  withoutLastNewline (moved.flatMap (· ++ ['\n']))

/-! ## Numbers -/

/-- A whole number with an optional sign. -/
def whole? (text : List Char) : Option Int :=
  let value (digits : List Char) : Option Int :=
    if digits.all Char.isDigit then (Token.digitsValue? 10 digits).map Int.ofNat else none
  let n? :=
    match text with
    | '-' :: digits => (value digits).map (- ·)
    | '+' :: digits => value digits
    | digits => value digits
  n?.bind fun n => if Value.inRange n then some n else none

/-- A number with an optional sign, or one of the words for what is no number. -/
def fraction? (text : List Char) : Option Float :=
  let value (text : List Char) : Option Float :=
    match String.ofList (text.map Char.toLower) with
    | "inf" | "infinity" => some (1.0 / 0.0)
    | "nan" => some (0.0 / 0.0)
    | _ => Token.decimal? text
  match text with
  | '-' :: rest => (value rest).map fun x => -x
  | '+' :: rest => value rest
  | _ => value text

/-- The whole number nearest to a fraction towards zero, within the range of whole numbers. -/
def truncate (x : Float) : Int :=
  match Decimal.wholePart? x with
  | some n => Bits.clamp 128 n
  | none => if x.isNaN then 0 else if x < 0.0 then Bits.least 128 else Bits.greatest 128

def toWhole (v : Value) : Except TemplateFault Value :=
  match v with
  | .undefined _ | .null => .ok (.int 0)
  | .bool b => .ok (.int (if b then 1 else 0))
  | .int n => .ok (.int n)
  | .float x => .ok (.int (truncate x))
  | .text s _ =>
      match whole? s.toList, fraction? s.toList with
      | some n, _ => .ok (.int n)
      | none, some x => .ok (.int (truncate x))
      | none, none => TemplateFault.invalid "invalid float literal"
  | _ => Reading.refuse v

def toFraction (v : Value) : Except TemplateFault Value :=
  match v with
  | .undefined _ | .null => .ok (.float 0.0)
  | .text s _ =>
      match fraction? s.toList with
      | some x => .ok (.float x)
      | none => TemplateFault.invalid "invalid float literal"
  | _ =>
      match v.asFloat? true with
      | some x => .ok (.float x)
      | none => Reading.refuse v

/-- The product of the squares that the digits of an exponent call for. -/
def squares (fuel : Nat) (base product : Float) (exponent : Nat) : Float :=
  match fuel with
  | 0 => product
  | fuel + 1 =>
      let product := if exponent % 2 == 1 then product * base else product
      if exponent / 2 == 0 then product else squares fuel (base * base) product (exponent / 2)

/-- A power with a whole exponent, made by squaring. -/
def wholePower (base : Float) (exponent : Int) : Float :=
  let power := squares 64 base 1.0 exponent.natAbs
  if exponent < 0 then 1.0 / power else power

/-- Rounds to a number of places, halves away from zero. -/
def rounded (x : Float) (places : Int) : Float :=
  let scale := wholePower 10.0 places
  (scale * x).round / scale

/-! ## Sequences -/

/-- The members of a value, which must be defined. -/
def members (v : Value) : Except TemplateFault (List Value) :=
  match v with
  | .undefined false => TemplateFault.undefined
  | _ =>
      match v.members? with
      | some items => .ok items
      | none => TemplateFault.invalid s!"{v.kind.describe} is not iterable"

/-- The members of a value; one that has none is a fault of the operation. -/
def listed (v : Value) : Except TemplateFault (List Value) :=
  match members v with
  | .ok items => .ok items
  | .error _ => TemplateFault.invalid "cannot convert value to list"

/-- The order of two values, in which capitals count as small letters unless they matter. -/
def orderCase (caseMatters : Bool) (a b : Value) : Ordering :=
  match caseMatters, a, b with
  | false, .text s _, .text t _ =>
      compareOfLessAndEq (s.toList.map Char.toLower) (t.toList.map Char.toLower)
  | _, _, _ => Value.order a b

/-- The items in ascending order, or in descending order, equal ones as they were. -/
def sorted {α : Type} (descending : Bool) (order : α → α → Ordering) (items : List α) : List α :=
  items.mergeSort fun a b => (if descending then order b a else order a b) != .gt

def least? : List Value → Option Value
  | [] => none
  | v :: rest => some (rest.foldl (fun m v => if Value.order v m == .lt then v else m) v)

/-- The greatest value, the last of equal ones. -/
def greatest? : List Value → Option Value
  | [] => none
  | v :: rest => some (rest.foldl (fun m v => if Value.order v m == .lt then m else v) v)

def absent : Value := .undefined false

/-- The value at a path in another. -/
def reach (v : Value) (path : String) : Except TemplateFault Value :=
  v.path? (path.toList.splitOn '.' |>.map String.ofList)

/-- The value at a path in another, or a given one if it is not defined. -/
def atOr (v : Value) (path : String) (otherwise : Value) : Value :=
  match reach v path with
  | .ok found => if found.isUndefined then otherwise else found
  | .error _ => otherwise

/-- The order of two values by what stands at the first path where they differ. -/
def orderAt (caseMatters : Bool) : List String → Value → Value → Ordering
  | [], _, _ => .eq
  | path :: paths, a, b =>
      match reach a path, reach b path with
      | .ok x, .ok y =>
          match orderCase caseMatters x y with
          | .eq => orderAt caseMatters paths a b
          | different => different
      | _, _ => orderAt caseMatters paths a b

/-- The parts of a list, each but the last of `count` items. -/
def batches (count : Nat) : Nat → List Value → List (List Value)
  | 0, _ => []
  | fuel + 1, items =>
      if items.isEmpty then [] else items.take count :: batches count fuel (items.drop count)

/-- The list cut into `count` parts, the first ones longer by one where the items do not divide
evenly. -/
def slices (count : Nat) (fill : Option Value) (items : List Value) : List Value :=
  let size := items.length / count
  let longer := items.length % count
  (List.range count).map fun i =>
    let start := i * size + min i longer
    let length := if i < longer then size + 1 else size
    let part := (items.drop start).take length
    match fill with
    | some v => if longer ≤ i then Value.list (part ++ [v]) else Value.list part
    | none => Value.list part

/-- The items whose key was not seen before. -/
def distinct (key : Value → Value) (seen : Std.TreeSet Value Value.order)
    : List Value → List Value
  | [] => []
  | v :: rest =>
      let k := key v
      if seen.contains k then distinct key seen rest
      else v :: distinct key (seen.insert k) rest

/-- Runs of items whose keys are the same. -/
def runs (key : Value → Value) (same : Value → Value → Bool)
    : List Value → List (Value × List Value)
  | [] => []
  | v :: rest =>
      match runs key same rest with
      | (k, items) :: others =>
          if same (key v) k then (k, v :: items) :: others else (key v, [v]) :: (k, items) :: others
      | [] => [(key v, [v])]

/-- Lists of the first members of several sequences, the second, and so on. -/
def zipped : Nat → List (List Value) → List Value
  | 0, _ => []
  | fuel + 1, lists =>
      if lists.any List.isEmpty then []
      else Value.list (lists.map fun l => l.headD absent) :: zipped fuel (lists.map (List.drop 1))

/-- The texts of values with a joiner between them. -/
def joined (joiner : String) (items : List Value) : String :=
  joiner.intercalate (items.map Value.display)

def ofTextList (texts : List (List Char)) : List Value := texts.map Value.ofChars

/-! ## The filters -/

/-- A filter of one value that gives a text of its text. -/
def onText (f : List Char → List Char) : Take Value := do
  let text ← Take.one Reading.shown
  return Value.ofChars (f text.toList)

open Take (result)

def sortFilter : Take Value := do
  let v ← Take.value
  let named : NamedValues ← Take.named
  let items ← result (listed v)
  let caseMatters := (← result (named.get? "case_sensitive" Reading.bool)).getD false
  let paths := (← result (named.get? "attribute" Reading.text)).map fun paths =>
    (paths.toList.splitOn ',').map fun path => String.ofList (Text.trim path)
  let descending := (← result (named.get? "reverse" Reading.bool)).getD false
  result (named.only ["case_sensitive", "attribute", "reverse"])
  let order := match paths with
    | some paths => orderAt caseMatters paths
    | none => orderCase caseMatters
  return Value.list (sorted descending order items)

def dictionarySortFilter : Take Value := do
  let v ← Take.value
  let named : NamedValues ← Take.named
  match v with
  | .map entries _ =>
      let byValue := (← result (named.get? "by" Reading.text)) == some "value"
      let caseMatters := (← result (named.get? "case_sensitive" Reading.bool)).getD false
      let part (e : Value × Value) : Value := if byValue then e.2 else e.1
      let descending := (← result (named.get? "reverse" Reading.bool)).getD false
      result (named.only ["by", "case_sensitive", "reverse"])
      let order (a b : Value × Value) : Ordering := orderCase caseMatters (part a) (part b)
      return Value.list ((sorted descending order entries).map fun e => Value.list [e.1, e.2])
  | _ => Take.fail .invalidOperation "cannot convert value into pair list"

def uniqueFilter : Take Value := do
  let v ← Take.value
  let named : NamedValues ← Take.named
  let path ← result (named.get? "attribute" Reading.text)
  let caseMatters := (← result (named.get? "case_sensitive" Reading.bool)).getD false
  result (named.only ["case_sensitive", "attribute"])
  let items ← result (members v)
  let key (v : Value) : Value :=
    let found := match path with
      | some path => atOr v path absent
      | none => v
    match caseMatters, found with
    | false, .text s _ => Value.ofChars (Unicode.lowerCase s.toList)
    | _, _ => found
  return Value.list (distinct key ∅ items)

def groupFilter : Take Value := do
  let v ← Take.value
  let placed ←
    match ← get with
    | .map _ .arguments :: _ => pure none
    | _ => Take.optional Reading.text
  let named : NamedValues ← Take.named
  let otherwise := (← result (named.get? "default" Reading.whatever)).getD absent
  let caseMatters := (← result (named.get? "case_sensitive" Reading.bool)).getD false
  let path ←
    match placed with
    | some path => pure path
    | none =>
        match ← result (named.get? "attribute" Reading.text) with
        | some path => pure path
        | none => Take.fail .missingArgument ""
  match v.members? with
  | none => Take.fail .invalidOperation "value is not iterable"
  | some items =>
      let key (v : Value) : Value := atOr v path otherwise
      result (named.only ["default", "case_sensitive", "attribute"])
      let ordered := sorted false (fun a b => orderCase caseMatters (key a) (key b)) items
      let groups := runs key (fun a b => orderCase caseMatters a b == .eq) ordered
      return Value.list (groups.map fun g => Value.ofShape .group [g.1, Value.stream g.2])

/-- The value from its last member on. The keys of loops, routines and namespaces turn round; those
of other maps stay in their order. -/
def reversed (v : Value) : Except TemplateFault Value :=
  match v with
  | .undefined _ | .null => .ok v
  | .text s _ => .ok (Value.ofChars s.toList.reverse)
  | .sequence _ items => .ok (Value.stream items.reverse)
  | .map entries form =>
      let keys := entries.map (·.1)
      match form with
      | .loop .. | .routine .. | .space _ => .ok (Value.stream keys.reverse)
      | _ => .ok (Value.stream keys)
  | _ => TemplateFault.invalid s!"cannot reverse values of type {v.kind.describe}"

def firstOf (v : Value) : Except TemplateFault Value :=
  match v with
  | .text .. | .sequence .. | .map .. => .ok (((v.members?.getD [])[0]?).getD absent)
  | _ => TemplateFault.invalid "cannot get first item from value"

def lastOf (v : Value) : Except TemplateFault Value :=
  match v with
  | .text .. | .sequence .. => .ok ((v.members?.getD []).getLast?.getD absent)
  | _ => TemplateFault.invalid "cannot get last item from value"

/-- The sum of numbers; values that are not defined add nothing. -/
def sumOf (items : List Value) : Except TemplateFault Value :=
  items.foldlM (fun total v =>
    if v.isUndefined then .ok total
    else if v.kind == .number then Value.add total v
    else TemplateFault.invalid s!"can only sum numbers, got {v.kind.describe}") (.int 0)

/-- The fault of going through the members of a value that has none. -/
def notIterable (v : Value) : TemplateFault :=
  ⟨.invalidOperation, s!"{v.kind.describe} is not iterable"⟩

/-- Adds an entry to a map; a value that is not defined leaves that of its key as it is. -/
def layEntry (map : List (Value × Value)) (entry : Value × Value) : List (Value × Value) :=
  if entry.2.isUndefined && (Value.valueAt? map entry.1).isSome then map
  else Value.setEntry entry.1 entry.2 map

/-- Maps are laid over one another; sequences follow one another. What has no members stands among
them as a value that cannot be looked at. -/
def chained (all : List Value) : Value :=
  let entriesOf : Value → List (Value × Value)
    | .map entries _ => entries
    | _ => []
  if all.all fun v => v.kind == .map then Value.ofMap ((all.flatMap entriesOf).foldl layEntry [])
  else
    let items := all.flatMap fun v => v.members?.getD [.invalid (notIterable v)]
    if all.all fun v => v.kind == .list then Value.list items
    else Value.ofShape (.stream false) items

def zippedAll (all : List Value) : Except TemplateFault Value := do
  let lists ← all.mapM fun v =>
    match v.members? with
    | some items => .ok items
    | none => .error (notIterable v)
  return Value.ofShape (.stream (all.all Value.isCounted)) (zipped (lists.headD []).length lists)

def splitFilter : Take Value := do
  let text := (← Take.one Reading.text).toList
  let separator ← Take.optional Reading.text
  let limit ← Take.optional (Reading.signed 64)
  let limit : Option Nat := limit.bind fun n => if 0 ≤ n then some (n.toNat + 1) else none
  let found :=
    match separator, limit with
    | none, none => words (text.length + 1) text
    | none, some n => wordParts (text.length + 1) n text
    | some s, _ => parts s.toList limit text
  return Value.ofShape (.stream false) (ofTextList found)

def absolute (v : Value) : Except TemplateFault Value :=
  match v with
  | .int n => if 0 ≤ n then .ok v else Value.checked (-n)
  | .float x => .ok (.float x.abs)
  | _ => TemplateFault.invalid "cannot get absolute value"

/-- The filters that apply no others. -/
def simple? : String → Option (Take Value)
  | "safe" => some do return .text (← Take.one Reading.shown) true
  | "escape" | "e" => some do return .text (escaped (← Take.value)) true
  | "lower" => some (onText Unicode.lowerCase)
  | "upper" => some (onText Unicode.upperCase)
  | "title" => some (onText (titleFrom true))
  | "capitalize" => some (onText capitalized)
  | "replace" => some do
      let text ← Take.one Reading.shown
      let old ← Take.one Reading.shown
      let new ← Take.one Reading.shown
      return Value.ofChars (Text.replaceAll old.toList new.toList text.toList)
  | "length" | "count" => some do
      let v ← Take.value
      match v.length? with
      | some n => return .int n
      | none => Take.fail .invalidOperation "cannot calculate length of value"
  | "dictsort" => some dictionarySortFilter
  | "items" => some do
      match ← Take.value with
      | .map entries _ => return Value.stream (entries.map fun e => Value.list [e.1, e.2])
      | _ => Take.fail .invalidOperation "cannot convert value into pair list"
  | "reverse" => some do result (reversed (← Take.value))
  | "trim" => some do
      let text := (← Take.one Reading.shown).toList
      match ← Take.optional Reading.shown with
      | some chars => return Value.ofChars (stripped chars.toList text)
      | none => return Value.ofChars (Text.trim text)
  | "join" => some do
      let v ← Take.value
      let joiner ← Take.optional Reading.shown
      match v.members? with
      | some items => return Value.ofText (joined (joiner.getD "") items)
      | none => Take.fail .invalidOperation "cannot join value"
  | "split" => some splitFilter
  | "lines" => some do
      let text ← Take.one Reading.text
      return Value.list (ofTextList (Text.lines text.toList))
  | "default" | "d" => some do
      let v ← Take.value
      let other ← Take.optional Reading.whatever
      let lax ← Take.optional Reading.bool
      if v.isUndefined || (lax.getD false && !v.isTrue) then return other.getD (.ofText "")
      else return v
  | "round" => some do
      let v ← Take.value
      let places ← Take.optional (Reading.signed 32)
      match v with
      | .int n => return .int n
      | .float x => return .float (rounded x (places.getD 0))
      | _ => Take.fail .invalidOperation "cannot round value"
  | "abs" => some do result (absolute (← Take.value))
  | "int" => some do result (toWhole (← Take.value))
  | "float" => some do result (toFraction (← Take.value))
  | "attr" => some do
      let v ← Take.value
      let key ← Take.value
      if v.isUndefined then Take.fail .undefined "" else return (v.item? key).getD absent
  | "first" => some do result (firstOf (← Take.value))
  | "last" => some do result (lastOf (← Take.value))
  | "min" => some do return (least? (← result (listed (← Take.value)))).getD absent
  | "max" => some do return (greatest? (← result (listed (← Take.value)))).getD absent
  | "sort" => some sortFilter
  | "unique" => some uniqueFilter
  | "list" => some do return Value.list (← result (listed (← Take.value)))
  | "string" => some do
      match ← Take.value with
      | .text s safe => return .text s safe
      | v => return Value.ofText v.display
  | "bool" => some do return .bool (← Take.value).isTrue
  | "batch" => some do
      let v ← Take.value
      let count ← Take.one Reading.count
      let fill ← Take.optional Reading.whatever
      if count == 0 then Take.fail .invalidOperation "count cannot be 0"
      let items ← result (members v)
      let filled (batch : List Value) : List Value :=
        match fill with
        | some f => batch ++ List.replicate (count - batch.length) f
        | none => batch
      return Value.list ((batches count items.length items).map fun b => Value.list (filled b))
  | "slice" => some do
      let v ← Take.value
      let count ← Take.one Reading.count
      let fill ← Take.optional Reading.whatever
      if count == 0 then Take.fail .invalidOperation "count cannot be 0"
      return Value.list (slices count fill (← result (members v)))
  | "sum" => some do result (sumOf (← result (members (← Take.value))))
  | "indent" => some do
      let text ← Take.one Reading.shown
      let width ← Take.one Reading.count
      let first ← Take.optional Reading.bool
      let blank ← Take.optional Reading.bool
      return Value.ofChars (indent width (first.getD false) (blank.getD false) text.toList)
  | "groupby" => some groupFilter
  | "chain" => some do
      let v ← Take.value
      return chained (v :: (← Take.rest))
  | "zip" => some do
      let v ← Take.value
      result (zippedAll (v :: (← Take.rest)))
  | "format" => some do
      let text ← Take.one Reading.shown
      result ((Format.format text (← Take.rest)).map Value.ofText)
  | "pprint" => some do return Value.ofText (← Take.value).pretty
  | _ => none

/-- The names of all filters, in their order. -/
def names : List String :=
  ["abs", "attr", "batch", "bool", "capitalize", "chain", "count", "d", "default", "dictsort",
    "e", "escape", "first", "float", "format", "groupby", "indent", "int", "items", "join", "last",
    "length", "lines", "list", "lower", "map", "max", "min", "pprint", "reject", "rejectattr",
    "replace", "reverse", "round", "safe", "select", "selectattr", "slice", "sort", "split",
    "string", "sum", "title", "trim", "unique", "upper", "zip"]

/-- The members that pass a test, or those that do not; `path` leads to what is tested. -/
def selection (byPath wanted : Bool) : Take Value := do
  let v ← Take.value
  let path ← if byPath then some <$> Take.one Reading.shown else pure none
  let test ← Take.optional Reading.shown
  let arguments ← Take.rest
  match test with
  | some name =>
      if (Test.take? names name).isNone then Take.fail .unknownTest ""
  | none => pure ()
  let passes (item : Value) : Except TemplateFault Bool := do
    let tested ←
      match path with
      | some p => reach item p
      | none => pure item
    match test with
    | some name => Test.apply names name (tested :: arguments)
    | none => return tested.isTrue
  let items ← result (members v)
  let kept ← result (items.filterM fun item => do return (← passes item) == wanted)
  return Value.list kept

/-- The members replaced by what stands at a path or key in them. -/
def mapAttribute (items : List Value) (key otherwise : Value) : Except TemplateFault (List Value) :=
  items.mapM fun item =>
    let found : Except TemplateFault Value :=
      match key with
      | .text path _ => reach item path
      | _ =>
          if item.isUndefined then TemplateFault.undefined
          else .ok ((item.item? key).getD absent)
    match found with
    | .ok v => .ok (if v.isUndefined then otherwise else v)
    | .error fault => if otherwise.isUndefined then .error fault else .ok otherwise

/-- Splits named arguments off at the end. -/
def splitNamed (arguments : List Value) : List Value × NamedValues :=
  match arguments.getLast? with
  | some (.map entries .arguments) => (arguments.dropLast, entries)
  | _ => (arguments, [])

/-- Applies a filter to a value and arguments. A filter that applies another passes it fewer
arguments than it has, so as many rounds as there are arguments are enough. -/
def applyWithin : Nat → String → List Value → Except TemplateFault Value
  | 0, _, _ => .error ⟨.missingArgument, ""⟩
  | fuel + 1, name, arguments =>
      match name, arguments with
      | "select", _ => (selection false true).run arguments
      | "reject", _ => (selection false false).run arguments
      | "selectattr", _ => (selection true true).run arguments
      | "rejectattr", _ => (selection true false).run arguments
      | "map", [] => .error ⟨.missingArgument, ""⟩
      | "map", v :: rest => do
          let (placed, named) := splitNamed rest
          match ← named.get? "attribute" Reading.whatever with
          | some key =>
              if !placed.isEmpty then throw ⟨.tooManyArguments, ""⟩
              let otherwise := (Value.valueAt? named (.ofText "default")).getD absent
              named.only ["attribute", "default"]
              return Value.list (← mapAttribute (← members v) key otherwise)
          | none =>
              match placed with
              | [] => TemplateFault.invalid "filter name is required"
              | .text inner _ :: others =>
                  if !names.contains inner then throw ⟨.unknownFilter, ""⟩
                  let items ← members v
                  let found ← items.mapM fun item => applyWithin fuel inner (item :: others)
                  return Value.list found
              | _ => TemplateFault.invalid "filter name must be a string"
      | _, _ =>
          match simple? name with
          | some take => take.run arguments
          | none => .error ⟨.unknownFilter, s!"filter {name} is unknown"⟩

/-- Applies a filter to a value and arguments. -/
def apply (name : String) (arguments : List Value) : Except TemplateFault Value :=
  applyWithin (arguments.length + 1) name arguments

end Groundwork.Template.Filter
