import Std.Data.HashMap
import Groundwork.Shell.Program.Awk.Value

/-!
Tables of `awk`: values by keys, which are texts or whole numbers, and the order in which keys are
gone through. The order comes from two arrays of chains, one for the keys that were used as numbers
and one for those that were used as texts; what is used comes to the front of its chain.
-/

namespace Groundwork.Shell.Program.Awk

/-- A table. -/
structure Table where
  values : Std.HashMap ByteArray Value := {}
  /-- The keys were all set at once, and count from one up. -/
  fresh : Bool := false
  /-- Whether keys are chained as numbers and as texts. -/
  numbered : Bool := false
  named : Bool := false
  numbers : Array (List Int) := #[]
  texts : Array (List ByteArray) := #[]

namespace Table

/-- How many chains there are at first, and how many keys a chain has on average at most. -/
def startSize : Nat := 64
def chainLimit : Nat := 12

/-- The place of a text among chains. -/
def hashOf (key : ByteArray) : Nat :=
  (key.foldl (fun (h : UInt32) b => (h ^^^ b.toUInt32) * 16777619) 2166136261).toNat

def keyOf (n : Int) : ByteArray := (toString n).toUTF8

def size (table : Table) : Nat := table.values.size

/-- The number of a chain for a number. -/
def slotOf (chains : Nat) (n : Int) : Nat := (n % chains).toNat

/-- A chain with a key at its front. -/
def toFront {α : Type} [BEq α] (key : α) (chain : List α) : List α :=
  match chain with
  | [] => [key]
  | first :: _ => if first == key then chain else key :: chain.erase key

/-- A table with chains, if it has none yet. -/
def withChains (table : Table) : Table :=
  if table.numbers.isEmpty then
    { table with numbers := Array.replicate startSize [], texts := Array.replicate startSize [] }
  else table

/-- The number of chains for so many keys; `fuel` bounds how often it is doubled. -/
def chainsFor (fuel count chains : Nat) : Nat :=
  match fuel with
  | 0 => chains
  | fuel + 1 => if chains * chainLimit < count then chainsFor fuel count (2 * chains) else chains

/-- A table whose keys are chained, of which each one was set at once. -/
def unfold (table : Table) : Table :=
  if table.fresh then
    let count := table.size
    let chains := chainsFor 64 count startSize
    let numbers := (List.range count).foldl (fun (numbers : Array (List Int)) i =>
      numbers.modify ((i + 1) % chains) (((i + 1 : Nat) : Int) :: ·)) (Array.replicate chains [])
    { table with
      fresh := false
      numbered := true
      named := false
      numbers
      texts := Array.replicate chains [] }
  else table.withChains

/-- Chains the keys as texts that are chained as numbers only. -/
def nameAll (table : Table) : Table :=
  let table := table.unfold
  if table.named then table
  else
    let chains := table.numbers.size
    let texts := table.numbers.foldl (fun texts chain =>
      chain.foldl (fun (texts : Array (List ByteArray)) n =>
        let key := keyOf n
        texts.modify (hashOf key % chains) (key :: ·)) texts) table.texts
    { table with texts, named := true }

/-- Doubles the number of chains once there are too many keys; the keys of a chain keep their
order. -/
def grow (table : Table) : Table :=
  let chains := table.numbers.size
  if table.size < chains * chainLimit then table
  else
    let doubled := 2 * chains
    { table with
      numbers := (table.numbers ++ table.numbers).mapIdx fun i chain =>
        chain.filter fun n => slotOf doubled n == i
      texts := (table.texts ++ table.texts).mapIdx fun i chain =>
        chain.filter fun key => hashOf key % doubled == i }

/-- Uses a key as a text: it comes to the front, and is added if asked for. -/
def useText (table : Table) (key : ByteArray) (create : Bool) : Table :=
  let table := table.nameAll
  let known := table.values.contains key
  if known || create then
    let table := if known then table
      else { table.grow with values := table.values.insert key .unset }
    { table with texts := table.texts.modify (hashOf key % table.texts.size) (toFront key) }
  else table

/-- Uses a key as a number. -/
def useNumber (table : Table) (n : Int) (create : Bool) : Table :=
  let key := keyOf n
  let known := table.values.contains key
  if table.fresh && (known || !create) then table
  else
    let table := table.unfold
    let chained := (table.numbers.getD (slotOf table.numbers.size n) []).contains n
    let table :=
      if chained then table
      else if table.named then table.useText key create
      else if known || !create then table
      else { table.grow with values := table.values.insert key .unset }
    if known || create then
      { table with
        numbered := true
        numbers := table.numbers.modify (slotOf table.numbers.size n) (toFront n) }
    else table

/-- How a key is used. -/
inductive Key where
  | number (n : Int)
  | text (bytes : ByteArray)

/-- The bytes of a key. -/
def Key.bytes : Key → ByteArray
  | .number n => keyOf n
  | .text bytes => bytes

/-- Uses a key. Nothing is looked for in a table without keys. -/
def use (table : Table) (key : Key) (create : Bool) : Table :=
  if table.size == 0 && !create then table
  else
    match key with
    | .number n => table.useNumber n create
    | .text bytes => table.useText bytes create

/-- The value of a key. -/
def get (table : Table) (key : Key) : Value := (table.values.get? key.bytes).getD .unset

def contains (table : Table) (key : Key) : Bool := table.values.contains key.bytes

/-- Sets the value of a key that has been used. -/
def set (table : Table) (key : Key) (value : Value) : Table :=
  { table with values := table.values.insert key.bytes value }

/-- A table without a key. -/
def erase (table : Table) (key : Key) : Table :=
  if !table.contains key then table.use key false
  else
    let table := table.unfold.use key false
    let bytes := key.bytes
    let values := table.values.erase bytes
    if values.isEmpty then {}
    else
      { table with
        values
        texts := table.texts.modify (hashOf bytes % table.texts.size) (·.erase bytes)
        numbers := match (Text.decodeLossy bytes).toInt? with
          | some n => table.numbers.modify (slotOf table.numbers.size n) (·.erase n)
          | none => table.numbers }

/-- The keys in their order, and the table after they have all been used as texts. -/
def keys (table : Table) : List ByteArray × Table :=
  if table.size == 0 then ([], table)
  else
    let table := table.nameAll
    (table.texts.toList.flatten, table)

/-- A table of values that count from one up. -/
def ofList (values : List Value) : Table :=
  { values := values.zipIdx.foldl (fun (all : Std.HashMap ByteArray Value) (value, i) =>
      all.insert (keyOf (i + 1 : Nat)) value) {}
    fresh := true }

end Table

end Groundwork.Shell.Program.Awk
