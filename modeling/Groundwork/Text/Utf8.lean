/-!
Bytes that should be UTF-8. A text that is not is reported by its first fault, or read with a mark
in place of each faulty stretch.
-/

namespace Groundwork.Text

/-- The first fault of bytes that are not UTF-8: where it starts, and how many bytes it spans if
more bytes could not mend it. -/
structure Utf8Fault where
  position : Nat
  length : Option Nat
deriving Repr, DecidableEq

def Utf8Fault.message (fault : Utf8Fault) : String :=
  match fault.length with
  | some n => s!"invalid utf-8 sequence of {n} bytes from index {fault.position}"
  | none => s!"incomplete utf-8 byte sequence from index {fault.position}"

/-- What stands at the start of some bytes: a character and its length, a faulty stretch, or the
start of a character that the end of the bytes cuts short. -/
inductive Utf8Step where
  | char (c : Char) (length : Nat)
  | faulty (length : Nat)
  | cutShort
deriving Repr

def isContinuation (b : UInt8) : Bool := 0x80 ≤ b && b ≤ 0xBF

/-- The bytes that may follow the first byte of a character: the range of the second, and how many
come in all. -/
def utf8Follow (b : UInt8) : Option (UInt8 × UInt8 × Nat) :=
  if 0xC2 ≤ b && b ≤ 0xDF then some (0x80, 0xBF, 1)
  else if b == 0xE0 then some (0xA0, 0xBF, 2)
  else if b == 0xED then some (0x80, 0x9F, 2)
  else if 0xE1 ≤ b && b ≤ 0xEF then some (0x80, 0xBF, 2)
  else if b == 0xF0 then some (0x90, 0xBF, 3)
  else if 0xF1 ≤ b && b ≤ 0xF3 then some (0x80, 0xBF, 3)
  else if b == 0xF4 then some (0x80, 0x8F, 3)
  else none

def leadBits (b : UInt8) (follow : Nat) : Nat :=
  if follow == 1 then b.toNat % 32 else if follow == 2 then b.toNat % 16 else b.toNat % 8

def utf8Step (b : UInt8) (rest : List UInt8) : Utf8Step :=
  if b < 0x80 then .char (Char.ofNat b.toNat) 1
  else
    match utf8Follow b with
    | none => .faulty 1
    | some (low, high, follow) =>
        match rest with
        | [] => .cutShort
        | second :: rest =>
            if second < low || high < second then .faulty 1
            else
              let tail := rest.take (follow - 1)
              let good := tail.takeWhile isContinuation
              if good.length + 1 == follow then
                let point := (second :: good).foldl (fun n c => 64 * n + c.toNat % 64)
                  (leadBits b follow)
                .char (Char.ofNat point) (follow + 1)
              else if good.length == tail.length then .cutShort
              else .faulty (good.length + 2)

/-- The first fault; `skip` bytes belong to the character read last. -/
def utf8FaultFrom (position skip : Nat) : List UInt8 → Option Utf8Fault
  | [] => none
  | b :: rest =>
      match skip with
      | skip + 1 => utf8FaultFrom (position + 1) skip rest
      | 0 =>
          match utf8Step b rest with
          | .char _ length => utf8FaultFrom (position + 1) (length - 1) rest
          | .faulty length => some ⟨position, some length⟩
          | .cutShort => some ⟨position, none⟩

def utf8Fault? (bytes : ByteArray) : Option Utf8Fault := utf8FaultFrom 0 0 bytes.data.toList

/-- The mark that stands for a faulty stretch. -/
def faultMark : Char := '\ufffd'

def lossyFrom (skip : Nat) : List UInt8 → List Char
  | [] => []
  | b :: rest =>
      match skip with
      | skip + 1 => lossyFrom skip rest
      | 0 =>
          match utf8Step b rest with
          | .char c length => c :: lossyFrom (length - 1) rest
          | .faulty length => faultMark :: lossyFrom (length - 1) rest
          | .cutShort => [faultMark]

/-- The bytes as a text, with a mark for every faulty stretch. -/
def decodeLossy (bytes : ByteArray) : String :=
  match String.fromUTF8? bytes with
  | some text => text
  | none => String.ofList (lossyFrom 0 bytes.data.toList)

end Groundwork.Text
