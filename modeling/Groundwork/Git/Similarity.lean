import Groundwork.Git.Repository

/-!
How alike two files are: how much of the content of one is found in the other, chunk by chunk.
-/

namespace Groundwork.Git

/-- The score of files with the same content. -/
def fullScore : Nat := 60000

/-- The least score of a moved file. -/
def leastScore : Nat := 30000

/-- The most bytes of a chunk. -/
def chunkLimit : Nat := 64

/-- How much of a content is looked at to tell a text. -/
def sampleSize : Nat := 8000

/-- Whether a content looks like a text. -/
def isText (content : ByteArray) : Bool := !(content.data.toList.take sampleSize).contains 0

/-- A chunk as far as it is told from others. -/
structure ChunkHash where
  high : UInt32 := 0
  low : UInt32 := 0
  size : Nat := 0

namespace ChunkHash

/-- The number of hashes. -/
def base : UInt32 := 107927

/-- The chunk with one more byte. -/
def push (chunk : ChunkHash) (b : UInt8) : ChunkHash :=
  { high := ((chunk.high <<< 7) ^^^ (chunk.low >>> 25)) + b.toUInt32
    low := (chunk.low <<< 7) ^^^ (chunk.high >>> 25)
    size := chunk.size + 1 }

/-- The number by which a chunk is known. -/
def value (chunk : ChunkHash) : Nat := ((chunk.high + chunk.low * 97) % base).toNat

end ChunkHash

/-- Content in chunks: lines, cut where they are too long. Carriage returns at the ends of the lines
of a text do not count, and neither does what follows the last chunk that has an end. -/
def chunksFrom (text : Bool) (chunk : ChunkHash) : List UInt8 → List ChunkHash
  | [] => []
  | b :: rest =>
      if text && b == 13 && rest.head? == some 10 then chunksFrom text chunk rest
      else
        let chunk := chunk.push b
        if b == 10 || chunkLimit ≤ chunk.size then chunk :: chunksFrom text {} rest
        else chunksFrom text chunk rest

/-- How many bytes there are in each chunk that occurs. -/
def chunkSizes (content : ByteArray) : Dictionary Nat Nat :=
  (chunksFrom (isText content) {} content.data.toList).foldl (fun sizes chunk =>
    Dictionary.insert sizes chunk.value
      ((Dictionary.get? sizes chunk.value).getD 0 + chunk.size)) []

/-- How many bytes of one content are found in another. -/
def copiedBytes (source target : ByteArray) : Nat :=
  let sizes := chunkSizes target
  (chunkSizes source).foldr (fun (chunk, size) copied =>
    min size ((Dictionary.get? sizes chunk).getD 0) + copied) 0

/-- How alike two contents are. -/
def similarity (source target : ByteArray) : Nat :=
  let larger := max source.size target.size
  let smaller := min source.size target.size
  if larger * (fullScore - leastScore) < (larger - smaller) * fullScore then 0
  else if target.size == 0 then 0
  else copiedBytes source target * fullScore / larger

end Groundwork.Git
