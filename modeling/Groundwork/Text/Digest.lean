/-!
Short sums of bytes that tell contents apart: the sums of 128, 160 and 256 bits that work in blocks
of 64 bytes, and a cyclic sum of 32 bits.
-/

namespace Groundwork.Digest

/-- The bytes of a number, the lowest first. -/
def bytesOf (count number : Nat) : List UInt8 :=
  (List.range count).map fun i => UInt8.ofNat (number / Nat.pow 256 i)

/-- A content that fills blocks: a bit is set after it, and its length in bits stands at the end. -/
def padded (highFirst : Bool) (content : ByteArray) : ByteArray :=
  let length := bytesOf 8 (8 * content.size)
  let zeros := (64 - (content.size + 9) % 64) % 64
  content ++ ⟨((128 : UInt8) :: List.replicate zeros 0 ++
    (if highFirst then length.reverse else length)).toArray⟩

/-- The word of four bytes at a place. -/
def wordAt (highFirst : Bool) (bytes : ByteArray) (place : Nat) : UInt32 :=
  let b (i : Nat) : UInt32 := (bytes.get! (place + i)).toUInt32
  if highFirst then b 0 <<< 24 ||| b 1 <<< 16 ||| b 2 <<< 8 ||| b 3
  else b 3 <<< 24 ||| b 2 <<< 16 ||| b 1 <<< 8 ||| b 0

/-- The words of the block with a number. -/
def block (highFirst : Bool) (bytes : ByteArray) (number : Nat) : Array UInt32 :=
  (Array.range 16).map fun i => wordAt highFirst bytes (64 * number + 4 * i)

def rotateLeft (count : UInt32) (x : UInt32) : UInt32 := x <<< count ||| x >>> (32 - count)

def rotateRight (count : UInt32) (x : UInt32) : UInt32 := x >>> count ||| x <<< (32 - count)

/-- The bytes of words in hexadecimal digits. -/
def hexOf (highFirst : Bool) (words : List UInt32) : String :=
  let bytes := words.flatMap fun word =>
    let bytes := bytesOf 4 word.toNat
    if highFirst then bytes.reverse else bytes
  let digit (n : Nat) : Char := Nat.digitChar n
  String.ofList (bytes.flatMap fun b => [digit (b.toNat / 16), digit (b.toNat % 16)])

/-- The state after all blocks of a content, the words of which are added to those before. -/
def overBlocks (highFirst : Bool) (content : ByteArray) (start : Array UInt32)
    (round : Array UInt32 → Array UInt32 → Array UInt32) : Array UInt32 :=
  let bytes := padded highFirst content
  (List.range (bytes.size / 64)).foldl (fun state i =>
    state.zipWith (· + ·) (round (block highFirst bytes i) state)) start

/-! ## The sum of 128 bits -/

/-- By how much words are rotated, in turns of four. -/
def shifts128 : Array (Array UInt32) := #[#[7, 12, 17, 22], #[5, 9, 14, 20], #[4, 11, 16, 23],
  #[6, 10, 15, 21]]

/-- The numbers added in each step: the first 32 bits after the point of the sines of 1 to 64. -/
def sines : Array UInt32 := #[
  0xd76aa478, 0xe8c7b756, 0x242070db, 0xc1bdceee, 0xf57c0faf, 0x4787c62a, 0xa8304613, 0xfd469501,
  0x698098d8, 0x8b44f7af, 0xffff5bb1, 0x895cd7be, 0x6b901122, 0xfd987193, 0xa679438e, 0x49b40821,
  0xf61e2562, 0xc040b340, 0x265e5a51, 0xe9b6c7aa, 0xd62f105d, 0x02441453, 0xd8a1e681, 0xe7d3fbc8,
  0x21e1cde6, 0xc33707d6, 0xf4d50d87, 0x455a14ed, 0xa9e3e905, 0xfcefa3f8, 0x676f02d9, 0x8d2a4c8a,
  0xfffa3942, 0x8771f681, 0x6d9d6122, 0xfde5380c, 0xa4beea44, 0x4bdecfa9, 0xf6bb4b60, 0xbebfbc70,
  0x289b7ec6, 0xeaa127fa, 0xd4ef3085, 0x04881d05, 0xd9d4d039, 0xe6db99e5, 0x1fa27cf8, 0xc4ac5665,
  0xf4292244, 0x432aff97, 0xab9423a7, 0xfc93a039, 0x655b59c3, 0x8f0ccc92, 0xffeff47d, 0x85845dd1,
  0x6fa87e4f, 0xfe2ce6e0, 0xa3014314, 0x4e0811a1, 0xf7537e82, 0xbd3af235, 0x2ad7d2bb, 0xeb86d391]

/-- One block of the sum of 128 bits. -/
def round128 (words state : Array UInt32) : Array UInt32 :=
  (List.range 64).foldl (fun (state : Array UInt32) i =>
    let a := state[0]!
    let b := state[1]!
    let c := state[2]!
    let d := state[3]!
    let (mixed, index) : UInt32 × Nat :=
      match i / 16 with
      | 0 => (b &&& c ||| ~~~b &&& d, i)
      | 1 => (d &&& b ||| ~~~d &&& c, (5 * i + 1) % 16)
      | 2 => ((b ^^^ c) ^^^ d, (3 * i + 5) % 16)
      | _ => (c ^^^ (b ||| ~~~d), 7 * i % 16)
    let moved := rotateLeft ((shifts128[i / 16]!)[i % 4]!) (a + mixed + sines[i]! + words[index]!)
    #[d, b + moved, b, c]) state

/-- The sum of 128 bits. -/
def sum128 (content : ByteArray) : String :=
  hexOf false (overBlocks false content #[0x67452301, 0xefcdab89, 0x98badcfe, 0x10325476]
    round128).toList

/-! ## The sum of 160 bits -/

/-- The words of a block with those made from them. -/
def extend160 (words : Array UInt32) : Array UInt32 :=
  (List.range 64).foldl (fun (words : Array UInt32) i =>
    words.push (rotateLeft 1
      (words[i + 13]! ^^^ words[i + 8]! ^^^ words[i + 2]! ^^^ words[i]!))) words

/-- One block of the sum of 160 bits. -/
def round160 (words state : Array UInt32) : Array UInt32 :=
  let words := extend160 words
  (List.range 80).foldl (fun (state : Array UInt32) i =>
    let a := state[0]!
    let b := state[1]!
    let c := state[2]!
    let d := state[3]!
    let (mixed, constant) : UInt32 × UInt32 :=
      match i / 20 with
      | 0 => (b &&& c ||| ~~~b &&& d, 0x5a827999)
      | 1 => (b ^^^ c ^^^ d, 0x6ed9eba1)
      | 2 => (b &&& c ||| b &&& d ||| c &&& d, 0x8f1bbcdc)
      | _ => (b ^^^ c ^^^ d, 0xca62c1d6)
    #[rotateLeft 5 a + mixed + state[4]! + constant + words[i]!, a, rotateLeft 30 b, c, d]) state

/-- The sum of 160 bits. -/
def sum160 (content : ByteArray) : String :=
  hexOf true (overBlocks true content
    #[0x67452301, 0xefcdab89, 0x98badcfe, 0x10325476, 0xc3d2e1f0] round160).toList

/-! ## The sum of 256 bits -/

/-- The numbers added in each step: the first 32 bits after the point of the cube roots of
primes. -/
def cubeRoots : Array UInt32 := #[
  0x428a2f98, 0x71374491, 0xb5c0fbcf, 0xe9b5dba5, 0x3956c25b, 0x59f111f1, 0x923f82a4, 0xab1c5ed5,
  0xd807aa98, 0x12835b01, 0x243185be, 0x550c7dc3, 0x72be5d74, 0x80deb1fe, 0x9bdc06a7, 0xc19bf174,
  0xe49b69c1, 0xefbe4786, 0x0fc19dc6, 0x240ca1cc, 0x2de92c6f, 0x4a7484aa, 0x5cb0a9dc, 0x76f988da,
  0x983e5152, 0xa831c66d, 0xb00327c8, 0xbf597fc7, 0xc6e00bf3, 0xd5a79147, 0x06ca6351, 0x14292967,
  0x27b70a85, 0x2e1b2138, 0x4d2c6dfc, 0x53380d13, 0x650a7354, 0x766a0abb, 0x81c2c92e, 0x92722c85,
  0xa2bfe8a1, 0xa81a664b, 0xc24b8b70, 0xc76c51a3, 0xd192e819, 0xd6990624, 0xf40e3585, 0x106aa070,
  0x19a4c116, 0x1e376c08, 0x2748774c, 0x34b0bcb5, 0x391c0cb3, 0x4ed8aa4a, 0x5b9cca4f, 0x682e6ff3,
  0x748f82ee, 0x78a5636f, 0x84c87814, 0x8cc70208, 0x90befffa, 0xa4506ceb, 0xbef9a3f7, 0xc67178f2]

/-- The words of a block with those made from them. -/
def extend256 (words : Array UInt32) : Array UInt32 :=
  (List.range 48).foldl (fun (words : Array UInt32) i =>
    let x := words[i + 1]!
    let y := words[i + 14]!
    let low := rotateRight 7 x ^^^ rotateRight 18 x ^^^ x >>> 3
    let high := rotateRight 17 y ^^^ rotateRight 19 y ^^^ y >>> 10
    words.push (words[i]! + low + words[i + 9]! + high)) words

/-- One block of the sum of 256 bits. -/
def round256 (words state : Array UInt32) : Array UInt32 :=
  let words := extend256 words
  (List.range 64).foldl (fun (state : Array UInt32) i =>
    let a := state[0]!
    let b := state[1]!
    let c := state[2]!
    let e := state[4]!
    let high := rotateRight 6 e ^^^ rotateRight 11 e ^^^ rotateRight 25 e
    let chosen := e &&& state[5]! ^^^ ~~~e &&& state[6]!
    let first := state[7]! + high + chosen + cubeRoots[i]! + words[i]!
    let low := rotateRight 2 a ^^^ rotateRight 13 a ^^^ rotateRight 22 a
    let second := low + (a &&& b ^^^ a &&& c ^^^ b &&& c)
    #[first + second, a, b, c, state[3]! + first, e, state[5]!, state[6]!]) state

/-- The sum of 256 bits. -/
def sum256 (content : ByteArray) : String :=
  hexOf true (overBlocks true content #[0x6a09e667, 0xbb67ae85, 0x3c6ef372, 0xa54ff53a, 0x510e527f,
    0x9b05688c, 0x1f83d9ab, 0x5be0cd19] round256).toList

/-- The sum of 256 bits from another start, without its last word. -/
def sum224 (content : ByteArray) : String :=
  hexOf true ((overBlocks true content #[0xc1059ed8, 0x367cd507, 0x3070dd17, 0xf70e5939,
    0xffc00b31, 0x68581511, 0x64f98fa7, 0xbefa4fa4] round256).toList.take 7)

/-! ## The cyclic sum -/

/-- A cyclic sum with one more byte. -/
def addCyclic (sum : UInt32) (b : UInt8) : UInt32 :=
  (List.range 8).foldl (fun (sum : UInt32) _ =>
    if sum &&& 0x80000000 != 0 then sum <<< 1 ^^^ 0x04c11db7 else sum <<< 1)
    (sum ^^^ b.toUInt32 <<< 24)

/-- The cyclic sum of a content and of its length. -/
def cyclicSum (content : ByteArray) : Nat :=
  let length := (bytesOf 8 content.size).reverse.dropWhile (· == 0) |>.reverse
  (~~~(length.foldl addCyclic (content.data.foldl addCyclic 0))).toNat

end Groundwork.Digest
