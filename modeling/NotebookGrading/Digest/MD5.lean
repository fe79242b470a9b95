/-
  The message digest MD5.

  The message is followed by a single one bit, by zero bits
  up to 56 bytes beyond a multiple of 64, and by its length
  in bits as eight bytes, the least first. Blocks of sixteen
  32-bit words are then mixed into a state of four words,
  whose bytes, the least first, are the digest.

  Key definitions include:
    * `MD5.padded`
    * `MD5.State`
    * `MD5.compress`
    * `MD5.digest`
    * `MD5.hexOfText`
-/

namespace NotebookGrading

namespace MD5

------------------------------------------------------------
-- Words And Bytes
------------------------------------------------------------

/- The lowest bytes of a number, the least first. -/
def littleEndian :
    Nat → Nat → List UInt8
  | 0, _ => []
  | count + 1, n =>
      UInt8.ofNat (n % 256) ::
        littleEndian count (n / 256)

/- The number whose bytes are given, the least first. -/
def ofLittleEndian
    (bytes : List UInt8) : Nat :=
  bytes.foldr (fun byte n => byte.toNat + 256 * n) 0

/- Consecutive parts of a given size. -/
def parts
    (size : Nat) :
    Nat → List UInt8 → List (List UInt8)
  | 0, _ => []
  | fuel + 1, bytes =>
      if bytes.isEmpty then
        []
      else
        bytes.take size :: parts size fuel (bytes.drop size)

/- The bytes in consecutive parts of a given size. -/
def chunks
    (size : Nat)
    (bytes : List UInt8) : List (List UInt8) :=
  parts size bytes.length bytes

/- The message with its padding and its length. -/
def padded
    (message : List UInt8) : List UInt8 :=
  let zeros := (119 - message.length % 64) % 64
  message ++ 0x80 :: List.replicate zeros 0 ++
    littleEndian 8 (8 * message.length)

/- The words of a block. -/
def words
    (block : List UInt8) : Array UInt32 :=
  ((chunks 4 block).map (fun bytes =>
    UInt32.ofNat (ofLittleEndian bytes))).toArray

------------------------------------------------------------
-- Constants
------------------------------------------------------------

/- The binary fractions of the sines of 1 to 64. -/
def sines : Array UInt32 :=
  #[0xd76aa478, 0xe8c7b756, 0x242070db, 0xc1bdceee,
    0xf57c0faf, 0x4787c62a, 0xa8304613, 0xfd469501,
    0x698098d8, 0x8b44f7af, 0xffff5bb1, 0x895cd7be,
    0x6b901122, 0xfd987193, 0xa679438e, 0x49b40821,
    0xf61e2562, 0xc040b340, 0x265e5a51, 0xe9b6c7aa,
    0xd62f105d, 0x02441453, 0xd8a1e681, 0xe7d3fbc8,
    0x21e1cde6, 0xc33707d6, 0xf4d50d87, 0x455a14ed,
    0xa9e3e905, 0xfcefa3f8, 0x676f02d9, 0x8d2a4c8a,
    0xfffa3942, 0x8771f681, 0x6d9d6122, 0xfde5380c,
    0xa4beea44, 0x4bdecfa9, 0xf6bb4b60, 0xbebfbc70,
    0x289b7ec6, 0xeaa127fa, 0xd4ef3085, 0x04881d05,
    0xd9d4d039, 0xe6db99e5, 0x1fa27cf8, 0xc4ac5665,
    0xf4292244, 0x432aff97, 0xab9423a7, 0xfc93a039,
    0x655b59c3, 0x8f0ccc92, 0xffeff47d, 0x85845dd1,
    0x6fa87e4f, 0xfe2ce6e0, 0xa3014314, 0x4e0811a1,
    0xf7537e82, 0xbd3af235, 0x2ad7d2bb, 0xeb86d391]

/- The rotations of the four rounds. -/
def rotations : List (List Nat) :=
  [[7, 12, 17, 22], [5, 9, 14, 20],
   [4, 11, 16, 23], [6, 10, 15, 21]]

/- The rotation of a step. -/
def rotation
    (i : Nat) : Nat :=
  ((rotations.getD (i / 16) []).getD (i % 4) 0)

------------------------------------------------------------
-- Compression
------------------------------------------------------------

structure State where
  a : UInt32
  b : UInt32
  c : UInt32
  d : UInt32
deriving DecidableEq

def initial : State :=
  ⟨0x67452301, 0xefcdab89, 0x98badcfe, 0x10325476⟩

/- Rotate a word to the left by 1 to 31 bits. -/
def rotateLeft
    (word : UInt32)
    (count : Nat) : UInt32 :=
  (word <<< UInt32.ofNat count) |||
    (word >>> UInt32.ofNat (32 - count))

/- The mixing function of a step and its message word. -/
def mix
    (s : State)
    (i : Nat) : UInt32 × Nat :=
  match i / 16 with
  | 0 => ((s.b &&& s.c) ||| (~~~s.b &&& s.d), i % 16)
  | 1 =>
      ((s.d &&& s.b) ||| (~~~s.d &&& s.c),
        (5 * i + 1) % 16)
  | 2 => (s.b ^^^ s.c ^^^ s.d, (3 * i + 5) % 16)
  | _ => (s.c ^^^ (s.b ||| ~~~s.d), (7 * i) % 16)

/- One of the 64 steps. -/
def step
    (block : Array UInt32)
    (s : State)
    (i : Nat) : State :=
  let (mixed, index) := mix s i
  let sum :=
    s.a + mixed + sines.getD i 0 + block.getD index 0
  ⟨s.d, s.b + rotateLeft sum (rotation i), s.b, s.c⟩

/- Mix one block into a state. -/
def compress
    (s : State)
    (block : List UInt8) : State :=
  let block := words block
  let t := (List.range 64).foldl (step block) s
  ⟨s.a + t.a, s.b + t.b, s.c + t.c, s.d + t.d⟩

------------------------------------------------------------
-- Digests
------------------------------------------------------------

/- The sixteen bytes of the digest. -/
def digest
    (message : List UInt8) : List UInt8 :=
  let s := (chunks 64 (padded message)).foldl
    compress initial
  [s.a, s.b, s.c, s.d].flatMap (fun word =>
    littleEndian 4 word.toNat)

/- The two hexadecimal digits of a byte. -/
def hexByte
    (byte : UInt8) : List Char :=
  [Nat.digitChar (byte.toNat / 16),
    Nat.digitChar (byte.toNat % 16)]

/- The digest of the UTF-8 bytes of a text, in hex. -/
def hexOfText
    (text : String) : String :=
  String.ofList
    ((digest text.toUTF8.data.toList).flatMap hexByte)

end MD5

end NotebookGrading
