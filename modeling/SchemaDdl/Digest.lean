/-!
# The MD5 digest

Generated names end in the first digits of a digest of what they are derived from, so that the same
schema always gets the same names.

* **`md5`**: the digest of a list of bytes, as sixteen bytes.
* **`shortDigest`**: the first six hexadecimal digits of the digest of a text in UTF-8.

The message is padded to blocks of sixteen little-endian words; a block is folded into the four
words of the state in sixty-four rounds.
-/

namespace SchemaDdl.Digest

/-- The state between blocks. -/
structure State where
  a : UInt32
  b : UInt32
  c : UInt32
  d : UInt32

/-- State before the first block. -/
def initial : State := ⟨0x67452301, 0xefcdab89, 0x98badcfe, 0x10325476⟩

/-- Left rotation per round: four amounts for each group of sixteen rounds. -/
def rotations : List UInt32 := [
  7, 12, 17, 22, 7, 12, 17, 22, 7, 12, 17, 22, 7, 12, 17, 22,
  5, 9, 14, 20, 5, 9, 14, 20, 5, 9, 14, 20, 5, 9, 14, 20,
  4, 11, 16, 23, 4, 11, 16, 23, 4, 11, 16, 23, 4, 11, 16, 23,
  6, 10, 15, 21, 6, 10, 15, 21, 6, 10, 15, 21, 6, 10, 15, 21]

/-- Constant per round: the fractional part of the sine of the round's number. -/
def sines : List UInt32 := [
  0xd76aa478, 0xe8c7b756, 0x242070db, 0xc1bdceee, 0xf57c0faf, 0x4787c62a, 0xa8304613, 0xfd469501,
  0x698098d8, 0x8b44f7af, 0xffff5bb1, 0x895cd7be, 0x6b901122, 0xfd987193, 0xa679438e, 0x49b40821,
  0xf61e2562, 0xc040b340, 0x265e5a51, 0xe9b6c7aa, 0xd62f105d, 0x02441453, 0xd8a1e681, 0xe7d3fbc8,
  0x21e1cde6, 0xc33707d6, 0xf4d50d87, 0x455a14ed, 0xa9e3e905, 0xfcefa3f8, 0x676f02d9, 0x8d2a4c8a,
  0xfffa3942, 0x8771f681, 0x6d9d6122, 0xfde5380c, 0xa4beea44, 0x4bdecfa9, 0xf6bb4b60, 0xbebfbc70,
  0x289b7ec6, 0xeaa127fa, 0xd4ef3085, 0x04881d05, 0xd9d4d039, 0xe6db99e5, 0x1fa27cf8, 0xc4ac5665,
  0xf4292244, 0x432aff97, 0xab9423a7, 0xfc93a039, 0x655b59c3, 0x8f0ccc92, 0xffeff47d, 0x85845dd1,
  0x6fa87e4f, 0xfe2ce6e0, 0xa3014314, 0x4e0811a1, 0xf7537e82, 0xbd3af235, 0x2ad7d2bb, 0xeb86d391]

/-- Rotate a word to the left by less than its width. -/
def rotateLeft (x n : UInt32) : UInt32 := (x <<< n) ||| (x >>> (32 - n))

/-- What a round mixes in: a function of three state words, and the place in the block that it
    reads. Both change after every sixteen rounds. -/
def mix (round : Nat) (s : State) : UInt32 × Nat :=
  if round < 16 then ((s.b &&& s.c) ||| ((~~~ s.b) &&& s.d), round)
  else if round < 32 then ((s.d &&& s.b) ||| ((~~~ s.d) &&& s.c), (5 * round + 1) % 16)
  else if round < 48 then (s.b ^^^ s.c ^^^ s.d, (3 * round + 5) % 16)
  else (s.c ^^^ (s.b ||| (~~~ s.d)), (7 * round) % 16)

/-- One round on a block, given the round's rotation and constant. -/
def step (block : List UInt32) (s : State) (round : Nat) (rotation sine : UInt32) : State :=
  let (f, place) := mix round s
  let sum := f + s.a + sine + block.getD place 0
  ⟨s.d, s.b + rotateLeft sum rotation, s.b, s.c⟩

/-- The rounds from a given one on. -/
def roundsFrom (block : List UInt32) : Nat → State → List (UInt32 × UInt32) → State
  | _, s, [] => s
  | round, s, (rotation, sine) :: rest =>
    roundsFrom block (round + 1) (step block s round rotation sine) rest

/-- Fold one block of sixteen words into the state. -/
def absorb (s : State) (block : List UInt32) : State :=
  let t := roundsFrom block 0 s (rotations.zip sines)
  ⟨s.a + t.a, s.b + t.b, s.c + t.c, s.d + t.d⟩

/-- Little-endian bytes of a number, a given count of them. -/
def littleEndian : (count : Nat) → Nat → List UInt8
  | 0, _ => []
  | count + 1, n => UInt8.ofNat n :: littleEndian count (n / 256)

/-- The message followed by a one bit, zeros up to eight bytes short of a block, and its length in
    bits. -/
def padded (bytes : List UInt8) : List UInt8 :=
  bytes ++ 0x80 :: List.replicate ((119 - bytes.length % 64) % 64) 0
    ++ littleEndian 8 (8 * bytes.length)

/-- Four bytes at a time, lowest first, as words. -/
def wordsOf : List UInt8 → List UInt32
  | a :: b :: c :: d :: rest =>
    (a.toUInt32 ||| b.toUInt32 <<< 8 ||| c.toUInt32 <<< 16 ||| d.toUInt32 <<< 24) :: wordsOf rest
  | _ => []

/-- Sixteen words at a time. `filling` holds the block that is being filled, last word first. -/
def blocksFrom (filling : List UInt32) : List UInt32 → List (List UInt32)
  | [] => []
  | w :: ws =>
    if filling.length = 15 then (w :: filling).reverse :: blocksFrom [] ws
    else blocksFrom (w :: filling) ws

/-- The digest of a message, as sixteen bytes. -/
def md5 (bytes : List UInt8) : List UInt8 :=
  let s := (blocksFrom [] (wordsOf (padded bytes))).foldl absorb initial
  [s.a, s.b, s.c, s.d].flatMap fun w => littleEndian 4 w.toNat

/-- A hexadecimal digit, in lower case. -/
def hexDigit (n : Nat) : Char :=
  if n < 10 then Char.ofNat (48 + n) else Char.ofNat (87 + n)

/-- Two hexadecimal digits per byte. -/
def hex (bytes : List UInt8) : List Char :=
  bytes.flatMap fun b => [hexDigit (b.toNat / 16), hexDigit (b.toNat % 16)]

/-- The first six hexadecimal digits of the digest of a text. -/
def shortDigest (s : String) : String :=
  String.ofList ((hex (md5 (s.toList.flatMap String.utf8EncodeChar))).take 6)

end SchemaDdl.Digest
