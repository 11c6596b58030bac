/-!
# The MD5 message digest

A message is padded to whole blocks of 64 bytes.  Each block is folded into a state of four
32-bit words in 64 steps, and the state after the last block is read out byte by byte, the low
byte of each word first.
-/

set_option autoImplicit false

namespace CodeGraph.Digest

/-- The four words that a block is folded into. -/
structure State where
  a : UInt32
  b : UInt32
  c : UInt32
  d : UInt32

def State.initial : State :=
  ⟨0x67452301, 0xefcdab89, 0x98badcfe, 0x10325476⟩

/-- The constant of each step: the leading 32 bits of the fraction of `|sin (step + 1)|`. -/
def stepConstants : List UInt32 := [
  0xd76aa478, 0xe8c7b756, 0x242070db, 0xc1bdceee, 0xf57c0faf, 0x4787c62a, 0xa8304613, 0xfd469501,
  0x698098d8, 0x8b44f7af, 0xffff5bb1, 0x895cd7be, 0x6b901122, 0xfd987193, 0xa679438e, 0x49b40821,
  0xf61e2562, 0xc040b340, 0x265e5a51, 0xe9b6c7aa, 0xd62f105d, 0x02441453, 0xd8a1e681, 0xe7d3fbc8,
  0x21e1cde6, 0xc33707d6, 0xf4d50d87, 0x455a14ed, 0xa9e3e905, 0xfcefa3f8, 0x676f02d9, 0x8d2a4c8a,
  0xfffa3942, 0x8771f681, 0x6d9d6122, 0xfde5380c, 0xa4beea44, 0x4bdecfa9, 0xf6bb4b60, 0xbebfbc70,
  0x289b7ec6, 0xeaa127fa, 0xd4ef3085, 0x04881d05, 0xd9d4d039, 0xe6db99e5, 0x1fa27cf8, 0xc4ac5665,
  0xf4292244, 0x432aff97, 0xab9423a7, 0xfc93a039, 0x655b59c3, 0x8f0ccc92, 0xffeff47d, 0x85845dd1,
  0x6fa87e4f, 0xfe2ce6e0, 0xa3014314, 0x4e0811a1, 0xf7537e82, 0xbd3af235, 0x2ad7d2bb, 0xeb86d391]

/-- How far the four rounds of sixteen steps rotate, in turn within a round. -/
def rotations : List (List UInt32) :=
  [[7, 12, 17, 22], [5, 9, 14, 20], [4, 11, 16, 23], [6, 10, 15, 21]]

def rotationOf (step : Nat) : UInt32 :=
  (rotations.getD (step / 16) []).getD (step % 4) 0

def mix (step : Nat) (s : State) : UInt32 × Nat :=
  if step < 16 then ((s.b &&& s.c) ||| (~~~s.b &&& s.d), step)
  else if step < 32 then ((s.d &&& s.b) ||| (~~~s.d &&& s.c), (5 * step + 1) % 16)
  else if step < 48 then (s.b ^^^ s.c ^^^ s.d, (3 * step + 5) % 16)
  else (s.c ^^^ (s.b ||| ~~~s.d), (7 * step) % 16)

/-- Rotation to the left by less than 32 bits, and by more than none. -/
def rotateLeft (word amount : UInt32) : UInt32 :=
  (word <<< amount) ||| (word >>> (32 - amount))

def step (words : List UInt32) (s : State) (numbered : UInt32 × Nat) : State :=
  let (mixed, word) := mix numbered.2 s
  let sum := s.a + mixed + numbered.1 + words.getD word 0
  ⟨s.d, s.b + rotateLeft sum (rotationOf numbered.2), s.b, s.c⟩

def State.absorb (s : State) (words : List UInt32) : State :=
  let last := stepConstants.zipIdx.foldl (step words) s
  ⟨s.a + last.a, s.b + last.b, s.c + last.c, s.d + last.d⟩

/-- Reads bytes as words, the low byte first; an incomplete word at the end is left out. -/
def wordsOfBytes : List UInt8 → List UInt32
  | a :: b :: c :: d :: rest =>
      (a.toUInt32 ||| (b.toUInt32 <<< 8) ||| (c.toUInt32 <<< 16) ||| (d.toUInt32 <<< 24))
        :: wordsOfBytes rest
  | _ => []

def bytesOfWord (word : UInt32) : List UInt8 :=
  [word.toUInt8, (word >>> 8).toUInt8, (word >>> 16).toUInt8, (word >>> 24).toUInt8]

/-- The length of a message in bits, modulo 2^64, as eight bytes with the low one first. -/
def lengthBytes (length : Nat) : List UInt8 :=
  (List.range 8).map fun i => UInt8.ofNat ((8 * length) >>> (8 * i))

def padded (message : List UInt8) : List UInt8 :=
  message ++ 0x80 :: List.replicate ((119 - message.length % 64) % 64) 0
    ++ lengthBytes message.length

def absorbBlocks : Nat → State → List UInt32 → State
  | 0, s, _ => s
  | blocks + 1, s, words => absorbBlocks blocks (s.absorb (words.take 16)) (words.drop 16)

def State.bytes (s : State) : List UInt8 :=
  bytesOfWord s.a ++ bytesOfWord s.b ++ bytesOfWord s.c ++ bytesOfWord s.d

def md5 (message : List UInt8) : List UInt8 :=
  let words := wordsOfBytes (padded message)
  (absorbBlocks (words.length / 16) .initial words).bytes

/-- A digest has sixteen bytes. -/
theorem md5_length (message : List UInt8) : (md5 message).length = 16 := rfl

end CodeGraph.Digest
