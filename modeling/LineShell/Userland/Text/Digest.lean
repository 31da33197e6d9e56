import LineShell.Text.Bytes
/-!
    A digest of sixteen bytes, which shows nothing of the bytes that it is made from (MD5).

    The bytes are filled up to blocks of sixteen words, and every block stirs a state of four words
    in sixty-four steps. Words are written with their lowest byte first. -/

namespace LineShell

/-- Four words that blocks are stirred into. -/
structure Digest where
  a : UInt32
  b : UInt32
  c : UInt32
  d : UInt32
  deriving DecidableEq, Repr

namespace Digest

/-- The words before the first block. -/
def start : Digest := ⟨0x67452301, 0xefcdab89, 0x98badcfe, 0x10325476⟩

/-- What is added in every step: the fractions of the sines of 1, 2, 3 and so on. -/
def addends : Array UInt32 :=
  #[0xd76aa478, 0xe8c7b756, 0x242070db, 0xc1bdceee, 0xf57c0faf, 0x4787c62a,
   0xa8304613, 0xfd469501, 0x698098d8, 0x8b44f7af, 0xffff5bb1, 0x895cd7be,
   0x6b901122, 0xfd987193, 0xa679438e, 0x49b40821, 0xf61e2562, 0xc040b340,
   0x265e5a51, 0xe9b6c7aa, 0xd62f105d, 0x02441453, 0xd8a1e681, 0xe7d3fbc8,
   0x21e1cde6, 0xc33707d6, 0xf4d50d87, 0x455a14ed, 0xa9e3e905, 0xfcefa3f8,
   0x676f02d9, 0x8d2a4c8a, 0xfffa3942, 0x8771f681, 0x6d9d6122, 0xfde5380c,
   0xa4beea44, 0x4bdecfa9, 0xf6bb4b60, 0xbebfbc70, 0x289b7ec6, 0xeaa127fa,
   0xd4ef3085, 0x04881d05, 0xd9d4d039, 0xe6db99e5, 0x1fa27cf8, 0xc4ac5665,
   0xf4292244, 0x432aff97, 0xab9423a7, 0xfc93a039, 0x655b59c3, 0x8f0ccc92,
   0xffeff47d, 0x85845dd1, 0x6fa87e4f, 0xfe2ce6e0, 0xa3014314, 0x4e0811a1,
   0xf7537e82, 0xbd3af235, 0x2ad7d2bb, 0xeb86d391]

/-- How far words are turned in the steps of a round, which repeat after four. -/
def turns : Array (Array UInt32) :=
  #[#[7, 12, 17, 22], #[5, 9, 14, 20], #[4, 11, 16, 23], #[6, 10, 15, 21]]

/-- A word turned to the left, by less than its length and more than nothing. -/
def rotate (w places : UInt32) : UInt32 := (w <<< places) ||| (w >>> (32 - places))

/-- What a round makes of three words, and the word of the block that its step takes. -/
def mixed (s : Digest) (step : Nat) : UInt32 × Nat :=
  match step / 16 with
  | 0 => ((s.b &&& s.c) ||| (~~~s.b &&& s.d), step)
  | 1 => ((s.d &&& s.b) ||| (~~~s.d &&& s.c), (5 * step + 1) % 16)
  | 2 => (s.b ^^^ s.c ^^^ s.d, (3 * step + 5) % 16)
  | _ => (s.c ^^^ (s.b ||| ~~~s.d), 7 * step % 16)

/-- The words after one step with a block. -/
def stir (block : Array UInt32) (s : Digest) (step : Nat) : Digest :=
  let (word, place) := s.mixed step
  let sum := s.a + word + addends.getD step 0 + block.getD place 0
  ⟨s.d, s.b + rotate sum ((turns.getD (step / 16) #[]).getD (step % 4) 0), s.b, s.c⟩

/-- The words after a block, of which the words before it are a part. -/
def absorb (s : Digest) (block : Array UInt32) : Digest :=
  let t := (List.range 64).foldl (stir block) s
  ⟨s.a + t.a, s.b + t.b, s.c + t.c, s.d + t.d⟩

/-- So many bytes of a number, the lowest first. -/
def lowBytes : Nat → Nat → Bytes
  | 0, _ => []
  | count + 1, n => UInt8.ofNat (n % 256) :: lowBytes count (n / 256)

/-- The number that four bytes are, the lowest first. -/
def wordAt (bytes : Array UInt8) (place : Nat) : UInt32 :=
  let byte (i : Nat) : UInt32 := (bytes.getD (place + i) 0).toUInt32
  byte 0 ||| (byte 1 <<< 8) ||| (byte 2 <<< 16) ||| (byte 3 <<< 24)

/-- Bytes with a mark, zeros and their length in bits behind them, which fill blocks of 64. -/
def filled (bytes : Bytes) : Bytes :=
  let zeros := (119 - bytes.length % 64) % 64
  bytes ++ 0x80 :: List.replicate zeros 0 ++ lowBytes 8 (8 * bytes.length)

/-- The digest of some bytes. -/
def ofBytes (bytes : Bytes) : Digest :=
  let all := (filled bytes).toArray
  (List.range (all.size / 64)).foldl
    (fun s k => s.absorb ((Array.range 16).map fun i => wordAt all (64 * k + 4 * i))) start

/-- The sixteen bytes of a digest. -/
def toBytes (s : Digest) : Bytes :=
  [s.a, s.b, s.c, s.d].flatMap fun w => lowBytes 4 w.toNat

end Digest

end LineShell
