import SipCodec.Hash.Block

/-! MD5 (RFC 1321): four 32-bit words of state, 64-octet blocks read as little-endian words,
and four rounds of sixteen steps per block. The step constants are the integer parts of
`2^32 * |sin (i + 1)|`. -/

namespace SipCodec.Hash.Md5

/-- The constants of the 64 steps. -/
def stepConstants : List UInt32 :=
  [0xd76aa478, 0xe8c7b756, 0x242070db, 0xc1bdceee, 0xf57c0faf, 0x4787c62a,
    0xa8304613, 0xfd469501, 0x698098d8, 0x8b44f7af, 0xffff5bb1, 0x895cd7be,
    0x6b901122, 0xfd987193, 0xa679438e, 0x49b40821, 0xf61e2562, 0xc040b340,
    0x265e5a51, 0xe9b6c7aa, 0xd62f105d, 0x02441453, 0xd8a1e681, 0xe7d3fbc8,
    0x21e1cde6, 0xc33707d6, 0xf4d50d87, 0x455a14ed, 0xa9e3e905, 0xfcefa3f8,
    0x676f02d9, 0x8d2a4c8a, 0xfffa3942, 0x8771f681, 0x6d9d6122, 0xfde5380c,
    0xa4beea44, 0x4bdecfa9, 0xf6bb4b60, 0xbebfbc70, 0x289b7ec6, 0xeaa127fa,
    0xd4ef3085, 0x04881d05, 0xd9d4d039, 0xe6db99e5, 0x1fa27cf8, 0xc4ac5665,
    0xf4292244, 0x432aff97, 0xab9423a7, 0xfc93a039, 0x655b59c3, 0x8f0ccc92,
    0xffeff47d, 0x85845dd1, 0x6fa87e4f, 0xfe2ce6e0, 0xa3014314, 0x4e0811a1,
    0xf7537e82, 0xbd3af235, 0x2ad7d2bb, 0xeb86d391]

/-- The left rotation of each step. -/
def stepShifts : List UInt32 :=
  [7, 12, 17, 22, 7, 12, 17, 22, 7, 12, 17, 22, 7, 12, 17, 22,
    5, 9, 14, 20, 5, 9, 14, 20, 5, 9, 14, 20, 5, 9, 14, 20,
    4, 11, 16, 23, 4, 11, 16, 23, 4, 11, 16, 23, 4, 11, 16, 23,
    6, 10, 15, 21, 6, 10, 15, 21, 6, 10, 15, 21, 6, 10, 15, 21]

/-- The state of the hash: four words. -/
structure State where
  a : UInt32
  b : UInt32
  c : UInt32
  d : UInt32

/-- The state before the first block. -/
def initial : State := ⟨0x67452301, 0xefcdab89, 0x98badcfe, 0x10325476⟩

/-- The mixing function of step `i` and the index of the message word it adds. -/
def mix (i : Nat) (b c d : UInt32) : UInt32 × Nat :=
  if i < 16 then ((b &&& c) ||| (~~~b &&& d), i)
  else if i < 32 then ((d &&& b) ||| (~~~d &&& c), (5 * i + 1) % 16)
  else if i < 48 then (b ^^^ c ^^^ d, (3 * i + 5) % 16)
  else (c ^^^ (b ||| ~~~d), 7 * i % 16)

/-- One step with its index, constant and rotation. -/
def step (m : Array UInt32) (s : State) (x : Nat × UInt32 × UInt32) : State :=
  let (i, k, r) := x
  let (f, g) := mix i s.b s.c s.d
  let f := f + s.a + k + m.getD g 0
  ⟨s.d, s.b + rotl32 f r, s.b, s.c⟩

/-- Folds one block into the state: 64 steps, then the sum with the state before them. -/
def compress (s : State) (block : Bytes) : State :=
  let m := (words32 .little block).toArray
  let r := ((List.range 64).zip (stepConstants.zip stepShifts)).foldl (step m) s
  ⟨s.a + r.a, s.b + r.b, s.c + r.c, s.d + r.d⟩

/-- The 16 octets of a final state. -/
def output (s : State) : Bytes :=
  [s.a, s.b, s.c, s.d].flatMap fun w => encodeNat .little 4 w.toNat

/-- The MD5 hash of a message. -/
def hash (msg : Bytes) : Bytes :=
  output ((chunks 64 (pad .little 64 8 msg)).foldl compress initial)

end SipCodec.Hash.Md5
