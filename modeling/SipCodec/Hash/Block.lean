import SipCodec.Text.Bytes

/-! The block layer shared by MD5, SHA-256 and SHA-512. A message is padded with one octet
`0x80`, zeros, and its length in bits, so that the padded length is a whole number of blocks;
the padded message is then cut into blocks and each block into words. The length field and the
words are big-endian for the SHA-2 family and little-endian for MD5. -/

namespace SipCodec.Hash

/-- The octet order of words and of the length field. -/
inductive Endian where
  | big
  | little

/-- The `width` octets of `n` modulo `256 ^ width`, in the given order. -/
def encodeNat (order : Endian) (width n : Nat) : Bytes :=
  let le := (List.range width).map fun i => (n / Nat.pow 256 i % 256).toUInt8
  match order with
  | .little => le
  | .big => le.reverse

/-- The number that octets stand for, read in the given order. -/
def decodeNat (order : Endian) (s : Bytes) : Nat :=
  let be := match order with
    | .big => s
    | .little => s.reverse
  be.foldl (fun acc b => acc * 256 + b.toNat) 0

/-- Pads a message for blocks of `block` octets whose last `lengthWidth` octets hold the bit
length: `0x80`, then the fewest zeros that make room for the length field. -/
def pad (order : Endian) (block lengthWidth : Nat) (msg : Bytes) : Bytes :=
  let used := (msg.length + 1 + lengthWidth) % block
  let zeros := (block - used) % block
  msg ++ [0x80] ++ List.replicate zeros 0 ++ encodeNat order lengthWidth (8 * msg.length)

/-- Cuts a text into pieces of `size` octets; the last piece holds what is left. -/
def chunks (size : Nat) (s : Bytes) : List Bytes :=
  go s.length s
where
  /-- Each step takes at least one octet while `size` is positive, so the length bounds the
  steps. -/
  go : Nat → Bytes → List Bytes
    | 0, _ => []
    | fuel + 1, rest => if rest.isEmpty then [] else rest.take size :: go fuel (rest.drop size)

/-- The 32-bit words of a block. -/
def words32 (order : Endian) (block : Bytes) : List UInt32 :=
  (chunks 4 block).map fun w => (decodeNat order w).toUInt32

/-- The 64-bit words of a block. -/
def words64 (order : Endian) (block : Bytes) : List UInt64 :=
  (chunks 8 block).map fun w => (decodeNat order w).toUInt64

/-- Rotation of a 32-bit word to the right. -/
def rotr32 (x : UInt32) (n : UInt32) : UInt32 := (x >>> n) ||| (x <<< (32 - n))

/-- Rotation of a 32-bit word to the left. -/
def rotl32 (x : UInt32) (n : UInt32) : UInt32 := (x <<< n) ||| (x >>> (32 - n))

/-- Rotation of a 64-bit word to the right. -/
def rotr64 (x : UInt64) (n : UInt64) : UInt64 := (x >>> n) ||| (x <<< (64 - n))

end SipCodec.Hash
