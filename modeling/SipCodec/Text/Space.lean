import SipCodec.Text.Utf8

/-! White space in the Unicode sense, for trimming names that may hold more than ASCII:
the ASCII blanks and line breaks, NEL, and the space separators of Unicode. -/

namespace SipCodec

/-- Whether a code point is white space. -/
def isSpaceCode (c : Nat) : Bool :=
  c == 32 || (9 ≤ c && c ≤ 13) || c == 0x85 || c == 0xA0 || c == 0x1680 ||
    (0x2000 ≤ c && c ≤ 0x200A) || c == 0x2028 || c == 0x2029 || c == 0x202F || c == 0x205F ||
    c == 0x3000

/-- Whether a unit is a white-space character; an octet that starts no character is none. -/
def Utf8.Unit.isSpace : Utf8.Unit → Bool
  | .char c _ => isSpaceCode c
  | .stray _ => false

/-- The octets a unit was read from. -/
def Utf8.Unit.bytes : Utf8.Unit → Bytes
  | .char _ raw => raw
  | .stray b => [b]

/-- Drops white space at both ends; octets that are not well-formed UTF-8 are no space. -/
def Bytes.trimSpace (s : Bytes) : Bytes :=
  let units := ((Utf8.units s).dropWhile Utf8.Unit.isSpace).reverse.dropWhile Utf8.Unit.isSpace
  units.reverse.flatMap Utf8.Unit.bytes

end SipCodec
