import SipCodec.Text.Utf8
import SipCodec.Text.CaseTable

/-! Case for text that may hold more than ASCII. Names, methods and parameter values are
compared and normalised case-insensitively; where such text carries letters outside ASCII, the
simple case mappings and folding classes of Unicode apply. -/

namespace SipCodec.Case

/-- Simple lower-case mapping of a code point. -/
def lowerCode (c : Nat) : Nat := if c < 0x80 then (if 0x41 ≤ c && c ≤ 0x5A then c + 32 else c)
  else mapBy lowerRuns c

/-- Simple upper-case mapping of a code point. -/
def upperCode (c : Nat) : Nat := if c < 0x80 then (if 0x61 ≤ c && c ≤ 0x7A then c - 32 else c)
  else mapBy upperRuns c

/-- Two code points are equal up to case when they lie in one folding class. -/
def foldEq (a b : Nat) : Bool := a == b || mapBy foldRuns a == mapBy foldRuns b

end Case

namespace Bytes

/-- Lower case. Pure ASCII text is mapped octet by octet; otherwise the text is read as UTF-8,
every character is mapped and every malformed octet becomes U+FFFD. -/
def toLower (s : Bytes) : Bytes :=
  if s.all (· < 0x80) then s.lowerAscii
  else (Utf8.codePoints s).flatMap fun c => Utf8.encode (Case.lowerCode c)

/-- Upper case, with the same treatment of non-ASCII text as `toLower`. -/
def toUpper (s : Bytes) : Bytes :=
  if s.all (· < 0x80) then s.upperAscii
  else (Utf8.codePoints s).flatMap fun c => Utf8.encode (Case.upperCode c)

/-- Equality up to case, character by character; malformed octets read as U+FFFD. -/
def eqFold (a b : Bytes) : Bool :=
  if a.all (· < 0x80) && b.all (· < 0x80) then a.eqFoldAscii b
  else
    let xs := Utf8.codePoints a
    let ys := Utf8.codePoints b
    xs.length == ys.length && (xs.zip ys).all fun (x, y) => Case.foldEq x y

end Bytes

end SipCodec
