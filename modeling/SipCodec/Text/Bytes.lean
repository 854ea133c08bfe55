/-! Octet text. SIP is defined over octets and its values may carry any byte, so text is a
`List UInt8` and no encoding is assumed; the ASCII classes and case maps of single octets that
the grammar uses sit beside it. -/

namespace SipCodec

/-- Octet text, the form in which every SIP value is read and written. -/
abbrev Bytes := List UInt8

/-- The UTF-8 octets of a string, for the fixed words of the protocol. -/
def lit (s : String) : Bytes := s.toUTF8.toList

namespace Octet

def isDigit (c : UInt8) : Bool := 48 ≤ c && c ≤ 57

def isUpper (c : UInt8) : Bool := 65 ≤ c && c ≤ 90

def isLower (c : UInt8) : Bool := 97 ≤ c && c ≤ 122

def isAlpha (c : UInt8) : Bool := isUpper c || isLower c

def isAlnum (c : UInt8) : Bool := isAlpha c || isDigit c

def isHex (c : UInt8) : Bool := isDigit c || (65 ≤ c && c ≤ 70) || (97 ≤ c && c ≤ 102)

/-- Space or horizontal tab, the two blanks of SIP's `WSP`. -/
def isWsp (c : UInt8) : Bool := c == 32 || c == 9

/-- The value of a hexadecimal digit of either case; other octets give 0. -/
def hexValue (c : UInt8) : Nat :=
  if isDigit c then (c - 48).toNat
  else if 65 ≤ c && c ≤ 70 then (c - 55).toNat
  else if 97 ≤ c && c ≤ 102 then (c - 87).toNat
  else 0

/-- The lower-case hexadecimal digit of `n`, for `n < 16`. -/
def hexDigitLower (n : Nat) : UInt8 :=
  if n < 10 then (48 + n).toUInt8 else (87 + n).toUInt8

/-- The upper-case hexadecimal digit of `n`, for `n < 16`. -/
def hexDigitUpper (n : Nat) : UInt8 :=
  if n < 10 then (48 + n).toUInt8 else (55 + n).toUInt8

def toLower (c : UInt8) : UInt8 := if isUpper c then c + 32 else c

def toUpper (c : UInt8) : UInt8 := if isLower c then c - 32 else c

end Octet

namespace Bytes

/-- ASCII lower case; other octets are kept. -/
def lowerAscii (s : Bytes) : Bytes := s.map Octet.toLower

/-- ASCII upper case; other octets are kept. -/
def upperAscii (s : Bytes) : Bytes := s.map Octet.toUpper

/-- Equality up to ASCII case. -/
def eqFoldAscii (a b : Bytes) : Bool := a.lowerAscii == b.lowerAscii

/-- The text of ASCII octets, each octet read as the character of its code. -/
def asciiText (s : Bytes) : String := String.ofList (s.map fun c => Char.ofNat c.toNat)

/-- Two lower-case hexadecimal digits per octet. -/
def hexLower (s : Bytes) : Bytes :=
  s.flatMap fun c => [Octet.hexDigitLower (c.toNat / 16), Octet.hexDigitLower (c.toNat % 16)]

/-- Decimal digits of `n`, most significant first, built from the last digit up. -/
def digitsOf (n : Nat) (acc : Bytes) : Bytes :=
  if n < 10 then (48 + n).toUInt8 :: acc
  else digitsOf (n / 10) ((48 + n % 10).toUInt8 :: acc)
termination_by n
decreasing_by omega

/-- The decimal text of a natural number. -/
def ofNat (n : Nat) : Bytes := digitsOf n []

/-- The decimal text of an integer, with a leading minus sign when negative. -/
def ofInt (n : Int) : Bytes :=
  match n with
  | .ofNat k => ofNat k
  | .negSucc k => 45 :: ofNat (k + 1)

/-- Lower-case hexadecimal digits of `n`, most significant first, without leading zeros. -/
def hexText (n : Nat) : Bytes :=
  if n < 16 then [Octet.hexDigitLower n] else hexText (n / 16) ++ [Octet.hexDigitLower (n % 16)]
termination_by n
decreasing_by omega

/-- Decimal text padded with zeros on the left to at least `width` digits. -/
def ofNatPadded (width n : Nat) : Bytes :=
  let digits := ofNat n
  List.replicate (width - digits.length) 48 ++ digits

/-- The rest of `s` after the prefix `p`, when `s` starts with it. -/
def dropPrefix? (p s : Bytes) : Option Bytes :=
  match p, s with
  | [], s => some s
  | _ :: _, [] => none
  | a :: p, b :: s => if a == b then dropPrefix? p s else none

/-- Whether `s` starts with the octet `c`. -/
def startsWithByte (s : Bytes) (c : UInt8) : Bool :=
  match s with
  | b :: _ => b == c
  | [] => false

/-- Index of the first occurrence of `needle` in `s`. -/
def indexOf? (needle s : Bytes) : Option Nat :=
  match s with
  | [] => if needle.isEmpty then some 0 else none
  | c :: rest =>
    if needle.isPrefixOf (c :: rest) then some 0 else (indexOf? needle rest).map (· + 1)

/-- Drops octets from the end while `p` holds. -/
def trimRightBy (p : UInt8 → Bool) (s : Bytes) : Bytes :=
  (s.reverse.dropWhile p).reverse

/-- Splits at every occurrence of the octet `c`; `n` separators give `n + 1` parts. -/
def splitOnByte (c : UInt8) (s : Bytes) : List Bytes :=
  match s with
  | [] => [[]]
  | b :: rest =>
    let parts := splitOnByte c rest
    if b == c then [] :: parts
    else match parts with
      | first :: others => (b :: first) :: others
      | [] => [[b]]

/-- Joins parts with a separator between each two. -/
def joinWith (sep : Bytes) : List Bytes → Bytes
  | [] => []
  | [x] => x
  | x :: rest => x ++ sep ++ joinWith sep rest

/-- Replaces every occurrence of the octet `c` by the text `by`. -/
def replaceByte (c : UInt8) (replacement : Bytes) (s : Bytes) : Bytes :=
  s.flatMap fun b => if b == c then replacement else [b]

/-- Whether every octet is a decimal digit, and there is at least one. -/
def isDigits (s : Bytes) : Bool := !s.isEmpty && s.all Octet.isDigit

/-- The octets up to the first one that fails `p`, and the rest. -/
def span (p : UInt8 → Bool) (s : Bytes) : Bytes × Bytes := (s.takeWhile p, s.dropWhile p)

/-- The length of the longest run at the front of `s` made of consecutive elements, where
`step` measures the element at the front of its argument (0 when none starts there). -/
def runLength (step : Bytes → Nat) : Bytes → Nat
  | [] => 0
  | c :: rest =>
    let n := step (c :: rest)
    if n = 0 then 0 else n + runLength step ((c :: rest).drop n)
termination_by s => s.length
decreasing_by simp only [List.length_drop, List.length_cons]; omega

end Bytes

end SipCodec
