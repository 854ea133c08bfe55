import SipCodec.Error

/-! Percent escapes in URIs (RFC 3261 §25.1, after RFC 2396): an octet may be written `%HH`.
Each part of a URI has its own set of octets that stand for themselves; writing a part
escapes every other octet and keeps escapes that are already there. -/

namespace SipCodec.Percent

/-- `mark`: the punctuation that is unreserved everywhere. -/
def isMark (c : UInt8) : Bool :=
  c == 45 || c == 95 || c == 46 || c == 33 || c == 126 || c == 42 || c == 39 || c == 40 || c == 41

/-- `unreserved = alphanum / mark` -/
def isUnreserved (c : UInt8) : Bool := Octet.isAlnum c || isMark c

/-- `user-unreserved`: also `& = + $ , ; ? /`. -/
def isUserChar (c : UInt8) : Bool :=
  isUnreserved c || c == 38 || c == 61 || c == 43 || c == 36 || c == 44 || c == 59 || c == 63 ||
    c == 47

/-- Password characters: also `& = + $ ,`. -/
def isPasswordChar (c : UInt8) : Bool :=
  isUnreserved c || c == 38 || c == 61 || c == 43 || c == 36 || c == 44

/-- `param-unreserved`: also `[ ] / : & + $`. -/
def isParamChar (c : UInt8) : Bool :=
  isUnreserved c || c == 91 || c == 93 || c == 47 || c == 58 || c == 38 || c == 43 || c == 36

/-- `hnv-unreserved`: also `[ ] / ? : + $`. -/
def isHeaderChar (c : UInt8) : Bool :=
  isUnreserved c || c == 91 || c == 93 || c == 47 || c == 63 || c == 58 || c == 43 || c == 36

/-- Replaces every escape `%HH` by its octet; a `%` that starts no escape stays. -/
def decode : Bytes → Bytes
  | [] => []
  | 37 :: a :: b :: rest =>
    if Octet.isHex a && Octet.isHex b then
      (Octet.hexValue a * 16 + Octet.hexValue b).toUInt8 :: decode rest
    else 37 :: decode (a :: b :: rest)
  | c :: rest => c :: decode rest

/-- Whether every `%` starts an escape `%HH`. -/
def wellEscaped : Bytes → Bool
  | [] => true
  | 37 :: a :: b :: rest => Octet.isHex a && Octet.isHex b && wellEscaped rest
  | 37 :: _ => false
  | _ :: rest => wellEscaped rest

/-- `decode`, refusing a `%` that starts no escape. -/
def decodeStrict (s : Bytes) : Outcome Bytes :=
  if wellEscaped s then .ok (decode s) else .error (.grammar (lit "invalid escape sequence"))

/-- Writes a part of a URI: octets outside `keep` become `%HH` (upper-case hex), escapes
already present stay as they are. -/
def encode (keep : UInt8 → Bool) : Bytes → Bytes
  | [] => []
  | 37 :: a :: b :: rest =>
    if Octet.isHex a && Octet.isHex b then 37 :: a :: b :: encode keep rest
    else escapeOne keep 37 ++ encode keep (a :: b :: rest)
  | c :: rest => escapeOne keep c ++ encode keep rest
where
  escapeOne (keep : UInt8 → Bool) (c : UInt8) : Bytes :=
    if keep c then [c]
    else [37, Octet.hexDigitUpper (c.toNat / 16), Octet.hexDigitUpper (c.toNat % 16)]

end SipCodec.Percent
