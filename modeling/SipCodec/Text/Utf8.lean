import SipCodec.Text.Bytes

/-! UTF-8 on octet text (RFC 3629): reading the character at the front, checking a whole text,
and writing a code point. Readers that meet a malformed sequence take one octet as an error
unit, so every octet of the input belongs to exactly one unit. -/

namespace SipCodec.Utf8

/-- A continuation octet `10xxxxxx` within `[lo, hi]`. -/
private def tailIn (lo hi : UInt8) (b : UInt8) : Bool := lo ≤ b && b ≤ hi

private def low6 (b : UInt8) : Nat := (b &&& 0x3F).toNat

/-- The character at the front of `s`: its code point and octet count, when the first octets
form a well-formed sequence (no overlong form, no surrogate, nothing past U+10FFFF). -/
def leading : Bytes → Option (Nat × Nat)
  | [] => none
  | a :: rest =>
    if a < 0x80 then some (a.toNat, 1)
    else if 0xC2 ≤ a && a ≤ 0xDF then
      match rest with
      | b :: _ => if tailIn 0x80 0xBF b then some ((a &&& 0x1F).toNat * 64 + low6 b, 2) else none
      | [] => none
    else if 0xE0 ≤ a && a ≤ 0xEF then
      let lo : UInt8 := if a == 0xE0 then 0xA0 else 0x80
      let hi : UInt8 := if a == 0xED then 0x9F else 0xBF
      match rest with
      | b :: c :: _ =>
        if tailIn lo hi b && tailIn 0x80 0xBF c then
          some ((a &&& 0x0F).toNat * 4096 + low6 b * 64 + low6 c, 3)
        else none
      | _ => none
    else if 0xF0 ≤ a && a ≤ 0xF4 then
      let lo : UInt8 := if a == 0xF0 then 0x90 else 0x80
      let hi : UInt8 := if a == 0xF4 then 0x8F else 0xBF
      match rest with
      | b :: c :: d :: _ =>
        if tailIn lo hi b && tailIn 0x80 0xBF c && tailIn 0x80 0xBF d then
          some ((a &&& 0x07).toNat * 262144 + low6 b * 4096 + low6 c * 64 + low6 d, 4)
        else none
      | _ => none
    else none

/-- One unit of a text read as UTF-8: a character with its code point, or an octet that starts
no well-formed sequence. -/
inductive Unit where
  | char (cp : Nat) (raw : Bytes)
  | stray (b : UInt8)

/-- Reads the whole text as UTF-8 units, front to back. -/
def units : Bytes → List Unit
  | [] => []
  | b :: rest =>
    match leading (b :: rest) with
    | some (cp, n) => .char cp (b :: rest.take (n - 1)) :: units (rest.drop (n - 1))
    | none => .stray b :: units rest
termination_by s => s.length
decreasing_by
  all_goals simp only [List.length_drop, List.length_cons]
  all_goals omega

/-- Whether the whole text is well-formed UTF-8. -/
def isValid (s : Bytes) : Bool :=
  (units s).all fun u => match u with
    | .char _ _ => true
    | .stray _ => false

/-- The code points of a text, with U+FFFD for every octet that starts no well-formed
sequence. -/
def codePoints (s : Bytes) : List Nat :=
  (units s).map fun u => match u with
    | .char cp _ => cp
    | .stray _ => 0xFFFD

/-- The UTF-8 form of a code point; surrogates and values past U+10FFFF give U+FFFD. -/
def encode (cp : Nat) : Bytes :=
  if cp < 0x80 then [cp.toUInt8]
  else if cp < 0x800 then [(0xC0 + cp / 64).toUInt8, (0x80 + cp % 64).toUInt8]
  else if (0xD800 ≤ cp && cp ≤ 0xDFFF) || cp > 0x10FFFF then [0xEF, 0xBF, 0xBD]
  else if cp < 0x10000 then
    [(0xE0 + cp / 4096).toUInt8, (0x80 + cp / 64 % 64).toUInt8, (0x80 + cp % 64).toUInt8]
  else
    [(0xF0 + cp / 262144).toUInt8, (0x80 + cp / 4096 % 64).toUInt8,
      (0x80 + cp / 64 % 64).toUInt8, (0x80 + cp % 64).toUInt8]

end SipCodec.Utf8
