import SipCodec.Text.Literal
import SipCodec.Error

/-! Unsigned numerals of a fixed width. Digits are read left to right; a character that is no
digit of the base is a syntax error, and the first digit that takes the value past the width
is a range error, whatever follows it. -/

namespace SipCodec.Numeral

/-- Why a numeral was refused. -/
inductive Problem where
  | malformed
  | outOfRange
  deriving DecidableEq, Repr

/-- The value of a digit in bases up to 36, letters of either case included. -/
def digitValue (c : UInt8) : Option Nat :=
  if Octet.isDigit c then some (c - 48).toNat
  else if Octet.isLower c then some ((c - 97).toNat + 10)
  else if Octet.isUpper c then some ((c - 65).toNat + 10)
  else none

/-- Reads the remaining digits onto `acc`, stopping at the first problem. -/
def readDigits (base limit : Nat) (acc : Nat) : Bytes → Except Problem Nat
  | [] => .ok acc
  | c :: rest =>
    match digitValue c with
    | none => .error .malformed
    | some d =>
      if d ≥ base then .error .malformed
      else
        let next := acc * base + d
        if next > limit then .error .outOfRange else readDigits base limit next rest

/-- Reads a whole text as an unsigned numeral of `bits` bits in `base`; the empty text is a
syntax error, signs and separators are refused. -/
def parseUnsigned (base bits : Nat) (s : Bytes) : Except Problem Nat :=
  if s.isEmpty then .error .malformed else readDigits base (Nat.pow 2 bits - 1) 0 s

/-- The text of a refusal, naming the reader and quoting the input. -/
def Problem.message (p : Problem) (input : Bytes) : Bytes :=
  lit "strconv.ParseUint: parsing " ++ Literal.quote input ++
    (match p with
      | .malformed => lit ": invalid syntax"
      | .outOfRange => lit ": value out of range")

/-- Reads an unsigned decimal of `bits` bits; a refusal is a parse failure carrying the
reader's own text. -/
def decimal (bits : Nat) (s : Bytes) : Outcome Nat :=
  match parseUnsigned 10 bits s with
  | .ok n => .ok n
  | .error p => .error (.wrap .parse (.foreign (p.message s)))

end SipCodec.Numeral
