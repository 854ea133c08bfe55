import SipCodec.Text.Bytes

/-! Binary floating-point numbers as exact values `m * 2^e`, and the reading of decimal and
hexadecimal number text into them. A format fixes the significant bits and the least exponent;
every exact value rounds to the nearest representable one, a tie to the even significand, and a
value that rounds to the format's limit or beyond is out of range. -/

namespace SipCodec

/-- A binary format: `precision` significant bits, `minExp` the exponent of the smallest
subnormal step, and finite values stay below `2^maxPow`. -/
structure FloatFormat where
  precision : Nat
  minExp : Int
  maxPow : Nat

namespace FloatFormat

/-- IEEE 754 binary32. -/
def single : FloatFormat := ⟨24, -149, 128⟩

/-- IEEE 754 binary64. -/
def double : FloatFormat := ⟨53, -1074, 1024⟩

end FloatFormat

/-- A floating-point value: `(-1)^neg * m * 2^e`, an infinity, or not a number. -/
inductive BinaryFloat where
  | finite (neg : Bool) (m : Nat) (e : Int)
  | infinite (neg : Bool)
  | nan
  deriving DecidableEq, Inhabited

namespace BinaryFloat

/-- `2^k` as a fraction: numerator and denominator. -/
def powTwo (k : Int) : Nat × Nat :=
  if k ≥ 0 then (Nat.pow 2 k.toNat, 1) else (1, Nat.pow 2 (-k).toNat)

/-- Whether `2^k ≤ num / den`. -/
def powTwoLe (k : Int) (num den : Nat) : Bool :=
  let (a, b) := powTwo k
  a * den ≤ num * b

/-- The exponent `t` with `2^t ≤ num / den < 2^(t+1)`, for a positive fraction. -/
def floorLog2 (num den : Nat) : Int :=
  let t : Int := (Nat.log2 num : Int) - (Nat.log2 den : Int)
  if powTwoLe t num den then t else t - 1

/-- Divides and rounds to the nearest natural number, a tie to the even one. -/
def divRoundEven (num den : Nat) : Nat :=
  let q := num / den
  let r := num % den
  if 2 * r > den || (2 * r == den && q % 2 == 1) then q + 1 else q

/-- The value of the fraction `num / den` rounded into the format, with the given sign. -/
def round (fmt : FloatFormat) (neg : Bool) (num den : Nat) : BinaryFloat :=
  if num = 0 || den = 0 then .finite neg 0 fmt.minExp
  else
    let e := max (floorLog2 num den - (fmt.precision - 1 : Nat)) fmt.minExp
    let (a, b) := powTwo e
    let m := divRoundEven (num * b) (den * a)
    let (m, e) := if m = Nat.pow 2 fmt.precision then (m / 2, e + 1) else (m, e)
    if powTwoLe (fmt.maxPow - e) m 1 then .infinite neg else .finite neg m e

/-- Whether a value is below zero. -/
def isNegative : BinaryFloat → Bool
  | .finite neg m _ => neg && m != 0
  | .infinite neg => neg
  | .nan => false

/-- Whether a value is above one. -/
def exceedsOne : BinaryFloat → Bool
  | .finite neg m e =>
    let (a, b) := powTwo e
    !neg && m * a > b
  | .infinite neg => !neg
  | .nan => false

/-! Number text: an optional sign; then `inf`, `infinity` or (unsigned) `nan` in any case; or
decimal digits with at most one point and an optional exponent `e[±]digits`; or `0x` and hex
digits with an optional point and a required binary exponent `p[±]digits`. Underscores may
separate digits. An exponent counts its digits only while it is below 10000. -/

/-- The parts of a number text: its sign, whether it is hexadecimal, its digits, how many of
them follow the point, and its exponent. -/
structure Numeral where
  neg : Bool
  hex : Bool
  digits : Bytes
  fraction : Nat
  exp : Int

/-- Whether underscores only stand between two digits (a base prefix counting as one). -/
def underscoresOk (s : Bytes) : Bool :=
  let s := match s with
    | 43 :: rest => rest
    | 45 :: rest => rest
    | _ => s
  let (hex, start, body) := match s with
    | 48 :: x :: rest =>
      let l := Octet.toLower x
      if l == 98 || l == 111 || l == 120 then (l == 120, (48 : UInt8), rest) else (false, 94, s)
    | _ => (false, (94 : UInt8), s)
  let last := body.foldl (fun (saw : Option UInt8) c =>
      match saw with
      | none => none
      | some saw =>
        if Octet.isDigit c || (hex && Octet.isHex c) then some 48
        else if c == 95 then (if saw == 48 then some 95 else none)
        else if saw == 95 then none
        else some 33) (some start)
  match last with
  | some saw => saw != 95
  | none => false

/-- Reads the digits of the significand: digits, underscores and the first point. -/
def readSignificand (hex : Bool) : Bytes → Bool → Bytes → Nat → Bytes × Nat × Bytes
  | [], _, digits, frac => (digits, frac, [])
  | c :: rest, sawDot, digits, frac =>
    if c == 95 then readSignificand hex rest sawDot digits frac
    else if c == 46 then
      if sawDot then (digits, frac, c :: rest) else readSignificand hex rest true digits frac
    else if Octet.isDigit c || (hex && Octet.isHex c) then
      readSignificand hex rest sawDot (digits ++ [c]) (if sawDot then frac + 1 else frac)
    else (digits, frac, c :: rest)

/-- Reads exponent digits and underscores; digits count while the value is below 10000. -/
def readExpDigits : Bytes → Nat → Nat × Bytes
  | [], e => (e, [])
  | c :: rest, e =>
    if c == 95 then readExpDigits rest e
    else if Octet.isDigit c then
      readExpDigits rest (if e < 10000 then e * 10 + (c - 48).toNat else e)
    else (e, c :: rest)

/-- Reads the parts of a finite number text. -/
def numeral? (s : Bytes) : Option Numeral :=
  let (neg, body) := match s with
    | 43 :: rest => (false, rest)
    | 45 :: rest => (true, rest)
    | _ => (false, s)
  let (hex, body) := match body with
    | 48 :: x :: rest@(_ :: _) => if Octet.toLower x == 120 then (true, rest) else (false, body)
    | _ => (false, body)
  let (digits, fraction, rest) := readSignificand hex body false [] 0
  if digits.isEmpty then none
  else
    let expChar : UInt8 := if hex then 112 else 101
    let exp : Option (Int × Bytes) := match rest with
      | c :: more =>
        if Octet.toLower c == expChar then
          let (sign, more) : Int × Bytes := match more with
            | 43 :: m => (1, m)
            | 45 :: m => (-1, m)
            | _ => (1, more)
          match more with
          | d :: _ =>
            if Octet.isDigit d then
              let (e, after) := readExpDigits more 0
              some (sign * e, after)
            else none
          | [] => none
        else if hex then none else some (0, c :: more)
      | [] => if hex then none else some (0, [])
    match exp with
    | some (e, []) =>
      if underscoresOk s then some ⟨neg, hex, digits, fraction, e⟩ else none
    | _ => none

/-- The length of the longest common prefix, ignoring ASCII case. -/
def commonPrefixFold : Bytes → Bytes → Nat
  | a :: as, b :: bs => if Octet.toLower a == Octet.toLower b then 1 + commonPrefixFold as bs else 0
  | _, _ => 0

/-- Reads the infinities and not-a-number. -/
def special? (s : Bytes) : Option BinaryFloat :=
  let (signed, neg, body) := match s with
    | 43 :: rest => (true, false, rest)
    | 45 :: rest => (true, true, rest)
    | _ => (false, false, s)
  let n := commonPrefixFold body (lit "infinity")
  if (n == 3 && body.length == 3) || (n == 8 && body.length == 8) then some (.infinite neg)
  else if !signed && body.length == 3 && commonPrefixFold body (lit "nan") == 3 then some .nan
  else none

/-- Reads a number text into the format; a malformed text and a value out of range give
nothing. -/
def read? (fmt : FloatFormat) (s : Bytes) : Option BinaryFloat :=
  match special? s with
  | some v => some v
  | none =>
    match numeral? s with
    | none => none
    | some n =>
      let value := n.digits.foldl (fun acc c =>
        acc * (if n.hex then 16 else 10) + Octet.hexValue c) 0
      let (num, den) :=
        if n.hex then
          let (a, b) := powTwo (n.exp - 4 * (n.fraction : Int))
          (value * a, b)
        else
          let k := n.exp - (n.fraction : Int)
          if k ≥ 0 then (value * Nat.pow 10 k.toNat, 1) else (value, Nat.pow 10 (-k).toNat)
      match round fmt n.neg num den with
      | .infinite _ => none
      | v => some v

end BinaryFloat

end SipCodec
