import SipCodec.Number.BinaryFloat

/-! The shortest decimal of a binary float: the fewest significant digits whose value rounds
back to the same float, and of those the one nearest the float (an exact tie goes to the even
digit). The float rounds back from every value of its rounding interval, the reals nearer to
it than to its neighbours, ends included when its significand is even; the interval below a
power of two is half as wide as above it. For each digit count the search tests only the two
neighbours of the float on that decimal grid, in exact natural arithmetic: if any point of the
grid lies in the interval, one of those two does. -/

namespace SipCodec

/-- A decimal number `digits * 10^exp`. -/
structure Decimal where
  digits : Nat
  exp : Int
  deriving DecidableEq, Inhabited

namespace Decimal

/-- Compares `a * 10^q` with `b * 2^k` exactly. -/
def compareScaled (a : Nat) (q : Int) (b : Nat) (k : Int) : Ordering :=
  compare (a * Nat.pow 10 q.toNat * Nat.pow 2 (-k).toNat) (b * Nat.pow 2 k.toNat * Nat.pow 10 (-q).toNat)

/-- The number of decimal digits of a natural number (one for zero). -/
def digitCount (n : Nat) : Nat := (Nat.toDigits 10 n).length

/-- The exponent `t` with `10^t ≤ m * 2^e < 10^(t+1)`, for `m > 0`. -/
def floorLog10 (m : Nat) (e : Int) : Int :=
  let (a, b) := BinaryFloat.powTwo e
  let t : Int := (digitCount (m * a) : Int) - (digitCount b : Int)
  if compareScaled 1 t m e != .gt then t else t - 1

/-- `⌊m * 2^e / 10^s⌋`. -/
def floorOnGrid (m : Nat) (e s : Int) : Nat :=
  (m * Nat.pow 2 e.toNat * Nat.pow 10 (-s).toNat) / (Nat.pow 2 (-e).toNat * Nat.pow 10 s.toNat)

/-- Drops trailing zero digits into the exponent. -/
def normalize (d : Decimal) : Decimal :=
  if h : d.digits ≠ 0 ∧ d.digits % 10 = 0 then
    normalize ⟨d.digits / 10, d.exp + 1⟩
  else d
termination_by d.digits
decreasing_by exact Nat.div_lt_self (Nat.pos_of_ne_zero h.1) (by decide)

/-- How a decimal is written: positionally when `10^least ≤ |v| < 10^limit`, otherwise as
`d.ddd` followed by `e`, the sign of the exponent and at least `expDigits` of its digits. -/
structure Style where
  least : Int
  limit : Int
  expDigits : Nat

/-- The text of a decimal in a style, `-` before it when `neg` holds. -/
def render (style : Style) (neg : Bool) (d : Decimal) : String :=
  let ds := Nat.toDigits 10 d.digits
  let n : Int := ds.length
  let mag := n - 1 + d.exp
  let body : List Char :=
    if d.digits = 0 then ['0']
    else if style.least ≤ mag ∧ mag < style.limit then
      let dp := n + d.exp
      if dp ≤ 0 then ['0', '.'] ++ List.replicate (-dp).toNat '0' ++ ds
      else if dp ≥ n then ds ++ List.replicate (dp - n).toNat '0'
      else ds.take dp.toNat ++ ['.'] ++ ds.drop dp.toNat
    else
      let e := Nat.toDigits 10 mag.natAbs
      let frac := if ds.length > 1 then '.' :: ds.drop 1 else []
      ds.take 1 ++ frac ++ ['e', if mag < 0 then '-' else '+'] ++
        List.replicate (style.expDigits - e.length) '0' ++ e
  String.ofList ((if neg then ['-'] else []) ++ body)

end Decimal

namespace BinaryFloat

/-- The shortest decimal of a positive finite value `m * 2^e` of the format (`m > 0`). -/
def shortestOf (fmt : FloatFormat) (m : Nat) (e : Int) : Decimal :=
  -- the interval in units of 2^(e-2): [lo, hi] around 4m
  let unit := e - 2
  let lo := if m = Nat.pow 2 (fmt.precision - 1) ∧ e > fmt.minExp then 4 * m - 1 else 4 * m - 2
  let hi := 4 * m + 2
  let closed := m % 2 == 0
  let inside (c : Nat) (s : Int) : Bool :=
    (match Decimal.compareScaled c s lo unit with
      | .gt => true | .eq => closed | .lt => false) &&
    (match Decimal.compareScaled c s hi unit with
      | .lt => true | .eq => closed | .gt => false)
  let t := Decimal.floorLog10 m e
  let pick (k : Nat) : Option Decimal :=
    let s := t - k + 1
    let low := Decimal.floorOnGrid m e s
    let lowIn := inside low s
    let highIn := inside (low + 1) s
    if lowIn && highIn then
      -- nearer of the two: compare (2 low + 1) 10^s with 2 m 2^e
      match Decimal.compareScaled (2 * low + 1) s (8 * m) unit with
      | .lt => some ⟨low + 1, s⟩
      | .gt => some ⟨low, s⟩
      | .eq => some ⟨if low % 2 = 0 then low else low + 1, s⟩
    else if lowIn then some ⟨low, s⟩
    else if highIn then some ⟨low + 1, s⟩
    else none
  let rec search : Nat → Nat → Decimal
    | 0, k => ⟨Decimal.floorOnGrid m e (t - k + 1), t - k + 1⟩
    | fuel + 1, k =>
      match pick k with
      | some d => d
      | none => search fuel (k + 1)
  Decimal.normalize (search fmt.precision 1)

/-- The shortest text of a finite value in a style; `none` for infinities and NaN. -/
def renderShortest (fmt : FloatFormat) (style : Decimal.Style) : BinaryFloat → Option String
  | .finite neg 0 _ => some (Decimal.render style neg ⟨0, 0⟩)
  | .finite neg m e => some (Decimal.render style neg (shortestOf fmt m e))
  | _ => none

end BinaryFloat

end SipCodec
