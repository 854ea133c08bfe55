import SipCodec.Typed.Scan
import SipCodec.Text.Literal
import SipCodec.Uri.Param
import SipCodec.Number.BinaryFloat

/-! Values about time that are kept close to their text: `Retry-After` (seconds, an optional
comment, parameters) and `Timestamp` (a decimal time and an optional decimal delay, both kept
as written). -/

namespace SipCodec

/-- A `Retry-After` value: seconds to wait, an optional comment and parameters. -/
structure RetryAfter where
  delay : Nat
  comment : Option Bytes
  params : List Param
  deriving DecidableEq, Inhabited

namespace RetryAfter

def render (r : RetryAfter) : Bytes :=
  Bytes.ofNat r.delay ++ (match r.comment with
    | some c => lit " (" ++ c ++ lit ")"
    | none => []) ++ Params.render r.params

def equal (a b : RetryAfter) : Bool :=
  a.delay == b.delay && a.comment == b.comment && Params.equal a.params b.params

/-- The comment in parentheses at the front, which may nest; a backslash escapes the octet
after it. The comment is returned without its outer parentheses. -/
def cutComment (s : Bytes) : Option (Bytes × Bytes) :=
  match s with
  | 40 :: _ => go s 0 0
  | _ => none
where
  go : Bytes → Nat → Nat → Option (Bytes × Bytes)
    | [], _, _ => none
    | 92 :: rest, i, depth => go (rest.drop 1) (i + 2) depth
    | 40 :: rest, i, depth => go rest (i + 1) (depth + 1)
    | 41 :: rest, i, depth =>
      if depth - 1 == 0 then some ((s.take i).drop 1, rest) else go rest (i + 1) (depth - 1)
    | _ :: rest, i, depth => go rest (i + 1) depth
  termination_by rest => rest.length
  decreasing_by all_goals simp only [List.length_drop, List.length_cons]; omega

/-- The texts of a `Retry-After` value. -/
structure Token where
  delay : Bytes
  comment : Option Bytes
  params : List Param.Token

def tokenize : Scan.Cut Token := fun s => do
  let (rest, delay) ← Scan.number s
  let (comment, rest) ← match Scan.cutLws rest with
    | some r@(40 :: _) =>
      match cutComment r with
      | some (c, after) => pure (some c, after)
      | none => throw (.tokenizeText "unterminated comment")
    | _ => pure (none, rest)
  let (rest, params) ← Params.tokenize rest
  return (rest, ⟨delay, comment, params⟩)

def ofToken (t : Token) : Outcome RetryAfter := do
  let delay ← Scan.uint32 t.delay
  let comment ← match t.comment with
    | some c =>
      if Utf8.isValid c then pure (some c)
      else throw (.detail .utf8 (lit "comment " ++ Literal.quote c))
    | none => pure none
  return ⟨delay, comment, ← Params.ofTokens t.params⟩

def parse (s : Bytes) : Outcome RetryAfter := Scan.value s tokenize ofToken

end RetryAfter

/-- A `Timestamp` value: the time and an optional delay, both decimals kept as written. -/
structure Timestamp where
  value : Bytes
  delay : Bytes
  deriving DecidableEq, Inhabited

namespace Timestamp

def render (t : Timestamp) : Bytes := t.value ++ (if t.delay.isEmpty then [] else 32 :: t.delay)

/-- Cuts `1*DIGIT [ "." *DIGIT ]`. -/
def cutDecimal : Scan.Cut Bytes := fun s =>
  let n := (s.takeWhile Octet.isDigit).length
  if n = 0 then .error (.tokenizeText "digits expected")
  else match s.drop n with
    | 46 :: after =>
      let m := (after.takeWhile Octet.isDigit).length
      .ok (after.drop m, s.take (n + 1 + m))
    | rest => .ok (rest, s.take n)

def isDecimal (s : Bytes) : Bool :=
  match cutDecimal s with
  | .ok (rest, _) => rest.isEmpty
  | .error _ => false

def isValid (t : Timestamp) : Bool := isDecimal t.value && (t.delay.isEmpty || isDecimal t.delay)

def tokenize : Scan.Cut Timestamp := fun s => do
  let (rest, value) ← cutDecimal s
  match Scan.cutLws rest with
  | some r@(d :: _) =>
    if Octet.isDigit d then
      let (rest, delay) ← cutDecimal r
      return (rest, ⟨value, delay⟩)
    else return (rest, ⟨value, []⟩)
  | _ => return (rest, ⟨value, []⟩)

def parse (s : Bytes) : Outcome Timestamp := Scan.value s tokenize pure

/-- The time in seconds as a double; `none` when it is no number or out of range. -/
def seconds? (t : Timestamp) : Option BinaryFloat := BinaryFloat.read? .double t.value

/-- The delay in whole nanoseconds: the delay in seconds as a double, multiplied by 10^9 and
rounded to a double, then cut toward zero. An empty or unreadable delay counts as 0; `none`
when the product does not fit a signed 64-bit integer. -/
def delayNanos? (t : Timestamp) : Option Int :=
  if t.delay.isEmpty then some 0
  else match BinaryFloat.read? .double t.delay with
    | none => some 0
    | some (.finite neg m e) =>
      let (a, b) := BinaryFloat.powTwo e
      match BinaryFloat.round .double neg (m * Nat.pow 10 9 * a) b with
      | .finite neg m e =>
        let (a, b) := BinaryFloat.powTwo e
        let whole : Int := (m * a / b : Nat)
        let v := if neg then -whole else whole
        if -(Nat.pow 2 63 : Int) ≤ v ∧ v < (Nat.pow 2 63 : Int) then some v else none
      | _ => none
    | some _ => none

end Timestamp

end SipCodec
