import SipCodec.Text.Literal
import SipCodec.Text.Case
import SipCodec.Text.Numeral

/-! Structured log records: a severity level, a message and attributes. Levels are integers
with four named points, DEBUG −4, INFO 0, WARN 4 and ERROR 8, and are written as the nearest
named level at or below them with the offset from it. Raw wire data is logged quoted, and cut
to its first 512 octets, together with its full length, when it is longer. -/

namespace SipCodec.Log

/-- A severity level. -/
structure Level where
  value : Int
  deriving DecidableEq, Inhabited

namespace Level

def debug : Level := ⟨-4⟩

def info : Level := ⟨0⟩

def warn : Level := ⟨4⟩

def error : Level := ⟨8⟩

/-- The named levels and their values. -/
def named : List (String × Level) := [("DEBUG", debug), ("INFO", info), ("WARN", warn), ("ERROR", error)]

/-- Reads a signed decimal offset such as `+2` or `-4` that fits in 64 bits. -/
def readOffset (s : Bytes) : Option Int :=
  let (neg, digits) := match s with
    | 43 :: ds => (false, ds)
    | 45 :: ds => (true, ds)
    | ds => (false, ds)
  match Numeral.parseUnsigned 10 64 digits with
  | .ok n =>
    if neg then (if n ≤ Nat.pow 2 63 then some (-(n : Int)) else none)
    else if n < Nat.pow 2 63 then some n else none
  | .error _ => none

/-- Reads a level: a name in any case, optionally followed by a signed offset. -/
def read? (s : Bytes) : Option Level := do
  let (name, offset) ← match s.findIdx? (fun c => c == 43 || c == 45) with
    | some i => do pure (s.take i, ← readOffset (s.drop i))
    | none => pure (s, 0)
  let (_, base) ← named.find? fun (n, _) => lit n == Bytes.toUpper name
  return ⟨base.value + offset⟩

/-- The name of a level: the nearest named level at or below it, with the offset from it when
there is one. -/
def name (l : Level) : String :=
  let (n, base) :=
    if l.value < info.value then ("DEBUG", debug)
    else if l.value < warn.value then ("INFO", info)
    else if l.value < error.value then ("WARN", warn)
    else ("ERROR", error)
  let off := l.value - base.value
  if off == 0 then n
  else if off > 0 then n ++ "+" ++ toString off
  else n ++ toString off

end Level

/-- A plain attribute value. -/
inductive Scalar where
  | int (n : Int)
  | text (s : Bytes)
  deriving DecidableEq, Inhabited

/-- An attribute value: a plain value or a group of named plain values. -/
inductive Value where
  | scalar (v : Scalar)
  | group (attrs : List (String × Scalar))
  deriving DecidableEq, Inhabited

/-- A log record. -/
structure Record where
  level : Level
  msg : String
  attrs : List (String × Value)
  deriving DecidableEq, Inhabited

/-- How many octets of raw data a record shows. -/
def maxBytesShown : Nat := 512

/-- Raw data as a quoted text, or, beyond `maxBytesShown` octets, its quoted head and its
length. -/
def bytesValue (b : Bytes) : Value :=
  if b.length > maxBytesShown then
    .group [("head", .text (Literal.quote (b.take maxBytesShown))), ("len", .int b.length)]
  else .scalar (.text (Literal.quote b))

end SipCodec.Log
