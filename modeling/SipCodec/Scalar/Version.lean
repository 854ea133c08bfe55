import SipCodec.Grammar.Rules
import SipCodec.Text.Numeral

/-! Protocol versions: `SIP/<major>.<minor>`, each number a decimal of at most eight bits.
The `sent-protocol` of a Via header also allows white space around the slash. -/

namespace SipCodec

structure Version where
  major : Nat
  minor : Nat
  deriving BEq, DecidableEq, Inhabited, Repr

namespace Version

def two : Version := ⟨2, 0⟩

def render (v : Version) : Bytes :=
  lit "SIP/" ++ Bytes.ofNat v.major ++ [46] ++ Bytes.ofNat v.minor

/-- A version is valid when its major number is not zero. -/
def isValid (v : Version) : Bool := v.major > 0

def isZero (v : Version) : Bool := v.major == 0 && v.minor == 0

/-- The digits of a version as read, before they are checked. -/
structure Token where
  major : Bytes
  minor : Bytes

def misshapen : Fault :=
  .tokenizeText "version must look like \"SIP/<major>.<minor>\""

def tokenWith (rule : Grammar.Rule) (s : Bytes) : Outcome (Token × Bytes) :=
  match Grammar.matchRule rule s with
  | .error _ => .error misshapen
  | .ok n =>
    let digits (k : String) := ((n.find? k).map Grammar.Node.text).getD []
    .ok (⟨digits "major", digits "minor"⟩, s.drop n.text.length)

/-- Cuts `SIP/<major>.<minor>` at the front of a text. -/
def tokenize (s : Bytes) : Outcome (Token × Bytes) := tokenWith Grammar.sipVersion s

/-- Cuts the version of a Via header's `sent-protocol`, blanks around the slash allowed. -/
def tokenizeSent (s : Bytes) : Outcome (Token × Bytes) := tokenWith Grammar.sentVersion s

/-- A version from its digits; each number must fit in eight bits. -/
def ofToken (t : Token) : Outcome Version := do
  let major ← Numeral.decimal 8 t.major
  let minor ← Numeral.decimal 8 t.minor
  return ⟨major, minor⟩

/-- Reads a whole text as a version. -/
def parse (s : Bytes) : Outcome Version := do
  let (tok, rest) ← tokenize s
  if !rest.isEmpty then throw Fault.trailing
  ofToken tok

end Version

end SipCodec
