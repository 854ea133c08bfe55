import SipCodec.Typed.Scan
import SipCodec.Scalar.Method

/-! Header values that are single words: call identifiers (`Call-ID`, `In-Reply-To`), MIME
versions, priorities, and the `CSeq` pair of a sequence number and a method. -/

namespace SipCodec

namespace CallId

/-- Characters of a call identifier's `word` (RFC 3261 §25.1). -/
def isWordChar (c : UInt8) : Bool :=
  Octet.isAlnum c || (lit "-.!%*_+\x60\x27~()<>:\\\"/[]?\x7b\x7d").contains c

/-- Cuts `word [ "@" word ]` at the front. -/
def tokenize : Scan.Cut Bytes := fun s =>
  let n := (s.takeWhile isWordChar).length
  if n = 0 then .error (.tokenizeText "call-id expected")
  else match s.drop n with
    | 64 :: after =>
      let m := (after.takeWhile isWordChar).length
      if m = 0 then .error (.tokenizeText "call-id host expected")
      else .ok (after.drop m, s.take (n + 1 + m))
    | rest => .ok (rest, s.take n)

/-- A call identifier is valid when it is exactly one `word [ "@" word ]`. -/
def isValid (id : Bytes) : Bool :=
  match tokenize id with
  | .ok (rest, _) => rest.isEmpty
  | .error _ => false

def parse (s : Bytes) : Outcome Bytes := Scan.value s tokenize pure

def parseList (s : Bytes) : Outcome (List Bytes) := Scan.value s (Scan.list tokenize) pure

end CallId

namespace MimeVersion

/-- Cuts `1*DIGIT "." 1*DIGIT` at the front. -/
def tokenize : Scan.Cut Bytes := fun s =>
  let n := (s.takeWhile Octet.isDigit).length
  match s.drop n with
  | 46 :: after =>
    if n = 0 then .error (.tokenizeText "MIME version expected")
    else
      let m := (after.takeWhile Octet.isDigit).length
      if m = 0 then .error (.tokenizeText "MIME minor version expected")
      else .ok (after.drop m, s.take (n + 1 + m))
  | _ => .error (.tokenizeText "MIME version expected")

def isValid (v : Bytes) : Bool :=
  match tokenize v with
  | .ok (rest, _) => rest.isEmpty
  | .error _ => false

def parse (s : Bytes) : Outcome Bytes := Scan.value s tokenize pure

end MimeVersion

namespace Priority

def known : List Bytes := ["emergency", "urgent", "normal", "non-urgent"].map lit

def isKnown (p : Bytes) : Bool := known.contains (Bytes.toLower p)

/-- A priority token; the known ones are kept in lower case. -/
def parse (s : Bytes) : Outcome Bytes :=
  Scan.value s Scan.token fun p => pure (if isKnown p then Bytes.toLower p else p)

end Priority

/-- A `CSeq` value: a sequence number and the method of the request. -/
structure CSeq where
  seq : Nat
  method : Method
  deriving DecidableEq, Inhabited

namespace CSeq

def render (c : CSeq) : Bytes := Bytes.ofNat c.seq ++ [32] ++ c.method.name

def equal (a b : CSeq) : Bool := a.seq == b.seq && a.method.equal b.method

/-- The sequence number must stay below 2^31 (RFC 3261 §8.1.1.5). -/
def isValid (c : CSeq) : Bool := c.seq < Nat.pow 2 31 && c.method.isValid

def tokenize : Scan.Cut (Bytes × Bytes) := fun s => do
  let ds := s.takeWhile Octet.isDigit
  if ds.isEmpty then throw (.tokenizeText "sequence number expected")
  let some rest := Scan.cutLws (s.drop ds.length) | throw (.tokenizeText "white space expected")
  let (m, rest) ← Method.tokenize rest
  return (rest, (ds, m))

def ofToken (t : Bytes × Bytes) : Outcome CSeq := do
  return ⟨← Numeral.decimal 32 t.1, ← Method.ofToken t.2⟩

def parse (s : Bytes) : Outcome CSeq := Scan.value s tokenize ofToken

end CSeq

end SipCodec
