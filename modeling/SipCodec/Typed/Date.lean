import SipCodec.Typed.Scan
import SipCodec.Time.Layout

/-! The `Date` header (RFC 3261 §20.17): an RFC 1123 date in GMT, such as
`Sat, 13 Nov 2010 23:29:00 GMT`. The value is cut at its first `GMT`; it is written back with
the weekday of its date. -/

namespace SipCodec

namespace DateValue

/-- Cuts the text up to and including the first `GMT`. -/
def tokenize : Scan.Cut Bytes := fun s =>
  match Bytes.indexOf? (lit "GMT") s with
  | some i => .ok (s.drop (i + 3), s.take (i + 3))
  | none => .error (.tokenizeText "GMT date expected")

def ofToken (tok : Bytes) : Outcome CivilTime :=
  match TimeLayout.http.read tok with
  | .ok t => .ok t
  | .error m => .error (.wrap .parse (.foreign m))

def parse (s : Bytes) : Outcome CivilTime := Scan.value s tokenize ofToken

end DateValue

end SipCodec
