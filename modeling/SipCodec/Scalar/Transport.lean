import SipCodec.Text.Lexical
import SipCodec.Text.Case
import SipCodec.Text.Literal
import SipCodec.Error

/-! Transport protocols of Via headers and `transport` parameters, stored in upper case. UDP
is the one known transport that is not reliable; TLS, TLS-SCTP and WSS are secured. -/

namespace SipCodec

structure Transport where
  name : Bytes
  deriving DecidableEq, Inhabited

namespace Transport

def known : List Bytes := ["UDP", "TCP", "TLS", "SCTP", "TLS-SCTP", "WS", "WSS"].map lit

def isValid (t : Transport) : Bool := Lexical.isToken t.name

def isKnown (t : Transport) : Bool := known.contains (Bytes.toUpper t.name)

def isReliable (t : Transport) : Bool := t.isKnown && Bytes.toUpper t.name != lit "UDP"

def isSecured (t : Transport) : Bool :=
  let u := Bytes.toUpper t.name
  u == lit "TLS" || u == lit "TLS-SCTP" || u == lit "WSS"

def equal (a b : Transport) : Bool := Bytes.eqFold a.name b.name

def tokenize (s : Bytes) : Outcome (Bytes × Bytes) :=
  match Lexical.cutToken s with
  | some r => .ok r
  | none => .error (.tokenizeText "transport token expected")

def ofToken (tok : Bytes) : Outcome Transport :=
  if Lexical.isToken tok then .ok ⟨Bytes.toUpper tok⟩
  else .error (.detail .parse (lit "invalid transport " ++ Literal.quote tok))

def parse (s : Bytes) : Outcome Transport := ofToken s

end Transport

end SipCodec
