import SipCodec.Text.Case
import SipCodec.Text.Literal
import SipCodec.Error

/-! URI schemes: `ALPHA *( ALPHA / DIGIT / "+" / "-" / "." )`, stored in lower case; `sip`,
`sips` and `tel` are known. -/

namespace SipCodec

structure Scheme where
  name : Bytes
  deriving DecidableEq, Inhabited

namespace Scheme

def sip : Scheme := ⟨lit "sip"⟩

def sips : Scheme := ⟨lit "sips"⟩

/-- Length of the scheme name at the front of a text. -/
def nameLen : Bytes → Nat
  | c :: rest =>
    if Octet.isAlpha c then
      1 + (rest.takeWhile fun c => Octet.isAlnum c || c == 43 || c == 45 || c == 46).length
    else 0
  | [] => 0

def isName (s : Bytes) : Bool := !s.isEmpty && nameLen s == s.length

def isValid (s : Scheme) : Bool := isName s.name

def isKnown (s : Scheme) : Bool :=
  let l := Bytes.toLower s.name
  l == lit "sip" || l == lit "sips" || l == lit "tel"

def equal (a b : Scheme) : Bool := Bytes.eqFold a.name b.name

/-- Cuts a scheme name and its colon at the front of a text. -/
def tokenize (s : Bytes) : Outcome (Bytes × Bytes) :=
  let n := nameLen s
  match s.drop n with
  | 58 :: rest => if n = 0 then .error (.tokenizeText "URI scheme expected") else .ok (s.take n, rest)
  | _ => .error (.tokenizeText "URI scheme expected")

def ofToken (tok : Bytes) : Outcome Scheme :=
  if isName tok then .ok ⟨Bytes.toLower tok⟩
  else .error (.detail .parse (lit "invalid scheme " ++ Literal.quote tok))

def parse (s : Bytes) : Outcome Scheme := ofToken s

end Scheme

end SipCodec
