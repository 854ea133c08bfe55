import SipCodec.Text.Lexical
import SipCodec.Text.Case
import SipCodec.Text.Literal
import SipCodec.Error

/-! Request methods. A method is a token; the fourteen methods of the core specifications are
known, and a known method read in any case is stored in upper case. Methods compare ignoring
case. -/

namespace SipCodec

/-- A request method as written on the request line. -/
structure Method where
  name : Bytes
  deriving DecidableEq, Inhabited

namespace Method

def known : List Bytes :=
  ["ACK", "BYE", "CANCEL", "INFO", "INVITE", "MESSAGE", "NOTIFY", "OPTIONS", "PRACK", "PUBLISH",
    "REFER", "REGISTER", "SUBSCRIBE", "UPDATE"].map lit

def invite : Method := ⟨lit "INVITE"⟩

/-- Known methods are matched exactly, as they are stored upper-case. -/
def isKnown (m : Method) : Bool := known.contains m.name

def isValid (m : Method) : Bool := Lexical.isToken m.name

def equal (a b : Method) : Bool := Bytes.eqFold a.name b.name

def toUpper (m : Method) : Bytes := Bytes.toUpper m.name

def toLower (m : Method) : Bytes := Bytes.toLower m.name

/-- Cuts the method token at the front of a text. -/
def tokenize (s : Bytes) : Outcome (Bytes × Bytes) :=
  match Lexical.cutToken s with
  | some r => .ok r
  | none => .error (.tokenizeText "method token expected")

/-- A method from its token: a known method in any case becomes its upper-case form. -/
def ofToken (tok : Bytes) : Outcome Method :=
  if !Lexical.isToken tok then
    .error (.detail .parse (lit "invalid method " ++ Literal.quote tok))
  else match known.find? (Bytes.eqFoldAscii · tok) with
    | some k => .ok ⟨k⟩
    | none => .ok ⟨tok⟩

/-- Reads a whole text as a method. -/
def parse (s : Bytes) : Outcome Method := ofToken s

end Method

end SipCodec
