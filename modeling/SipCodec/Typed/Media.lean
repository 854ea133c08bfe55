import SipCodec.Typed.Scan
import SipCodec.Uri.Param

/-! Media types (`Content-Type`, `Accept`), dispositions (`Content-Disposition`), accepted
encodings and languages (`Accept-Encoding`, `Accept-Language`), and the token-with-parameters
form of `Event` and `Subscription-State`. Types, subtypes and tokens compare without regard to
case. -/

namespace SipCodec

/-- A media type: type, subtype and parameters. -/
structure MediaType where
  type : Bytes
  subtype : Bytes
  params : List Param
  deriving DecidableEq, Inhabited

namespace MediaType

def charset? (m : MediaType) : Option Bytes := Params.value? m.params (lit "charset")

def render (m : MediaType) : Bytes := m.type ++ [47] ++ m.subtype ++ Params.render m.params

def equal (a b : MediaType) : Bool :=
  Bytes.eqFold a.type b.type && Bytes.eqFold a.subtype b.subtype && Params.equal a.params b.params

def isValid (m : MediaType) : Bool := Lexical.isToken m.type && Lexical.isToken m.subtype

def isZero (m : MediaType) : Bool := m.type.isEmpty && m.subtype.isEmpty && m.params.isEmpty

/-- The texts of a media type. -/
structure Token where
  type : Bytes
  subtype : Bytes
  params : List Param.Token

def tokenize : Scan.Cut Token := fun s => do
  let some (type, rest) := Lexical.cutToken s | throw (.tokenizeText "media type expected")
  let some rest := Lexical.cutByte rest 47 | throw (.tokenizeText "\"/\" expected")
  let some (subtype, rest) := Lexical.cutToken rest | throw (.tokenizeText "media subtype expected")
  let (rest, params) ← Params.tokenize rest
  return (rest, ⟨type, subtype, params⟩)

def ofToken (t : Token) : Outcome MediaType := do
  return ⟨t.type, t.subtype, ← Params.ofTokens t.params⟩

def parse (s : Bytes) : Outcome MediaType := Scan.value s tokenize ofToken

def renderList (l : List MediaType) : Bytes := Bytes.joinWith (lit ", ") (l.map render)

def equalList (a b : List MediaType) : Bool :=
  a.length == b.length && (a.zip b).all fun (x, y) => x.equal y

/-- Reads an `Accept` list, which may be empty. -/
def parseList (s : Bytes) : Outcome (List MediaType) :=
  Scan.value s (Scan.optList tokenize) (·.mapM ofToken)

end MediaType

/-- A token with parameters: a disposition type, an event package, a subscription state, an
accepted encoding or language. -/
structure Tagged where
  token : Bytes
  params : List Param
  deriving DecidableEq, Inhabited

namespace Tagged

def render (t : Tagged) : Bytes := t.token ++ Params.render t.params

def equal (a b : Tagged) : Bool := Bytes.eqFold a.token b.token && Params.equal a.params b.params

def isValid (t : Tagged) : Bool := Lexical.isToken t.token

/-- Cuts a token and its parameters; `what` names the token in the failure. -/
def tokenizeWith (what : String) : Scan.Cut (Bytes × List Param.Token) := fun s => do
  let some (tok, rest) := Lexical.cutToken s | throw (.tokenizeText what)
  let (rest, params) ← Params.tokenize rest
  return (rest, (tok, params))

def ofToken (t : Bytes × List Param.Token) : Outcome Tagged := do
  return ⟨t.1, ← Params.ofTokens t.2⟩

def parseWith (what : String) (s : Bytes) : Outcome Tagged :=
  Scan.value s (tokenizeWith what) ofToken

/-- The `q` parameter read as a double: 1 when it is missing or unreadable. -/
def quality (t : Tagged) : BinaryFloat :=
  match (Params.value? t.params (lit "q")).bind (BinaryFloat.read? .double) with
  | some q => q
  | none => .finite false 1 0

def renderList (l : List Tagged) : Bytes := Bytes.joinWith (lit ", ") (l.map render)

def equalList (a b : List Tagged) : Bool :=
  a.length == b.length && (a.zip b).all fun (x, y) => x.equal y

/-- Reads a list of accepted values, which may be empty. -/
def parseList (s : Bytes) : Outcome (List Tagged) :=
  Scan.value s (Scan.optList (tokenizeWith "token expected")) (·.mapM ofToken)

end Tagged

end SipCodec
