import SipCodec.Typed.Scan
import SipCodec.Uri.WithParams
import SipCodec.Scalar.Version
import SipCodec.Scalar.Transport

/-! Hops of the `Via` header (RFC 3261 §20.42): the protocol version, the transport, the host
and port the request was sent by, and parameters such as `branch`, `received` and `rport`. A
branch that starts with `z9hG4bK` marks a hop that follows RFC 3261. -/

namespace SipCodec

/-- One hop of a `Via` header. The sent-by host is held as a URI without scheme. -/
structure ViaHop where
  version : Version
  transport : Transport
  uri : Uri
  params : List Param
  deriving DecidableEq, Inhabited

namespace ViaHop

/-- The prefix of branches made by implementations of RFC 3261. -/
def magicCookie : Bytes := lit "z9hG4bK"

def sentBy (h : ViaHop) : HostPort := h.uri.hostPort

def branch? (h : ViaHop) : Option Bytes := Params.value? h.params (lit "branch")

def isRfc3261 (h : ViaHop) : Bool :=
  match h.branch? with
  | some b => magicCookie.isPrefixOf b
  | none => false

def received? (h : ViaHop) : Option Host := (Params.value? h.params (lit "received")).map Host.ofText

/-- The `rport` parameter; without a number it counts as 0. -/
def rport? (h : ViaHop) : Option Nat :=
  (Params.get? h.params (lit "rport")).map fun p => (p.uint?.getD 0) % 65536

def maddr? (h : ViaHop) : Option Host := (Params.value? h.params (lit "maddr")).map Host.ofText

/-- The `ttl` parameter read as a 32-bit number and cut to its low eight bits. -/
def ttl? (h : ViaHop) : Option Nat :=
  ((Params.get? h.params (lit "ttl")).bind Param.uint?).map (· % 256)

def render (h : ViaHop) : Bytes :=
  h.version.render ++ [47] ++ h.transport.name ++ [32] ++ h.uri.render ++ Params.render h.params

def equal (a b : ViaHop) : Bool :=
  a.version == b.version && a.transport.equal b.transport && a.uri.equal b.uri &&
    Params.equal a.params b.params

def isValid (h : ViaHop) : Bool := h.version.isValid && h.transport.isValid && h.sentBy.isValid

/-- The texts of a hop as they stand in the input. -/
structure Token where
  version : Version.Token
  transport : Bytes
  uri : Uri.Token
  params : List Param.Token

/-- Cuts a hop at the front. The sent-by part must be a bare host. -/
def tokenize : Scan.Cut Token := fun s => do
  let (version, rest) ← Version.tokenizeSent s
  let some rest := Lexical.cutByte rest 47 | throw (.tokenizeText "\"/\" expected")
  let (transport, rest) ← Transport.tokenize rest
  let some rest := Scan.cutLws rest | throw (.tokenizeText "white space expected")
  let (rest, uri) ← Uri.tokenizeNoParams rest
  if uri.scheme.isSome || uri.userinfo.isSome || uri.path.isSome then
    throw (.tokenizeText "sent-by expected")
  let (rest, params) ← Params.tokenize rest
  return (rest, ⟨version, transport, uri, params⟩)

def ofToken (tok : Token) : Outcome ViaHop := do
  return ⟨← Version.ofToken tok.version, ← Transport.ofToken tok.transport, ← Uri.ofToken tok.uri,
    ← Params.ofTokens tok.params⟩

def parse (s : Bytes) : Outcome ViaHop := Scan.value s tokenize ofToken

def renderList (l : List ViaHop) : Bytes := Bytes.joinWith (lit ", ") (l.map render)

def equalList (a b : List ViaHop) : Bool :=
  a.length == b.length && (a.zip b).all fun (x, y) => x.equal y

def parseList (s : Bytes) : Outcome (List ViaHop) :=
  Scan.value s (Scan.list tokenize) (·.mapM ofToken)

end ViaHop

end SipCodec
