import SipCodec.Net.IpAddr
import SipCodec.Net.DomainName
import SipCodec.Grammar.Rules
import SipCodec.Text.Case
import SipCodec.Text.Literal
import SipCodec.Text.Numeral

/-! Hosts and ports of URIs and Via headers. A host is an IP address when its text reads as one
(after one pair of brackets is taken off), else a domain name kept as written; the empty name
is the absent host. IPv6 addresses are written in brackets, IPv4 addresses carried in IPv6 ones
are kept as IPv4. -/

namespace SipCodec

/-- A host: an address, or a name (empty when there is no host). -/
inductive Host where
  | ip (addr : IpAddr)
  | name (text : Bytes)
  deriving DecidableEq, Inhabited

namespace Host

/-- The host a text stands for; this never fails. -/
def ofText (s : Bytes) : Host :=
  let inner :=
    match s with
    | 91 :: rest@(_ :: _) => if rest.getLast? == some 93 then rest.dropLast else s
    | _ => s
  match IpAddr.read? inner with
  | some addr => .ip addr.unmap
  | none => .name s

def isIp : Host → Bool
  | .ip _ => true
  | .name _ => false

/-- The address, for a host that is one. -/
def addr? : Host → Option IpAddr
  | .ip a => some a
  | .name _ => none

/-- The domain name, for a host that is a non-empty name. -/
def domain? : Host → Option Bytes
  | .ip _ => none
  | .name t => if t.isEmpty then none else some t

def isZero : Host → Bool
  | .ip _ => false
  | .name t => t.isEmpty

def render : Host → Bytes
  | .ip a => if a.isV6 then [91] ++ a.render ++ [93] else a.render
  | .name t => t

/-- Addresses are equal when they are the same address and zone; names compare without regard
to case; an address never equals a name. -/
def equal : Host → Host → Bool
  | .ip a, .ip b => a == b
  | .name a, .name b => Bytes.eqFold a b
  | _, _ => false

/-- Addresses are valid; names when they pass the length rules of domain names. -/
def isValid : Host → Bool
  | .ip _ => true
  | .name t => DomainName.isValid t

end Host

/-- A host with an optional port. -/
structure HostPort where
  host : Host
  port : Option Nat
  deriving DecidableEq, Inhabited

namespace HostPort

def empty : HostPort := ⟨.name [], none⟩

def render (hp : HostPort) : Bytes :=
  hp.host.render ++ (match hp.port with
    | some p => 58 :: Bytes.ofNat p
    | none => [])

def portOr (hp : HostPort) (default : Nat) : Nat := hp.port.getD default

def equal (a b : HostPort) : Bool := a.port == b.port && a.host.equal b.host

def isValid (hp : HostPort) : Bool := hp.host.isValid

def isZero (hp : HostPort) : Bool := hp.host.isZero && hp.port.isNone

/-- The texts of a host and its port, as they stand in the input. -/
structure Token where
  host : Bytes
  port : Option Bytes
  deriving Inhabited

/-- The host and port named in a matched `hostport`. -/
def Token.ofNode (n : Grammar.Node) : Token :=
  { host := ((n.find? "host").map Grammar.Node.text).getD []
    port := (n.find? "port").map Grammar.Node.text }

/-- Cuts a host and port at the front. A colon right after them starts a port that has no
digits. -/
def tokenize (s : Bytes) : Outcome (Bytes × Token) :=
  match Grammar.matchRule Grammar.hostport s with
  | .error _ =>
    if s.head? == some 91 then .error (.tokenizeText "unterminated IPv6 reference")
    else .error (.tokenizeText "host expected")
  | .ok n =>
    let rest := s.drop n.text.length
    if rest.head? == some 58 then .error (.tokenizeText "port expected")
    else .ok (rest, Token.ofNode n)

/-- Reads a host and port from their texts: the host must not be empty, a bracketed host must
be an IPv6 address, and the port is a 16-bit decimal. -/
def ofToken (tok : Token) : Outcome HostPort := do
  if tok.host.isEmpty then throw (.withText .parse "empty host")
  let host := Host.ofText tok.host
  if tok.host.head? == some 91 && !host.isIp then
    throw (.detail .parse (lit "invalid IPv6 reference " ++ Literal.quote tok.host))
  match tok.port with
  | none => return ⟨host, none⟩
  | some p => return ⟨host, some (← Numeral.decimal 16 p)⟩

/-- Reads a whole text as a host and port. -/
def parse (s : Bytes) : Outcome HostPort := do
  let (rest, tok) ← tokenize s
  if !rest.isEmpty then throw Fault.trailing
  ofToken tok

end HostPort

end SipCodec
