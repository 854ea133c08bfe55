import SipCodec.Scalar.Scheme
import SipCodec.Uri.Host
import SipCodec.Uri.Param

/-! URIs as SIP uses them (RFC 3261 §19.1). A SIP or SIPS URI, or one without a scheme, names a
host, perhaps with a user part, and may carry a path; a URI of another scheme is its scheme and
an opaque path. Both may carry parameters and headers (`?name=value&…`). -/

namespace SipCodec

/-- A URI. The scheme is held in lower case; user part, header names and values are held
unescaped. -/
structure Uri where
  scheme : Option Scheme
  userinfo : Option Userinfo
  hostPort : HostPort
  path : Bytes
  params : List Param
  headers : List (Bytes × Bytes)
  deriving DecidableEq, Inhabited

namespace Uri

def empty : Uri := ⟨none, none, HostPort.empty, [], [], []⟩

/-- Whether the scheme is `sip`, `sips` or absent: the URI names a host. -/
def usesHost (scheme : Option Scheme) : Bool :=
  match scheme with
  | none => true
  | some s => s == Scheme.sip || s == Scheme.sips

def isSip (u : Uri) : Bool := usesHost u.scheme

def isSecured (u : Uri) : Bool := u.scheme == some Scheme.sips

/-- The scheme's name, empty when there is none. -/
def schemeName (u : Uri) : Bytes := (u.scheme.map Scheme.name).getD []

def render (u : Uri) : Bytes :=
  (match u.scheme with
    | some s => Bytes.toLower s.name ++ [58]
    | none => []) ++
  (if u.isSip && !u.hostPort.isZero then
    (match u.userinfo with
      | some a => a.render ++ [64]
      | none => []) ++ u.hostPort.render
  else []) ++
  u.path ++ Params.render u.params ++
  (u.headers.zipIdx.flatMap fun ((name, value), i) =>
    (if i == 0 then [63] else [38]) ++ Percent.encode Percent.isHeaderChar name ++ [61] ++
      Percent.encode Percent.isHeaderChar value)

/-- Schemes compare without regard to case, as do header names; the user part, path and header
values compare exactly, hosts and parameters by their own rules. -/
def equal (a b : Uri) : Bool :=
  Bytes.eqFold a.schemeName b.schemeName && a.userinfo == b.userinfo &&
    a.hostPort.equal b.hostPort && a.path == b.path && Params.equal a.params b.params &&
    a.headers.length == b.headers.length &&
    (a.headers.zip b.headers).all fun ((n, v), (n', v')) => Bytes.eqFold n n' && v == v'

/-- A URI is valid when its scheme is well formed and, for a SIP URI, its host is valid (or,
without scheme and host, its path is absolute); another URI needs a path. -/
def isValid (u : Uri) : Bool :=
  (match u.scheme with
    | some s => s.name.isEmpty || s.isValid
    | none => true) &&
  if u.isSip then
    if u.hostPort.isZero then u.scheme.isNone && u.path.head? == some 47
    else u.hostPort.isValid && (match u.userinfo with
      | some a => a.isValid
      | none => true)
  else !u.path.isEmpty

def isZero (u : Uri) : Bool :=
  u.scheme.isNone && u.userinfo.isNone && u.hostPort.isZero && u.path.isEmpty &&
    u.params.isEmpty && u.headers.isEmpty

/-- The transport named by the `transport` parameter, in upper case. -/
def transport? (u : Uri) : Option Bytes := (Params.get? u.params (lit "transport")).bind Param.transport?

def userParam? (u : Uri) : Option Bytes := Params.value? u.params (lit "user")

/-- The method named by the `method` parameter, in upper case. -/
def method? (u : Uri) : Option Bytes := (Params.value? u.params (lit "method")).map Bytes.toUpper

def maddr? (u : Uri) : Option Host := (Params.value? u.params (lit "maddr")).map Host.ofText

/-- The `ttl` parameter, when it is a decimal of at most 255. -/
def ttl? (u : Uri) : Option Nat :=
  match (Params.get? u.params (lit "ttl")).bind Param.uint? with
  | some v => if v ≤ 255 then some v else none
  | none => none

def lr (u : Uri) : Bool := Params.has u.params (lit "lr")

end Uri

end SipCodec
