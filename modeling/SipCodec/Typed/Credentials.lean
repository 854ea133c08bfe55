import SipCodec.Typed.AuthParams
import SipCodec.Uri.Reader

/-! Credentials of `Authorization` and `Proxy-Authorization` (RFC 3261 §22.4, RFC 7616).
Digest credentials have named fields; `username`, `realm`, `nonce`, `uri` and `response` are
required, and `cnonce` and `nc` come with `qop` or not at all. Other schemes keep their
parameters as written. -/

namespace SipCodec

/-- Credentials: a scheme, the digest fields (empty unless the scheme is `Digest`) and the
other parameters. -/
structure Credentials where
  scheme : Bytes
  username : Bytes
  realm : Bytes
  nonce : Bytes
  uri : Uri
  rawUri : Bytes
  response : Bytes
  algorithm : Option Algorithm
  opaqueValue : Option Bytes
  qop : Option AuthQop
  params : List AuthParam
  deriving DecidableEq, Inhabited

namespace Credentials

def isDigest (c : Credentials) : Bool := isDigestScheme c.scheme

/-- The URI the digest was computed over: as written, else the rendered URI. -/
def digestUri (c : Credentials) : Bytes := if c.rawUri.isEmpty then c.uri.render else c.rawUri

/-- The parameters written after the scheme, each as written: the digest fields of digest
credentials in their order, then the other parameters. -/
def items (c : Credentials) : List Bytes :=
  (if c.isDigest then
    [AuthParam.quotedItem (lit "username") c.username,
      AuthParam.quotedItem (lit "realm") c.realm,
      AuthParam.quotedItem (lit "nonce") c.nonce,
      AuthParam.quotedItem (lit "uri") c.digestUri,
      AuthParam.quotedItem (lit "response") c.response] ++
    (match c.algorithm with
      | some a => [AuthParam.tokenItem (lit "algorithm") a.name]
      | none => []) ++
    (match c.qop with
      | some q => [AuthParam.quotedItem (lit "cnonce") q.cnonce,
          AuthParam.tokenItem (lit "nc") q.ncText, AuthParam.tokenItem (lit "qop") q.qop.name]
      | none => []) ++
    (match c.opaqueValue with
      | some o => [AuthParam.quotedItem (lit "opaque") o]
      | none => [])
  else []) ++ c.params.map AuthParam.render

/-- Whether the credentials are written as their scheme alone: not digest, and with no
parameters. -/
def isBare (c : Credentials) : Bool := !c.isDigest && c.params.isEmpty

def render (c : Credentials) : Bytes :=
  if c.isBare then c.scheme else c.scheme ++ [32] ++ AuthParam.joined c.items

def equal (a b : Credentials) : Bool :=
  Bytes.eqFold a.scheme b.scheme && a.username == b.username && a.realm == b.realm &&
    a.nonce == b.nonce && a.uri.equal b.uri && a.response == b.response &&
    (match a.algorithm, b.algorithm with
      | some x, some y => x.equal y
      | none, none => true
      | _, _ => false) &&
    a.opaqueValue == b.opaqueValue &&
    (match a.qop, b.qop with
      | some x, some y => x.equal y
      | none, none => true
      | _, _ => false) &&
    AuthParam.equalList a.params b.params

def isValid (c : Credentials) : Bool :=
  !c.scheme.isEmpty &&
    (!c.isDigest ||
      (!c.username.isEmpty && !c.realm.isEmpty && !c.nonce.isEmpty && !c.response.isEmpty &&
        (match c.qop with
          | some q => !q.cnonce.isEmpty
          | none => true)))

/-- The digest fields read so far, with the names seen. -/
structure Fields where
  cred : Credentials
  qop : Qop
  cnonce : Bytes
  nc : Bytes
  seen : List Bytes

/-- Takes one digest parameter into the fields. -/
def Fields.take (f : Fields) (tok : AuthParam.Token) : Outcome Fields := do
  let name := Bytes.toLower tok.name
  let (v, _) := tok.read
  let c := f.cred
  let f' : Option Fields ←
    if name == lit "username" then pure (some { f with cred := { c with username := v } })
    else if name == lit "realm" then pure (some { f with cred := { c with realm := v } })
    else if name == lit "nonce" then pure (some { f with cred := { c with nonce := v } })
    else if name == lit "uri" then
      match Uri.parse v with
      | .ok u => pure (some { f with cred := { c with uri := u, rawUri := v } })
      | .error e => throw (Fault.wrapIn .parse e)
    else if name == lit "response" then pure (some { f with cred := { c with response := v } })
    else if name == lit "algorithm" then
      pure (some { f with cred := { c with algorithm := some (Algorithm.ofText v) } })
    else if name == lit "opaque" then pure (some { f with cred := { c with opaqueValue := some v } })
    else if name == lit "qop" then pure (some { f with qop := Qop.ofText v })
    else if name == lit "cnonce" then pure (some { f with cnonce := v })
    else if name == lit "nc" then pure (some { f with nc := v })
    else pure none
  match f' with
  | some f' => return { f' with seen := name :: f'.seen }
  | none => return { f with cred := { c with params := c.params ++ [tok.toParam] } }

def empty (scheme : Bytes) : Credentials :=
  ⟨scheme, [], [], [], Uri.empty, [], [], none, none, none, []⟩

/-- Reads credentials from a scheme and its parameters. -/
def ofToken (tok : AuthToken) : Outcome Credentials := do
  if !isDigestScheme tok.scheme then
    return { empty tok.scheme with params := tok.params.map AuthParam.Token.toParam }
  let f ← tok.params.foldlM Fields.take ⟨empty tok.scheme, ⟨[]⟩, [], [], []⟩
  checkRequired f.seen ["username", "realm", "nonce", "uri", "response"]
  if f.seen.contains (lit "qop") then
    checkRequired f.seen ["cnonce", "nc"]
    let n ← readNonceCount f.nc
    return { f.cred with qop := some ⟨f.qop, f.cnonce, n⟩ }
  else if f.seen.contains (lit "cnonce") || f.seen.contains (lit "nc") then
    throw (.withText .invalidParam "cnonce and nc require qop")
  else return f.cred

def parse (s : Bytes) : Outcome Credentials := Scan.value s AuthToken.tokenize ofToken

end Credentials

end SipCodec
