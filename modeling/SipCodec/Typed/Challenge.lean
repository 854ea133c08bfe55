import SipCodec.Typed.AuthParams

/-! Challenges of `WWW-Authenticate` and `Proxy-Authenticate` (RFC 3261 §22.4, RFC 7616), and
the `Authentication-Info` header. A digest challenge needs `realm` and `nonce`; its `qop`
lists the qualities of protection the server offers, and `stale` and `userhash` are
booleans. -/

namespace SipCodec

/-- A challenge: a scheme, the digest fields (empty unless the scheme is `Digest`) and the
other parameters. -/
structure Challenge where
  scheme : Bytes
  realm : Bytes
  domain : Option Bytes
  nonce : Bytes
  opaqueValue : Option Bytes
  stale : Option Bool
  algorithm : Option Algorithm
  qop : List Qop
  charset : Option Bytes
  userhash : Option Bool
  params : List AuthParam
  deriving DecidableEq, Inhabited

namespace Challenge

def isDigest (c : Challenge) : Bool := isDigestScheme c.scheme

def supportsQop (c : Challenge) (q : Qop) : Bool := c.qop.any (·.equal q)

private def boolText (b : Bool) : Bytes := if b then lit "true" else lit "false"

/-- The parameters written after the scheme, each as written: the digest fields of a digest
challenge in their order, then the other parameters. -/
def items (c : Challenge) : List Bytes :=
  (if c.isDigest then
    [AuthParam.quotedItem (lit "realm") c.realm] ++
    (c.domain.map (AuthParam.quotedItem (lit "domain"))).toList ++
    [AuthParam.quotedItem (lit "nonce") c.nonce] ++
    (c.opaqueValue.map (AuthParam.quotedItem (lit "opaque"))).toList ++
    (c.stale.map fun b => AuthParam.tokenItem (lit "stale") (boolText b)).toList ++
    (c.algorithm.map fun a => AuthParam.tokenItem (lit "algorithm") a.name).toList ++
    (match c.qop with
      | [] => []
      | [q] => [AuthParam.tokenItem (lit "qop") q.name]
      | qs => [AuthParam.quotedItem (lit "qop") (Bytes.joinWith [44] (qs.map Qop.name))]) ++
    (c.charset.map (AuthParam.tokenItem (lit "charset"))).toList ++
    (c.userhash.map fun b => AuthParam.tokenItem (lit "userhash") (boolText b)).toList
  else []) ++ c.params.map AuthParam.render

/-- Whether the challenge is written as its scheme alone: not digest, and with no parameters. -/
def isBare (c : Challenge) : Bool := !c.isDigest && c.params.isEmpty

def render (c : Challenge) : Bytes :=
  if c.isBare then c.scheme else c.scheme ++ [32] ++ AuthParam.joined c.items

def equal (a b : Challenge) : Bool :=
  Bytes.eqFold a.scheme b.scheme && a.realm == b.realm && a.domain == b.domain &&
    a.nonce == b.nonce && a.opaqueValue == b.opaqueValue && a.stale == b.stale &&
    (match a.algorithm, b.algorithm with
      | some x, some y => x.equal y
      | none, none => true
      | _, _ => false) &&
    a.qop.length == b.qop.length && (a.qop.zip b.qop).all (fun (x, y) => x.equal y) &&
    a.charset == b.charset && a.userhash == b.userhash && AuthParam.equalList a.params b.params

def isValid (c : Challenge) : Bool :=
  !c.scheme.isEmpty && (!c.isDigest || (!c.realm.isEmpty && !c.nonce.isEmpty))

def empty (scheme : Bytes) : Challenge :=
  ⟨scheme, [], none, [], none, none, none, [], none, none, []⟩

/-- Takes one digest parameter into the challenge, with the names seen. -/
def take (acc : Challenge × List Bytes) (tok : AuthParam.Token) :
    Outcome (Challenge × List Bytes) := do
  let (c, seen) := acc
  let name := Bytes.toLower tok.name
  let (v, _) := tok.read
  let c' : Option Challenge ←
    if name == lit "realm" then pure (some { c with realm := v })
    else if name == lit "domain" then pure (some { c with domain := some v })
    else if name == lit "nonce" then pure (some { c with nonce := v })
    else if name == lit "opaque" then pure (some { c with opaqueValue := some v })
    else if name == lit "stale" then
      let b ← readBool name v
      pure (some { c with stale := some b })
    else if name == lit "algorithm" then pure (some { c with algorithm := some (Algorithm.ofText v) })
    else if name == lit "qop" then
      let qs := ((Bytes.splitOnByte 44 v).map Bytes.trimSpace).filter (!·.isEmpty)
      pure (some { c with qop := c.qop ++ qs.map Qop.ofText })
    else if name == lit "charset" then pure (some { c with charset := some v })
    else if name == lit "userhash" then
      let b ← readBool name v
      pure (some { c with userhash := some b })
    else pure none
  match c' with
  | some c' => return (c', name :: seen)
  | none => return ({ c with params := c.params ++ [tok.toParam] }, seen)

def ofToken (tok : AuthToken) : Outcome Challenge := do
  if !isDigestScheme tok.scheme then
    return { empty tok.scheme with params := tok.params.map AuthParam.Token.toParam }
  let (c, seen) ← tok.params.foldlM take (empty tok.scheme, [])
  checkRequired seen ["realm", "nonce"]
  return c

def parse (s : Bytes) : Outcome Challenge := Scan.value s AuthToken.tokenize ofToken

end Challenge

/-- The `Authentication-Info` header: the next nonce, the response authentication and the
qualities of protection of the last exchange. -/
structure AuthInfo where
  nextNonce : Bytes
  qop : Option Qop
  rspAuth : Bytes
  cnonce : Bytes
  nc : Nat
  params : List AuthParam
  deriving DecidableEq, Inhabited

namespace AuthInfo

/-- The parameters written, each as written: the fields that are set, then the others. -/
def items (a : AuthInfo) : List Bytes :=
  (if a.nextNonce.isEmpty then [] else [AuthParam.quotedItem (lit "nextnonce") a.nextNonce]) ++
  (a.qop.map fun q => AuthParam.tokenItem (lit "qop") q.name).toList ++
  (if a.rspAuth.isEmpty then [] else [AuthParam.quotedItem (lit "rspauth") a.rspAuth]) ++
  (if a.cnonce.isEmpty then [] else [AuthParam.quotedItem (lit "cnonce") a.cnonce]) ++
  (if a.nc > 0 then [AuthParam.tokenItem (lit "nc") (nonceCountText a.nc)] else []) ++
  a.params.map AuthParam.render

def render (a : AuthInfo) : Bytes := AuthParam.joined a.items

def equal (a b : AuthInfo) : Bool :=
  a.nextNonce == b.nextNonce &&
    (match a.qop, b.qop with
      | some x, some y => x.equal y
      | none, none => true
      | _, _ => false) &&
    a.rspAuth == b.rspAuth && a.cnonce == b.cnonce && a.nc == b.nc &&
    AuthParam.equalList a.params b.params

def isValid (a : AuthInfo) : Bool :=
  !a.nextNonce.isEmpty || a.qop.isSome || !a.rspAuth.isEmpty || !a.params.isEmpty

def take (a : AuthInfo) (tok : AuthParam.Token) : Outcome AuthInfo := do
  let name := Bytes.toLower tok.name
  let (v, _) := tok.read
  if name == lit "nextnonce" then return { a with nextNonce := v }
  else if name == lit "qop" then return { a with qop := some (Qop.ofText v) }
  else if name == lit "rspauth" then return { a with rspAuth := v }
  else if name == lit "cnonce" then return { a with cnonce := v }
  else if name == lit "nc" then return { a with nc := ← readNonceCount v }
  else return { a with params := a.params ++ [tok.toParam] }

def parse (s : Bytes) : Outcome AuthInfo :=
  Scan.value s (Scan.list AuthParam.tokenize) (·.foldlM take ⟨[], none, [], [], 0, []⟩)

end AuthInfo

end SipCodec
