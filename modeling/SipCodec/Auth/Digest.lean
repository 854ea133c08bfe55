import SipCodec.Typed.Header
import SipCodec.Hash.Md5
import SipCodec.Hash.Sha256
import SipCodec.Hash.Sha512

/-! Digest access authentication (RFC 2617, RFC 7616): the response a client sends and a
server checks. With `H` the hash of the algorithm, written as lower-case hex,

* `HA1 = H(username:realm:password)`, and for `-sess` algorithms
  `HA1 = H(H(username:realm:password):nonce:cnonce)`;
* `HA2 = H(method:uri)`, and for `auth-int` `HA2 = H(method:uri:H(""))`, the hash of an empty
  body;
* the response is `H(HA1:nonce:nc:cnonce:qop:HA2)` with a quality of protection and
  `H(HA1:nonce:HA2)` without one.

Servers build the inputs from received credentials, clients from a challenge and their own
options; a client answer echoes the challenge's algorithm and opaque value. -/

namespace SipCodec

/-- The hash functions that digest authentication knows. -/
inductive HashFn where
  | md5
  | sha256
  | sha512

namespace HashFn

/-- The hash of a message. -/
def hash : HashFn → Bytes → Bytes
  | .md5 => Hash.Md5.hash
  | .sha256 => Hash.Sha256.hash
  | .sha512 => Hash.Sha512.hash

/-- The lower-case hex hash of parts joined by colons. -/
def hexOf (f : HashFn) (parts : List Bytes) : Bytes := Bytes.hexLower (f.hash (Bytes.joinWith [58] parts))

end HashFn

/-- The hash function of an algorithm: that of its base name, read in any case. -/
def Algorithm.hashFn? (a : Algorithm) : Option HashFn :=
  let b := (Algorithm.ofText a.base.name).name
  if b == lit "MD5" then some .md5
  else if b == lit "SHA-256" then some .sha256
  else if b == lit "SHA-512" then some .sha512
  else none

/-- Everything a digest response depends on. An empty algorithm name means MD5; without a
quality of protection the response has the RFC 2069 form without client nonce and count. -/
structure DigestInputs where
  username : Bytes
  password : Bytes
  realm : Bytes
  nonce : Bytes
  method : Bytes
  uri : Uri
  /-- The URI text hashed in place of the rendered `uri`, when not empty. -/
  digestUri : Bytes
  algorithm : Algorithm
  qop : Option AuthQop

/-- What a client adds to a challenge to answer it. A count of zero is the first use of the
nonce, that is 1. -/
structure AnswerOptions where
  method : Bytes
  uri : Uri
  username : Bytes
  password : Bytes
  cnonce : Bytes
  nc : Nat

namespace DigestInputs

/-- The algorithm in use: MD5 when none is named. -/
def effectiveAlgorithm (g : DigestInputs) : Algorithm :=
  if g.algorithm.name.isEmpty then Algorithm.md5 else g.algorithm

/-- Checks the quality of protection: only `auth` and `auth-int`, each with a client nonce;
`-sess` algorithms need one. -/
def check (g : DigestInputs) : Outcome Unit :=
  match g.qop with
  | some q =>
    if !(q.qop == Qop.auth || q.qop == Qop.authInt) then
      .error (.detail .invalidParam (lit "unsupported qop " ++ Literal.quote q.qop.name))
    else if q.cnonce.isEmpty then .error (.withText .invalidParam "qop requires cnonce")
    else .ok ()
  | none =>
    if g.effectiveAlgorithm.isSess then
      .error (.detail .invalidParam (g.effectiveAlgorithm.name ++ lit " requires qop with cnonce"))
    else .ok ()

/-- The hash function of the algorithm, which must be known. -/
def hashFn (g : DigestInputs) : Outcome HashFn :=
  match g.effectiveAlgorithm.hashFn? with
  | some f => .ok f
  | none => .error (.detail .unsupportedAlgorithm (Literal.quote g.algorithm.name))

/-- The response, as lower-case hex. -/
def response (g : DigestInputs) : Outcome Bytes := do
  g.check
  let f ← g.hashFn
  let cnonce := (g.qop.map (·.cnonce)).getD []
  let ha1 := f.hexOf [g.username, g.realm, g.password]
  let ha1 := if g.effectiveAlgorithm.isSess then f.hexOf [ha1, g.nonce, cnonce] else ha1
  let u := if g.digestUri.isEmpty then g.uri.render else g.digestUri
  match g.qop with
  | none => return f.hexOf [ha1, g.nonce, f.hexOf [g.method, u]]
  | some q =>
    let ha2 := if q.qop == Qop.authInt then f.hexOf [g.method, u, f.hexOf [[]]]
      else f.hexOf [g.method, u]
    return f.hexOf [ha1, g.nonce, q.ncText, q.cnonce, q.qop.name, ha2]

/-- Whether a candidate response is the computed one; hex digits compare in any case. -/
def verify (g : DigestInputs) (candidate : Bytes) : Bool :=
  match g.response with
  | .ok want => want == Bytes.lowerAscii candidate
  | .error _ => false

/-- The inputs of received digest credentials, for the method of the request that carried
them. -/
def ofCredentials (c : Credentials) (method password : Bytes) : Outcome DigestInputs :=
  if !c.isDigest then .error (.withText .invalidArgument "not Digest credentials")
  else .ok ⟨c.username, password, c.realm, c.nonce, method, c.uri, c.rawUri,
    c.algorithm.getD ⟨[]⟩, c.qop⟩

/-- The inputs of the credentials of an `Authorization` field, which must be there. -/
def ofAuthorization (c? : Option Credentials) (method password : Bytes) : Outcome DigestInputs :=
  match c? with
  | some c => ofCredentials c method password
  | none => .error (.withText .invalidArgument "nil Authorization")

/-- The response of inputs that must be there. -/
def responseOf : Option DigestInputs → Outcome Bytes
  | some g => g.response
  | none => .error (.withText .invalidArgument "nil generator")

/-- The inputs answering a digest challenge. Of the offered qualities of protection `auth` is
preferred over `auth-int`; a challenge that offers neither fails. -/
def ofChallenge (c : Challenge) (opts? : Option AnswerOptions) : Outcome DigestInputs := do
  if !c.isDigest then throw (.withText .invalidArgument "not Digest challenge")
  let some o := opts? | throw (.withText .invalidArgument "nil options")
  let nc := if o.nc == 0 then 1 else o.nc
  let qop ← if c.supportsQop Qop.auth then pure (some ⟨Qop.auth, o.cnonce, nc⟩)
    else if c.supportsQop Qop.authInt then pure (some ⟨Qop.authInt, o.cnonce, nc⟩)
    else if c.qop.isEmpty then pure none
    else throw (.detail .invalidParam (lit "no supported qop in [" ++
      Bytes.joinWith [32] (c.qop.map Qop.name) ++ lit "]"))
  let g : DigestInputs :=
    ⟨o.username, o.password, c.realm, c.nonce, o.method, o.uri, [], c.algorithm.getD ⟨[]⟩, qop⟩
  let _ ← g.hashFn
  return g

end DigestInputs

namespace Credentials

/-- Checks received digest credentials against a password. -/
def verifyWith (c : Credentials) (method password : Bytes) : Outcome Bool := do
  let g ← DigestInputs.ofCredentials c method password
  g.check
  let _ ← g.hashFn
  return g.verify c.response

/-- The credentials answering a digest challenge. They echo the challenge's algorithm and
opaque value; when the challenge asks for `userhash`, the user name is sent as the hash of
`username:realm`. -/
def answer (c : Challenge) (opts? : Option AnswerOptions) : Outcome Credentials := do
  let g ← DigestInputs.ofChallenge c opts?
  let resp ← g.response
  let f ← g.hashFn
  let hashed := c.userhash == some true
  return ⟨lit "Digest", if hashed then f.hexOf [g.username, g.realm] else g.username, g.realm,
    g.nonce, g.uri, [], resp, c.algorithm, c.opaqueValue, g.qop,
    if hashed then [⟨lit "userhash", lit "true", false⟩] else []⟩

end Credentials

/-- The two fields that carry a challenge, each answered by its own credentials field. -/
inductive ChallengeField where
  /-- `WWW-Authenticate`, from a user agent server; `Authorization` answers it. -/
  | www
  /-- `Proxy-Authenticate`, from a proxy; `Proxy-Authorization` answers it. -/
  | proxy

namespace ChallengeField

def name : ChallengeField → String
  | .www => "WWW-Authenticate"
  | .proxy => "Proxy-Authenticate"

/-- The credentials field answering a challenge of this field, which must be there. -/
def answer (f : ChallengeField) (c? : Option Challenge) (opts? : Option AnswerOptions) :
    Outcome TypedHeader := do
  let some c := c? | throw (.detail .invalidArgument (lit "nil " ++ lit f.name))
  let cred ← Credentials.answer c opts?
  return match f with
    | .www => .authorization cred
    | .proxy => .proxyAuthorization cred

end ChallengeField

end SipCodec
