import SipCodec.Typed.Scan
import SipCodec.Text.Literal
import SipCodec.Text.Space
import SipCodec.Auth.Algorithm

/-! Parameters of authentication headers (RFC 3261 §25.1, RFC 7616): `name=token` or
`name="quoted"`, separated by commas, after a scheme such as `Digest`. Values are held with
their quotes removed and their quoted pairs resolved; whether a value was quoted is kept so
that it is written back the same way. -/

namespace SipCodec

/-- An authentication parameter. -/
structure AuthParam where
  name : Bytes
  value : Bytes
  quoted : Bool
  deriving DecidableEq, Inhabited

namespace AuthParam

def render (p : AuthParam) : Bytes :=
  p.name ++ [61] ++ (if p.quoted then Lexical.quote p.value else p.value)

/-- Names compare without regard to case, values exactly. -/
def equal (a b : AuthParam) : Bool := Bytes.eqFold a.name b.name && a.value == b.value

def equalList (a b : List AuthParam) : Bool :=
  a.length == b.length && (a.zip b).all fun (x, y) => x.equal y

/-- The texts of a parameter as they stand in the input, the value with its quotes. -/
structure Token where
  name : Bytes
  value : Bytes

/-- Whether an octet ends an unquoted value. -/
def endsValue (c : UInt8) : Bool := c == 44 || c == 32 || c == 9 || c == 13 || c == 10

/-- Cuts one parameter at the front. -/
def tokenize : Scan.Cut Token := fun s => do
  let some (name, rest) := Lexical.cutToken s | throw (.tokenizeText "auth parameter name expected")
  let some rest := Lexical.cutByte rest 61 | throw (.tokenizeText "\"=\" expected")
  match rest with
  | 34 :: _ =>
    match Lexical.cutQuoted rest with
    | some (v, r) => return (r, ⟨name, v⟩)
    | none => throw (.tokenizeText "unterminated quoted string")
  | _ =>
    let v := rest.takeWhile (!endsValue ·)
    if v.isEmpty then throw (.tokenizeText "auth parameter value expected")
    return (rest.drop v.length, ⟨name, v⟩)

/-- The value of a parameter and whether it was quoted. -/
def Token.read (t : Token) : Bytes × Bool :=
  if Lexical.isQuoted t.value then (Lexical.unquote t.value, true) else (t.value, false)

/-- The parameter as it was written. -/
def Token.toParam (t : Token) : AuthParam :=
  let (v, q) := t.read
  ⟨t.name, v, q⟩

/-- Writes parameters as `name=value` joined by a comma and a blank. -/
def joined (items : List Bytes) : Bytes := Bytes.joinWith (lit ", ") items

def tokenItem (name value : Bytes) : Bytes := name ++ [61] ++ value

def quotedItem (name value : Bytes) : Bytes := name ++ [61] ++ Lexical.quote value

end AuthParam

/-- A scheme and its parameters, as cut from an authentication header. -/
structure AuthToken where
  scheme : Bytes
  params : List AuthParam.Token

namespace AuthToken

/-- Cuts a scheme and, after white space, its comma-separated parameters. -/
def tokenize : Scan.Cut AuthToken := fun s => do
  let some (scheme, rest) := Lexical.cutToken (Lexical.skipLws s)
    | throw (.tokenizeText "auth scheme expected")
  if Scan.isEmptyValue rest then return (rest, ⟨scheme, []⟩)
  let some rest := Scan.cutLws rest | throw (.tokenizeText "white space expected")
  let (rest, params) ← Scan.list AuthParam.tokenize rest
  return (rest, ⟨scheme, params⟩)

end AuthToken

/-- Whether a scheme is `Digest`, in any case. -/
def isDigestScheme (s : Bytes) : Bool := Bytes.eqFold s (lit "Digest")

/-- The digest fields that a header needs but lacks, as a parameter failure. -/
def checkRequired (seen : List Bytes) (names : List String) : Outcome Unit :=
  let missing := names.filter fun n => !seen.contains (lit n)
  if missing.isEmpty then .ok ()
  else .error (.detail .invalidParam (lit "missing " ++ Bytes.joinWith (lit ", ") (missing.map lit)))

/-- Reads `true` or `false` in any case. -/
def readBool (name v : Bytes) : Outcome Bool :=
  if Bytes.eqFold v (lit "true") then .ok true
  else if Bytes.eqFold v (lit "false") then .ok false
  else .error (.detail .parse (lit "invalid " ++ name ++ lit " value " ++ Literal.quote v))

/-- Reads a nonce count: at most eight hex digits. -/
def readNonceCount (v : Bytes) : Outcome Nat :=
  match Numeral.parseUnsigned 16 32 v with
  | .ok n => .ok n
  | .error _ => .error (.detail .parse (lit "invalid nonce count " ++ Literal.quote v))

/-- A nonce count as eight lower-case hex digits (more when it does not fit). -/
def nonceCountText (n : Nat) : Bytes :=
  let digits := Bytes.hexText n
  List.replicate (8 - digits.length) 48 ++ digits

/-- The quality of protection a response was computed with, its client nonce and count. -/
structure AuthQop where
  qop : Qop
  cnonce : Bytes
  nc : Nat
  deriving DecidableEq, Inhabited

namespace AuthQop

def equal (a b : AuthQop) : Bool := a.qop.equal b.qop && a.cnonce == b.cnonce && a.nc == b.nc

def ncText (q : AuthQop) : Bytes := nonceCountText q.nc

end AuthQop

end SipCodec
