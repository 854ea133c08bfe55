import SipCodec.Grammar.Rules
import SipCodec.Text.Case
import SipCodec.Text.Literal
import SipCodec.Text.Numeral
import SipCodec.Number.BinaryFloat
import SipCodec.Uri.Userinfo

/-! Parameters of URIs and header values (`;name=value`, `;name`). Twelve names have a meaning
of their own: their name is kept in lower case, their value is unquoted and unescaped and must
be of the right form; the value of any other parameter is kept as written when quoted and
unescaped otherwise. -/

namespace SipCodec

/-- The parameters with a meaning of their own; `other` stands for every other name. -/
inductive ParamKind where
  | other
  | transport
  | user
  | method
  | ttl
  | maddr
  | lr
  | branch
  | received
  | rport
  | tag
  | expires
  | q
  deriving DecidableEq, Inhabited

namespace ParamKind

def known : List ParamKind :=
  [.transport, .user, .method, .ttl, .maddr, .lr, .branch, .received, .rport, .tag, .expires, .q]

/-- The parameter's name, in lower case. -/
def name : ParamKind → String
  | .other => "other"
  | .transport => "transport"
  | .user => "user"
  | .method => "method"
  | .ttl => "ttl"
  | .maddr => "maddr"
  | .lr => "lr"
  | .branch => "branch"
  | .received => "received"
  | .rport => "rport"
  | .tag => "tag"
  | .expires => "expires"
  | .q => "q"

/-- The kind of a parameter name, whatever its case. -/
def ofName (s : Bytes) : ParamKind :=
  let l := Bytes.toLower s
  (known.find? fun k => lit k.name == l).getD .other

/-- Whether the parameter belongs to SIP URIs (RFC 3261 §19.1.1) rather than to headers. -/
def isUriParam : ParamKind → Bool
  | .transport | .user | .method | .ttl | .maddr | .lr => true
  | _ => false

end ParamKind

/-- A parameter: a name and, after `=`, a value. -/
structure Param where
  name : Bytes
  value : Option Bytes
  deriving DecidableEq, Inhabited

namespace Param

def ofPair (name value : Bytes) : Param := ⟨name, some value⟩

def flag (name : Bytes) : Param := ⟨name, none⟩

def kind (p : Param) : ParamKind := ParamKind.ofName p.name

/-- The value, empty when there is none. -/
def val (p : Param) : Bytes := p.value.getD []

/-- Writes a name or value: quoted text as it is, other text escaped. -/
def escape (s : Bytes) : Bytes :=
  if Lexical.isQuoted s then s else Percent.encode Percent.isParamChar s

def render (p : Param) : Bytes :=
  59 :: escape p.name ++ (match p.value with
    | some v => 61 :: escape v
    | none => [])

/-- Names compare without regard to case; values of `branch`, `tag` and unknown parameters
compare exactly, the others without regard to case. -/
def equal (a b : Param) : Bool :=
  Bytes.eqFold a.name b.name &&
    match a.value, b.value with
    | none, none => true
    | some x, some y =>
      match a.kind with
      | .other | .branch | .tag => x == y
      | _ => Bytes.eqFold x y
    | _, _ => false

def isValid (p : Param) : Bool := !p.name.isEmpty

/-- The transport named by a `transport` parameter, in upper case. -/
def transport? (p : Param) : Option Bytes :=
  if p.kind == .transport then p.value.map Bytes.toUpper else none

/-- The value as a 32-bit decimal. -/
def uint? (p : Param) : Option Nat :=
  p.value.bind fun v => (Numeral.parseUnsigned 10 32 v).toOption

/-- The texts of a parameter as they stand in the input; `value` is present when `=` follows
the name, empty when nothing follows the `=`. -/
structure Token where
  name : Bytes
  value : Option Bytes
  deriving Inhabited

/-- The parameter named in a matched rule, from the nodes of its name, its `=` part and its
value. -/
def Token.ofNode (n : Grammar.Node) (nameKey eqKey valueKey : String) : Token :=
  { name := ((n.find? nameKey).map Grammar.Node.text).getD []
    value := (n.find? eqKey).map fun e => ((e.find? valueKey).map Grammar.Node.text).getD [] }

/-- Cuts a header parameter (`generic-param`, white space allowed around `;` and `=`) at the
front. -/
def tokenize (s : Bytes) : Outcome (Bytes × Token) :=
  match Grammar.matchRule Grammar.genericParam s with
  | .error _ => .error (.tokenizeText "parameter expected")
  | .ok n => .ok (s.drop n.text.length, Token.ofNode n "gen-name" "EQUAL gen-value" "gen-value")

/-- Checks the value of a parameter with a meaning of its own. -/
def checkValue (k : ParamKind) (v : Bytes) : Outcome Unit :=
  let bad : Fault := .detail .parse
    (lit "invalid " ++ lit k.name ++ lit " parameter value " ++ Literal.quote v)
  match k with
  | .transport | .user | .method | .branch | .tag =>
    if Lexical.isToken v then .ok () else .error bad
  | .ttl => if (Numeral.parseUnsigned 10 8 v).toBool then .ok () else .error bad
  | .rport => if (Numeral.parseUnsigned 10 16 v).toBool then .ok () else .error bad
  | .expires => if (Numeral.parseUnsigned 10 32 v).toBool then .ok () else .error bad
  | .q =>
    match BinaryFloat.read? .single v with
    | some q => if q.isNegative || q.exceedsOne then .error bad else .ok ()
    | none => .error bad
  | .maddr | .received =>
    if v.isEmpty then .error (.detail .parse (lit "empty " ++ lit k.name ++ lit " parameter value"))
    else .ok ()
  | .lr | .other => .ok ()

/-- Reads a parameter from its texts. -/
def ofToken (tok : Token) : Outcome Param := do
  let name ← Userinfo.unescape tok.name
  let k := ParamKind.ofName name
  if k == .other then
    return ⟨name, tok.value.map fun v => if Lexical.isQuoted v then v else Percent.decode v⟩
  let lower := Bytes.toLower name
  match tok.value with
  | none =>
    if k == .lr || k == .rport then return ⟨lower, none⟩
    throw (.detail .parse (lit "parameter " ++ Literal.quote name ++ lit " requires a value"))
  | some raw =>
    let v ← Userinfo.unescape (Lexical.unquote raw)
    checkValue k v
    return ⟨lower, some v⟩

/-- Reads a whole text as one parameter; the leading `;` may be left out. -/
def parse (s : Bytes) : Outcome Param := do
  let s := if s.head? == some 59 then s else 59 :: s
  let (rest, tok) ← tokenize s
  if !rest.isEmpty then throw Fault.trailing
  ofToken tok

end Param

namespace Params

/-- The first parameter of a name, whatever its case. -/
def get? (ps : List Param) (name : Bytes) : Option Param :=
  ps.find? fun p => Bytes.eqFold p.name name

/-- The value of the first parameter of a name, when it has one. -/
def value? (ps : List Param) (name : Bytes) : Option Bytes :=
  (get? ps name).bind Param.value

def has (ps : List Param) (name : Bytes) : Bool := (get? ps name).isSome

/-- Removes every parameter of a name. -/
def erase (ps : List Param) (name : Bytes) : List Param :=
  ps.filter fun p => !Bytes.eqFold p.name name

/-- Replaces the parameters of the same name by `p`, which goes last. -/
def set (ps : List Param) (p : Param) : List Param := erase ps p.name ++ [p]

def render (ps : List Param) : Bytes := ps.flatMap Param.render

/-- Equal lengths, and every parameter of the first equals the first of its name in the
second. -/
def equal (a b : List Param) : Bool :=
  a.length == b.length && a.all fun p =>
    match get? b p.name with
    | some q => p.equal q
    | none => false

/-- Cuts header parameters at the front while a `;` follows (white space allowed before it). -/
def tokenize (s : Bytes) : Outcome (Bytes × List Param.Token) :=
  go (s.length + 1) s []
where
  go : Nat → Bytes → List Param.Token → Outcome (Bytes × List Param.Token)
    | 0, rest, acc => .ok (rest, acc.reverse)
    | fuel + 1, rest, acc =>
      match Lexical.cutByte rest 59 with
      | none => .ok (rest, acc.reverse)
      | some _ => do
        let (rest', tok) ← Param.tokenize rest
        go fuel rest' (tok :: acc)

/-- Cuts URI parameters (`;pname[=pvalue]`, no white space) at the front. -/
def tokenizeUri (s : Bytes) : Outcome (Bytes × List Param.Token) :=
  go (s.length + 1) s []
where
  go : Nat → Bytes → List Param.Token → Outcome (Bytes × List Param.Token)
    | 0, rest, acc => .ok (rest, acc.reverse)
    | fuel + 1, rest, acc =>
      if rest.head? != some 59 then .ok (rest, acc.reverse)
      else match Grammar.matchRule Grammar.uriParameter rest with
        | .error _ => .error (.tokenizeText "URI parameter expected")
        | .ok n =>
          go fuel (rest.drop n.text.length) (Param.Token.ofNode n "pname" "=pvalue" "pvalue" :: acc)

def ofTokens (toks : List Param.Token) : Outcome (List Param) := toks.mapM Param.ofToken

end Params

end SipCodec
