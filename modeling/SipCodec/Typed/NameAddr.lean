import SipCodec.Typed.Scan
import SipCodec.Uri.WithParams
import SipCodec.Number.BinaryFloat

/-! Addresses of `To`, `From`, `Reply-To`, `Contact`, `Route` and `Record-Route`: an optional
display name, a URI and header parameters. The display name is a quoted string or a run of
tokens; with angle brackets the URI keeps its own parameters, without them its parameters
belong to the header. Two addresses are equal when their URIs and parameters are; the display
name does not count. -/

namespace SipCodec

/-- A display name, a URI and header parameters. -/
structure NameAddr where
  displayName : Option Bytes
  uri : Uri
  params : List Param
  deriving DecidableEq, Inhabited

namespace NameAddr

def render (a : NameAddr) : Bytes :=
  (match a.displayName with
    | some d => Lexical.quote d ++ [32]
    | none => []) ++
  [60] ++ a.uri.render ++ [62] ++ Params.render a.params

def equal (a b : NameAddr) : Bool := a.uri.equal b.uri && Params.equal a.params b.params

def isValid (a : NameAddr) : Bool := a.uri.isValid

def isZero (a : NameAddr) : Bool := a.displayName.isNone && a.uri.isZero && a.params.isEmpty

def tag? (a : NameAddr) : Option Bytes := Params.value? a.params (lit "tag")

/-- The address with its `tag` parameter set, replacing any earlier one. -/
def withTag (a : NameAddr) (tag : Bytes) : NameAddr :=
  { a with params := Params.set a.params (Param.ofPair (lit "tag") tag) }

def expires? (a : NameAddr) : Option Nat := (Params.get? a.params (lit "expires")).bind Param.uint?

/-- The `q` parameter read as a double. -/
def q? (a : NameAddr) : Option BinaryFloat :=
  (Params.value? a.params (lit "q")).bind (BinaryFloat.read? .double)

def equalList (a b : List NameAddr) : Bool :=
  a.length == b.length && (a.zip b).all fun (x, y) => x.equal y

def renderList (l : List NameAddr) : Bytes := Bytes.joinWith (lit ", ") (l.map render)

/-- The texts of an address as they stand in the input. -/
structure Token where
  displayName : Option Bytes
  uri : Uri.Token
  params : List Param.Token
  deriving Inhabited

/-- Skips tokens separated by white space. -/
def skipTokens (s : Bytes) : Bytes :=
  go (s.length + 1) s
where
  go : Nat → Bytes → Bytes
    | 0, s => s
    | fuel + 1, s =>
      match Lexical.cutToken s with
      | some (_, rest) => go fuel (Lexical.skipLws rest)
      | none => s

/-- Cuts an address at the front. -/
def tokenize : Scan.Cut Token := fun s => do
  let rest := Lexical.skipLws s
  let (display, rest) ← match rest with
    | 34 :: _ =>
      match Lexical.cutQuoted rest with
      | none => throw (.tokenizeText "unterminated display name")
      | some (d, r) =>
        let r := Lexical.skipLws r
        if r.head? != some 60 then throw (.tokenizeText "\"<\" expected")
        pure (some d, r)
    | _ =>
      let r := skipTokens rest
      if r.head? == some 60 then
        let d := Lexical.trimLws (rest.take (rest.length - r.length))
        pure (if d.isEmpty then none else some d, r)
      else pure (none, rest)
  let (rest, uri) ← match rest with
    | 60 :: inner => do
      let (r, uri) ← Uri.tokenize inner
      match r with
      | 62 :: after => pure (after, uri)
      | _ => throw (.tokenizeText "\">\" expected")
    | _ => Uri.tokenizeNoParams rest
  let (rest, params) ← Params.tokenize rest
  return (rest, ⟨display, uri, params⟩)

/-- Reads an address from its texts; a display name must be UTF-8. -/
def ofToken (tok : Token) : Outcome NameAddr := do
  let display ← match tok.displayName with
    | some d =>
      if Utf8.isValid d then pure (some (Lexical.unquote d))
      else throw (.detail .utf8 (lit "display name " ++ Literal.quote d))
    | none => pure none
  return ⟨display, ← Uri.ofToken tok.uri, ← Params.ofTokens tok.params⟩

def parse (s : Bytes) : Outcome NameAddr := Scan.value s tokenize ofToken

/-- Reads a comma-separated list of addresses. -/
def parseList (s : Bytes) : Outcome (List NameAddr) :=
  Scan.value s (Scan.list tokenize) (·.mapM ofToken)

end NameAddr

/-- A `Contact` value: the wildcard `*`, or addresses. -/
structure Contact where
  wildcard : Bool
  addrs : List NameAddr
  deriving DecidableEq, Inhabited

namespace Contact

def render (c : Contact) : Bytes := if c.wildcard then [42] else NameAddr.renderList c.addrs

def equal (a b : Contact) : Bool := a.wildcard == b.wildcard && NameAddr.equalList a.addrs b.addrs

def isValid (c : Contact) : Bool :=
  if c.wildcard then c.addrs.isEmpty else !c.addrs.isEmpty && c.addrs.all NameAddr.isValid

def tokenize : Scan.Cut (Option (List NameAddr.Token)) := fun s =>
  match Lexical.skipLws s with
  | 42 :: rest => .ok (rest, none)
  | _ => do
    let (rest, toks) ← Scan.list NameAddr.tokenize s
    return (rest, some toks)

def parse (s : Bytes) : Outcome Contact :=
  Scan.value s tokenize fun
    | none => pure ⟨true, []⟩
    | some toks => do return ⟨false, ← toks.mapM NameAddr.ofToken⟩

end Contact

end SipCodec
