import SipCodec.Uri.Reader

/-! A URI followed by header parameters, as in `Alert-Info`, `Call-Info` and `Error-Info`:
`<uri>;param`, or a URI without angle brackets whose own parameters then belong to the header.
Lists of them are separated by commas. -/

namespace SipCodec

/-- A URI with the header parameters that follow it. -/
structure UriWithParams where
  uri : Uri
  params : List Param
  deriving DecidableEq, Inhabited

namespace UriWithParams

def render (wp : UriWithParams) : Bytes := [60] ++ wp.uri.render ++ [62] ++ Params.render wp.params

def equal (a b : UriWithParams) : Bool := a.uri.equal b.uri && Params.equal a.params b.params

def isValid (wp : UriWithParams) : Bool := wp.uri.isValid

/-- The texts of a URI and its parameters. -/
structure Token where
  uri : Uri.Token
  params : List Param.Token
  deriving Inhabited

/-- Cuts a URI, in angle brackets or bare, and its parameters at the front. -/
def tokenize (s : Bytes) : Outcome (Bytes × Token) := do
  let rest := Lexical.skipLws s
  let (rest, uri) ← match rest with
    | 60 :: inner => do
      let (r, uri) ← Uri.tokenize inner
      match r with
      | 62 :: after => pure (after, uri)
      | _ => throw (.tokenizeText "\">\" expected")
    | _ => Uri.tokenizeNoParams rest
  let (rest, params) ← Params.tokenize rest
  return (rest, ⟨uri, params⟩)

def ofToken (tok : Token) : Outcome UriWithParams := do
  return ⟨← Uri.ofToken tok.uri, ← Params.ofTokens tok.params⟩

/-- Reads a whole text; white space may follow. -/
def parse (s : Bytes) : Outcome UriWithParams := do
  let (rest, tok) ← tokenize s
  if !(Lexical.trimLws rest).isEmpty then throw Fault.trailing
  ofToken tok

/-- Cuts a comma-separated list; white space may follow its end. -/
def tokenizeList (s : Bytes) : Outcome (List Token) :=
  go (s.length + 1) s []
where
  go : Nat → Bytes → List Token → Outcome (List Token)
    | 0, _, acc => .ok acc.reverse
    | fuel + 1, rest, acc => do
      let (rest, tok) ← tokenize rest
      match Lexical.cutByte rest 44 with
      | some more => go fuel more (tok :: acc)
      | none =>
        if !(Lexical.trimLws rest).isEmpty then throw Fault.trailing
        return (tok :: acc).reverse

def renderList (l : List UriWithParams) : Bytes := Bytes.joinWith (lit ", ") (l.map render)

def equalList (a b : List UriWithParams) : Bool :=
  a.length == b.length && (a.zip b).all fun (x, y) => x.equal y

/-- Reads a whole comma-separated list. -/
def parseList (s : Bytes) : Outcome (List UriWithParams) := do
  (← tokenizeList s).mapM ofToken

end UriWithParams

end SipCodec
