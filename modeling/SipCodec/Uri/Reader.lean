import SipCodec.Uri.Basic

/-! Reading URIs. The text is first cut into the texts of its parts (scheme, user part, host,
port, path, parameters, headers) and then each part is read. A word before a colon is taken as
a scheme when it is a known one, or when what follows the colon is no port and the text does
not start with a user part (`alice:secret@host`). -/

namespace SipCodec

namespace Uri

/-- The texts of a URI's parts as they stand in the input. -/
structure Token where
  scheme : Option Bytes
  userinfo : Option Userinfo.Token
  hostPort : Option HostPort.Token
  path : Option Bytes
  params : List Param.Token
  headers : List (Bytes × Bytes)
  deriving Inhabited

/-- Whether a word before a colon is a scheme, see the module comment. -/
def startsWithScheme (s name rest : Bytes) : Bool :=
  Scheme.isKnown ⟨name⟩ ||
    (match rest with
      | c :: _ => !Octet.isDigit c && !(Grammar.matchRule Grammar.userinfo s).toBool
      | [] => false)

/-- Cuts URI headers (`name=value`, joined by `&`) at the front. -/
def tokenizeHeaders (s : Bytes) : Outcome (Bytes × List (Bytes × Bytes)) :=
  go (s.length + 1) s []
where
  go : Nat → Bytes → List (Bytes × Bytes) → Outcome (Bytes × List (Bytes × Bytes))
    | 0, rest, acc => .ok (rest, acc.reverse)
    | fuel + 1, rest, acc =>
      match Grammar.matchRule Grammar.uriHeader rest with
      | .error _ => .error (.tokenizeText "URI header expected")
      | .ok n =>
        let header := (((n.find? "hname").map Grammar.Node.text).getD [],
          ((n.find? "hvalue").map Grammar.Node.text).getD [])
        match rest.drop n.text.length with
        | 38 :: more => go fuel more (header :: acc)
        | more => .ok (more, (header :: acc).reverse)

/-- The path at the front, when one starts there. -/
def cutPath (s : Bytes) : Option (Bytes × Bytes) :=
  match Grammar.matchRule Grammar.uriPath s with
  | .ok n => some (n.text, s.drop n.text.length)
  | .error _ => none

/-- Cuts the host part of a SIP URI: user part and host with port. -/
def cutServer (s : Bytes) : Outcome (Option Userinfo.Token × HostPort.Token × Bytes) :=
  match Grammar.matchRule Grammar.server s with
  | .error _ => .error (.tokenizeText "host expected")
  | .ok n =>
    let rest := s.drop n.text.length
    if rest.head? == some 58 then .error (.tokenizeText "port expected")
    else
      .ok ((n.find? "userinfo").map Userinfo.Token.ofNode,
        HostPort.Token.ofNode (((n.find? "hostport")).getD n), rest)

/-- Cuts a URI at the front; parameters and headers only when `withParams` holds. -/
def tokenizeWith (withParams : Bool) (s : Bytes) : Outcome (Bytes × Token) := do
  let (scheme, rest) := match Scheme.tokenize s with
    | .ok (name, r) => if startsWithScheme s name r then (some name, r) else (none, s)
    | .error _ => (none, s)
  let (userinfo, hostPort, path, rest) ←
    if usesHost (scheme.map fun n => ⟨Bytes.toLower n⟩) then do
      let (userinfo, hostPort, rest) ←
        if scheme.isSome || rest.head? != some 47 then do
          let (u, hp, r) ← cutServer rest
          pure (u, some hp, r)
        else pure (none, none, rest)
      match (if rest.head? == some 47 then cutPath rest else none) with
      | some (p, r) => pure (userinfo, hostPort, some p, r)
      | none => pure (userinfo, hostPort, none, rest)
    else
      match cutPath rest with
      | some (p, r) => pure (none, none, some p, r)
      | none => throw (.tokenizeText "empty URI")
  let tok : Token := ⟨scheme, userinfo, hostPort, path, [], []⟩
  if !withParams then return (rest, tok)
  let (rest, params) ← Params.tokenizeUri rest
  match rest with
  | 63 :: more =>
    let (rest, headers) ← tokenizeHeaders more
    return (rest, { tok with params, headers })
  | _ => return (rest, { tok with params })

def tokenize (s : Bytes) : Outcome (Bytes × Token) := tokenizeWith true s

/-- Cuts a URI without its parameters and headers, which then belong to what holds the URI. -/
def tokenizeNoParams (s : Bytes) : Outcome (Bytes × Token) := tokenizeWith false s

/-- Reads a URI from the texts of its parts. A SIP URI needs a host unless it is a bare
absolute path. -/
def ofToken (tok : Token) : Outcome Uri := do
  let scheme ← match tok.scheme with
    | some s => some <$> Scheme.ofToken s
    | none => pure none
  let userinfo ← match tok.userinfo with
    | some a => some <$> Userinfo.ofToken a
    | none => pure none
  let hostPort ← match tok.hostPort with
    | some hp => HostPort.ofToken hp
    | none => pure HostPort.empty
  let path := tok.path.getD []
  if usesHost scheme && hostPort.isZero && path.head? != some 47 then
    throw (.withText .parse "URI host expected")
  let params ← Params.ofTokens tok.params
  let headers := tok.headers.map fun (n, v) => (Percent.decode n, Percent.decode v)
  return ⟨scheme, userinfo, hostPort, path, params, headers⟩

/-- Reads a whole text as a URI. -/
def parse (s : Bytes) : Outcome Uri := do
  let (rest, tok) ← tokenize s
  if !rest.isEmpty then throw Fault.trailing
  ofToken tok

end Uri

end SipCodec
