import SipCodec.Inspect.Typed
import SipCodec.Auth.Digest

/-! Answers about digest authentication: a response computed from given inputs, received
credentials checked against a password, a challenge answered, and the inputs of an
`Authorization` field. -/

namespace SipCodec.Inspect

/-- The URI member of a request: empty is the zero URI; one that does not read is refused. -/
def uriMember (req : Json) (key : String) : Except String Uri :=
  let text := octets req key
  if text.isEmpty then .ok Uri.empty
  else match Uri.parse text with
    | .ok u => .ok u
    | .error e => .error ("uri does not parse: " ++ Bytes.asciiText e.message)

/-- Answers a `digest_compute` request. -/
def digestComputeAnswer (req : Json) : Answer := do
  let uri ← uriMember req "uri"
  let qop : Option AuthQop := (req.get? "qop").bind fun q => match q with
    | .obj _ => some ⟨⟨octets q "qop"⟩, octets q "cnonce", wordOr q "nc" 32 0⟩
    | _ => none
  let g : DigestInputs := ⟨octets req "username", octets req "password", octets req "realm",
    octets req "nonce", octets req "method", uri, octets req "digest_uri",
    ⟨octets req "algorithm"⟩, qop⟩
  match g.response with
  | .error e => return .obj [("compute", faultJson e), ("verify", .bool false)]
  | .ok r =>
    let base : List (String × Json) := [("response", .str r), ("verify_self", .bool (g.verify r)),
      ("verify_upper", .bool (g.verify (Bytes.upperAscii r)))]
    return .obj (base ++ match octets? req "candidate" with
      | some c => [("verify", .bool (g.verify c))]
      | none => [])

/-- The inputs' response, hashed URI and algorithm. -/
def digestInputsJson (g : DigestInputs) : Json :=
  outcomeJson (fun r => .obj [("response", .str r), ("digest_uri", .str g.digestUri),
    ("algorithm", .str g.algorithm.name)]) g.response

/-- Answers a `digest_verify` request. -/
def digestVerifyAnswer (req : Json) : Answer :=
  let method := octets req "method"
  let password := octets req "password"
  match Credentials.parse (octets req "credentials") with
  | .error e => .ok (.obj [("parse", faultJson e)])
  | .ok c =>
    let generator := match DigestInputs.ofCredentials c method password with
      | .ok g => digestInputsJson g
      | .error e => faultJson e
    match c.verifyWith method password with
    | .ok ok => .ok (.obj [("ok", .bool ok), ("generator", generator)])
    | .error e => .ok (.obj [("ok", .bool false), ("error", faultJson e), ("generator", generator)])

/-- Answers a `digest_answer` request. -/
def digestAnswerAnswer (req : Json) : Answer := do
  let field ← match word? req "header" with
    | none | some "WWW-Authenticate" => pure ChallengeField.www
    | some "Proxy-Authenticate" => pure ChallengeField.proxy
    | some other => throw ("unknown header " ++ quoted other)
  let cnonce := octets req "cnonce"
  if cnonce.isEmpty then throw "cnonce must be non-empty"
  let uri ← uriMember req "uri"
  let method := octets req "method"
  let password := octets req "password"
  let opts : AnswerOptions :=
    ⟨method, uri, octets req "username", password, cnonce, wordOr req "nc" 32 0⟩
  match Challenge.parse (octets req "challenge") with
  | .error e => return .obj [("parse", faultJson e)]
  | .ok c =>
    let opts? := if flag req "nil_options" then none else some opts
    return outcomeJson (fun h =>
      let cred := match h with
        | .authorization cr | .proxyAuthorization cr => some cr
        | _ => none
      (typedJson h none).push "verify" (match cred with
        | some cr => outcomeJson .bool (cr.verifyWith method password)
        | none => .null)) (field.answer (some c) opts?)

/-- Answers a `digest_header` request. -/
def digestHeaderAnswer (req : Json) : Answer :=
  match word req "fn" with
  | "from_authorization" =>
    let read : Outcome (Option Credentials) := match octets? req "value" with
      | some v => (Credentials.parse v).map some
      | none => .ok none
    match read with
    | .error e => .ok (.obj [("parse", faultJson e)])
    | .ok c? =>
      .ok (outcomeJson (fun g =>
        let base : List (String × Json) := [("username", .str g.username), ("realm", .str g.realm),
          ("digest_uri", .str g.digestUri), ("algorithm", .str g.algorithm.name)]
        match g.response, c? with
        | .ok r, some c => .obj (base ++ [("compute", .str r), ("matches", .bool (g.verify c.response))])
        | .ok r, none => .obj (base ++ [("compute", .str r)])
        | .error e, _ => .obj (base ++ [("compute", faultJson e)]))
        (DigestInputs.ofAuthorization c? (octets req "method") (octets req "password")))
  | "absent_generator" => .ok (outcomeJson .str (DigestInputs.responseOf none))
  | "answer_www_absent" => .ok (outcomeJson (fun _ => .null) (ChallengeField.www.answer none none))
  | "answer_proxy_absent" =>
    .ok (outcomeJson (fun _ => .null) (ChallengeField.proxy.answer none none))
  | fn => .error ("unknown fn " ++ quoted fn)

end SipCodec.Inspect
