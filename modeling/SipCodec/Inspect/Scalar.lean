import SipCodec.Inspect.Basic
import SipCodec.Scalar.Method
import SipCodec.Scalar.Version
import SipCodec.Scalar.Scheme
import SipCodec.Scalar.Transport
import SipCodec.Scalar.Status
import SipCodec.Scalar.HeaderName
import SipCodec.Auth.Algorithm

/-! Answers about single protocol words: methods, versions, schemes, transports, status codes,
header names, digest algorithms and qualities of protection. -/

namespace SipCodec.Inspect

def versionJson (v : Version) : Json :=
  .obj [("major", .ofNat v.major), ("minor", .ofNat v.minor), ("string", .str v.render),
    ("valid", .bool v.isValid), ("is_zero", .bool v.isZero), ("is_v2", .bool (v == ⟨2, 0⟩)),
    ("is_v1", .bool (v == ⟨1, 0⟩))]

def statusJson (s : Status) : Json :=
  .obj [("code", .ofNat s.code), ("valid", .bool s.isValid), ("known", .bool s.isKnown),
    ("kind", .ofString s.kind.text), ("reason", .str s.reason), ("final", .bool s.isFinal),
    ("provisional", .bool s.isProvisional), ("string", .str s.render)]

private def cutJson (r : Outcome (Bytes × Bytes)) : Json :=
  outcomeJson (fun (tok, rest) => .obj [("rest", .str rest), ("tok", .str tok)]) r

/-- Answers a `scalar` request. -/
def scalarAnswer (req : Json) : Answer :=
  let input := octets req "input"
  match word req "kind" with
  | "method" => .ok <| outcomeJson (fun m => .obj [("value", .str m.name),
      ("known", .bool m.isKnown), ("valid", .bool m.isValid), ("upper", .str m.toUpper),
      ("lower", .str m.toLower)]) (Method.parse input)
  | "method_tokenize" => .ok (cutJson (Method.tokenize input))
  | "version" => .ok (outcomeJson versionJson (Version.parse input))
  | "sent_version" => .ok <| outcomeJson (fun (tok, rest) => .obj [("rest", .str rest),
      ("major", .str tok.major), ("minor", .str tok.minor),
      ("convert", outcomeJson (fun v => .str v.render) (Version.ofToken tok))])
      (Version.tokenizeSent input)
  | "transport" => .ok <| outcomeJson (fun t => .obj [("value", .str t.name),
      ("known", .bool t.isKnown), ("reliable", .bool t.isReliable),
      ("secured", .bool t.isSecured), ("valid", .bool t.isValid)]) (Transport.parse input)
  | "status" => .ok (outcomeJson statusJson (Status.parse input))
  | "status_code" => .ok (statusJson ⟨wordOr req "code" 16 0⟩)
  | "scheme" => .ok <| outcomeJson (fun s => .obj [("value", .str s.name),
      ("known", .bool s.isKnown), ("valid", .bool s.isValid)]) (Scheme.parse input)
  | "scheme_tokenize" => .ok (cutJson (Scheme.tokenize input))
  | "header_name" => .ok <| .obj [("canonic", .str (HeaderName.canonic input)),
      ("compact", .str (HeaderName.compact input)), ("known", .bool (HeaderName.isKnown input)),
      ("valid", .bool (HeaderName.isValid input))]
  | "algorithm" =>
    let a := Algorithm.ofText input
    .ok <| .obj [("value", .str a.name), ("known", .bool a.isKnown), ("is_sess", .bool a.isSess),
      ("base", .str a.base.name)]
  | "qop" => .ok <| .obj [("value", .str (Qop.ofText input).name)]
  | other => .error ("unknown scalar kind " ++ quoted other)

end SipCodec.Inspect
