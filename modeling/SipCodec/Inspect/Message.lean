import SipCodec.Inspect.Header
import SipCodec.Message.Reader
import SipCodec.Message.Response

/-! Answers about messages: the texts a message is cut into, and a read message with its start
line, fields, body, checks and a second reading of its own text. -/

namespace SipCodec.Inspect

def lineVersionJson (v : Version) : Json :=
  .obj [("major", .ofNat v.major), ("minor", .ofNat v.minor), ("string", .str v.render)]

def versionTokenJson (v : Version.Token) : Json :=
  .obj [("major", .str v.major), ("minor", .str v.minor)]

/-- A message with its texts, fields, checks and a second reading of its text. -/
def messageJson (withTyped : Bool) (m : Message) : Json :=
  let text := m.render false
  let reparse := match Message.parse text with
    | .ok m2 => .obj [("equal", .bool (m2.equal m)), ("render_stable", .bool (m2.render false == text))]
    | .error e => faultJson e
  let common : List (String × Json) :=
    [("kind", .ofString (if m.isRequest then "request" else "response")),
      ("start_line", .str m.startLine), ("render", .str text),
      ("render_compact", .str (m.render true)),
      ("headers", .arr (m.headers.map (headerJson withTyped))), ("body", .str m.body),
      ("valid", .bool m.isValid), ("validate", Json.opt faultJson m.validate),
      ("reparse", reparse), ("clone_equal", .bool (m.equal m))]
  let line : List (String × Json) := match m.start with
    | .request meth u v =>
      [("method", .str meth.name), ("method_known", .bool meth.isKnown), ("uri", uriInfoJson u),
        ("version", lineVersionJson v)]
    | .status v s r =>
      [("status", .ofNat s.code), ("status_kind", .ofString s.kind.text),
        ("status_known", .bool s.isKnown), ("reason", .str r), ("default_reason", .str s.reason),
        ("version", lineVersionJson v)]
  .obj (common ++ line)

/-- The texts a message was cut into. -/
def messageTokenJson (input rest : Bytes) (t : Message.Token) : Json :=
  let line : List (String × Json) := match t.start with
    | some (.request r) =>
      [("request_line", .obj [("method", .str r.method), ("version", versionTokenJson r.version),
        ("uri", uriTokenJson r.uri)])]
    | some (.status s) =>
      [("status_line", .obj [("version", versionTokenJson s.version), ("status", .str s.status),
        ("reason", .str s.reason)])]
    | none => []
  .obj ([("rest", .str rest), ("consumed", .ofNat (input.length - rest.length)),
    ("is_request", .bool t.isRequest),
    ("headers", .arr (t.headers.map fun h => .obj [("name", .str h.name), ("value", .str h.value)])),
    ("body", .str t.body)] ++ line)

/-- Answers a `tokenize_message` request. -/
def tokenizeMessageAnswer (req : Json) : Answer :=
  let input := octets req "input"
  let cut := if flag req "head_only" then Message.tokenizeHead input else Message.tokenize input
  .ok (outcomeJson (fun (rest, t) => messageTokenJson input rest t) cut)

/-- Answers a `parse_message` request. -/
def parseMessageAnswer (req : Json) : Answer :=
  let input := octets req "input"
  let read := match word? req "expect" with
    | some "request" => Message.parseRequest input
    | some "response" => Message.parseResponse input
    | _ => Message.parse input
  .ok (outcomeJson (messageJson (!flag req "no_typed")) read)

/-- Answers a `message_from` request. -/
def messageFromAnswer (req : Json) : Answer := do
  let convert : Message.Token → Outcome Message ← match word? req "as" with
    | none | some "any" => pure Message.ofToken
    | some "request" => pure Message.requestOfToken
    | some "response" => pure Message.responseOfToken
    | some other => throw ("unknown as " ++ quoted other)
  let tok : Outcome Message.Token :=
    if flag req "empty" then .ok ⟨none, [], []⟩
    else (Message.tokenize (octets req "input")).map (·.2)
  match tok with
  | .error e => return .obj [("tokenize", faultJson e)]
  | .ok t =>
    return outcomeJson (fun m => .obj [("render", .str (m.render false)),
      ("start_line", .str m.startLine)]) (convert t)

/-- The header fields of a request member: lines to read, or objects with a name and a value. -/
def headerFields (req : Json) (key : String) : Except String (List Header) :=
  match req.get? key with
  | some (.arr items) => items.mapM fun j =>
    match j with
    | .obj _ => .ok (Header.make (octets j "name") (octets j "value"))
    | _ => headerLine j
  | _ => .ok []

/-- Answers a `build_message` request. -/
def buildMessageAnswer (req : Json) : Answer := do
  let headers ← headerFields req "headers"
  let version : Version := ⟨wordOr req "major" 64 2, wordOr req "minor" 64 0⟩
  let start ← match word req "kind" with
    | "request" =>
      match Uri.parse (octets req "uri") with
      | .ok u => pure (Except.ok (StartLine.request ⟨octets req "method"⟩ u version))
      | .error e => pure (Except.error e)
    | "response" =>
      pure (Except.ok (StartLine.status version ⟨wordOr req "status" 16 0⟩ (octets req "reason")))
    | k => throw ("unknown kind " ++ quoted k)
  return outcomeJson (fun st => messageJson false ⟨st, headers, octets req "body"⟩) start

/-- The tag that a response gives a To field without one. -/
def responseTag : Bytes := lit "GENERATED"

/-- A To field as shown once its generated tag is masked: typed again from its value, given the
tag `GENERATED` and written anew, as a typed To field is. -/
def maskTag (h : Header) : Header :=
  if h.name == lit "To" then
    match NameAddr.parse h.value with
    | .ok a => h.replace (a.withTag responseTag).render
    | .error _ => h
  else h

/-- Answers a `new_response` request. -/
def newResponseAnswer (req : Json) : Answer :=
  let status : Status := ⟨wordOr req "status" 16 0⟩
  let made := do
    let r ← Message.parseRequest (octets req "request")
    let res ← r.respond status (octets req "reason") responseTag
    return (r, res)
  .ok (outcomeJson (fun (r, res) =>
    let hadTag := ((Headers.first? r.headers (lit "To")).bind fun h =>
      (NameAddr.parse h.value).toOption.bind NameAddr.tag?).isSome
    let hasTag := ((Headers.first? res.headers (lit "To")).bind fun h =>
      (NameAddr.parse h.value).toOption.bind NameAddr.tag?).isSome
    let generated := !hadTag && hasTag
    let shown := if generated then { res with headers := res.headers.map maskTag } else res
    (messageJson false shown).push "generated_tag" (.bool generated)) made)

end SipCodec.Inspect
