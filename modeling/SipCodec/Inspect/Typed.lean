import SipCodec.Inspect.Uri
import SipCodec.Typed.Header
import SipCodec.Number.Shortest

/-! Answers about typed header values: the fields of each value, its texts, its checks and
what its accessors tell. The same views serve the building blocks that header values are made
of (name-addresses, Via hops, credentials and challenges). -/

namespace SipCodec.Inspect

/-- JSON numbers are written positionally from 10^-6 up to 10^21 and with a signed exponent of
no fixed width otherwise. -/
def jsonNumberStyle : Decimal.Style := ⟨-6, 21, 1⟩

/-- A double as a JSON number, `null` for an infinity or NaN, which JSON cannot write. -/
def doubleJson (v : BinaryFloat) : Json :=
  match v.renderShortest .double jsonNumberStyle with
  | some t => .num t
  | none => .null

def paramsValueJson (ps : List Param) : Json := .arr (ps.map paramValueJson)

def mediaValueJson (m : MediaType) : Json :=
  .obj [("Type", .str m.type), ("Subtype", .str m.subtype), ("Params", paramsValueJson m.params)]

def mediaExtraJson (m : MediaType) : Json :=
  .obj [("string", .str m.render), ("valid", .bool m.isValid), ("charset", optBytes m.charset?),
    ("is_zero", .bool m.isZero)]

/-- A token with parameters, the token under the field name `key`. -/
def taggedValueJson (key : String) (t : Tagged) : Json :=
  .obj [(key, .str t.token), ("Params", paramsValueJson t.params)]

def nameAddrValueJson (a : NameAddr) : Json :=
  .obj [("DisplayName", optBytes a.displayName), ("URI", uriValueJson a.uri),
    ("Params", paramsValueJson a.params)]

def nameAddrExtraJson (a : NameAddr) : Json :=
  .obj [("string", .str a.render), ("valid", .bool a.isValid), ("is_zero", .bool a.isZero),
    ("tag", optBytes a.tag?), ("expires", Json.opt Json.ofNat a.expires?),
    ("q", Json.opt doubleJson a.q?), ("with_tag", .str (a.withTag (lit "T-1")).render)]

def addrsExtraJson (l : List NameAddr) : Json := .obj [("addrs", .arr (l.map nameAddrExtraJson))]

def viaHopValueJson (h : ViaHop) : Json :=
  .obj [("Version", .obj [("Major", .ofNat h.version.major), ("Minor", .ofNat h.version.minor)]),
    ("Transport", .str h.transport.name), ("URI", uriValueJson h.uri),
    ("Params", paramsValueJson h.params)]

def viaHopExtraJson (h : ViaHop) : Json :=
  .obj [("string", .str h.render), ("valid", .bool h.isValid), ("branch", optBytes h.branch?),
    ("is_rfc3261", .bool h.isRfc3261), ("sent_by", .str h.sentBy.render),
    ("received", Json.opt hostJson h.received?), ("rport", Json.opt Json.ofNat h.rport?),
    ("maddr", Json.opt hostJson h.maddr?), ("ttl", Json.opt Json.ofNat h.ttl?)]

def authParamJson (p : AuthParam) : Json :=
  .obj [("Name", .str p.name), ("Value", .str p.value), ("Quoted", .bool p.quoted)]

def algorithmExtraJson (a : Algorithm) : Json :=
  .obj [("is_known", .bool a.isKnown), ("is_sess", .bool a.isSess), ("base", .str a.base.name)]

def credentialsValueJson (c : Credentials) : Json :=
  .obj [("Scheme", .str c.scheme), ("Username", .str c.username), ("Realm", .str c.realm),
    ("Nonce", .str c.nonce), ("URI", uriValueJson c.uri), ("RawURI", .str c.rawUri),
    ("Response", .str c.response), ("Algorithm", optBytes (c.algorithm.map (·.name))),
    ("Opaque", optBytes c.opaqueValue),
    ("Qop", Json.opt (fun (q : AuthQop) => .obj [("Qop", .str q.qop.name),
      ("CNonce", .str q.cnonce), ("NC", .ofNat q.nc)]) c.qop),
    ("Params", .arr (c.params.map authParamJson))]

def credentialsExtraJson (c : Credentials) : Json :=
  let base : List (String × Json) :=
    [("is_digest", .bool c.isDigest), ("digest_uri", .str c.digestUri), ("string", .str c.render),
      ("valid", .bool c.isValid), ("algorithm", Json.opt algorithmExtraJson c.algorithm)]
  match c.qop with
  | some q => .obj (base ++ [("nc_string", .str q.ncText)])
  | none => .obj base

def challengeValueJson (c : Challenge) : Json :=
  .obj [("Scheme", .str c.scheme), ("Realm", .str c.realm), ("Domain", optBytes c.domain),
    ("Nonce", .str c.nonce), ("Opaque", optBytes c.opaqueValue),
    ("Stale", Json.opt Json.bool c.stale), ("Algorithm", optBytes (c.algorithm.map (·.name))),
    ("Qop", .arr (c.qop.map fun q => .str q.name)), ("Charset", optBytes c.charset),
    ("Userhash", Json.opt Json.bool c.userhash), ("Params", .arr (c.params.map authParamJson))]

def challengeExtraJson (c : Challenge) : Json :=
  .obj [("is_digest", .bool c.isDigest), ("supports_auth", .bool (c.supportsQop .auth)),
    ("supports_auth_int", .bool (c.supportsQop .authInt)), ("string", .str c.render),
    ("valid", .bool c.isValid), ("algorithm", Json.opt algorithmExtraJson c.algorithm)]

def authInfoValueJson (a : AuthInfo) : Json :=
  .obj [("NextNonce", .str a.nextNonce), ("Qop", optBytes (a.qop.map (·.name))),
    ("RspAuth", .str a.rspAuth), ("CNonce", .str a.cnonce), ("NC", .ofNat a.nc),
    ("Params", .arr (a.params.map authParamJson))]

def strings (l : List Bytes) : Json := .arr (l.map .str)

/-- The fields of a typed header value. -/
def typedValueJson : TypedHeader → Json
  | .accept l => .arr (l.map mediaValueJson)
  | .acceptEncoding l | .acceptLanguage l => .arr (l.map (taggedValueJson "Value"))
  | .alertInfo l | .callInfo l | .errorInfo l => .arr (l.map withParamsValueJson)
  | .allow l => strings (l.map (·.name))
  | .authenticationInfo a => authInfoValueJson a
  | .authorization c | .proxyAuthorization c => credentialsValueJson c
  | .callId v | .mimeVersion v | .priority v => .str v
  | .contact c => .obj [("Wildcard", .bool c.wildcard), ("Addrs", .arr (c.addrs.map nameAddrValueJson))]
  | .contentDisposition d | .event d => taggedValueJson "Type" d
  | .subscriptionState s => taggedValueJson "State" s
  | .contentEncoding l | .contentLanguage l | .proxyRequire l | .require l | .supported l
  | .unsupported l | .inReplyTo l => strings l
  | .contentLength n | .expires n | .maxForwards n | .minExpires n => .ofNat n
  | .contentType m => mediaValueJson m
  | .cseq c => .obj [("SeqNum", .ofNat c.seq), ("Method", .str c.method.name)]
  | .date t => .obj [("Time", .str t.renderRfc3339)]
  | .fromAddr a | .replyTo a | .toAddr a => nameAddrValueJson a
  | .proxyAuthenticate c | .wwwAuthenticate c => challengeValueJson c
  | .recordRoute l | .route l => .arr (l.map nameAddrValueJson)
  | .retryAfter r =>
    .obj [("Delay", .ofNat r.delay), ("Comment", optBytes r.comment),
      ("Params", paramsValueJson r.params)]
  | .timestamp t => .obj [("Value", .str t.value), ("Delay", .str t.delay)]
  | .via hops => .arr (hops.map viaHopValueJson)
  | .warning l =>
    .arr (l.map fun w => .obj [("Code", .ofNat w.code), ("Agent", .str w.agent), ("Text", .str w.text)])

/-- What the accessors of a typed header value tell, for the headers that have any. -/
def typedExtraJson? : TypedHeader → Option Json
  | .via hops => some (.obj [("hops", .arr (hops.map viaHopExtraJson))])
  | .fromAddr a | .replyTo a | .toAddr a => some (nameAddrExtraJson a)
  | .contact c => some (addrsExtraJson c.addrs)
  | .recordRoute l | .route l => some (addrsExtraJson l)
  | .alertInfo l | .callInfo l | .errorInfo l =>
    some (.obj [("entries", .arr (l.map withParamsEntryJson))])
  | .authorization c | .proxyAuthorization c => some (credentialsExtraJson c)
  | .proxyAuthenticate c | .wwwAuthenticate c => some (challengeExtraJson c)
  | .event e => some (.obj [("id", optBytes (Params.value? e.params (lit "id")))])
  | .subscriptionState s =>
    some (.obj [("expires", Json.opt Json.ofNat ((Params.get? s.params (lit "expires")).bind Param.uint?)),
      ("reason", optBytes (Params.value? s.params (lit "reason"))),
      ("retry_after", Json.opt Json.ofNat ((Params.get? s.params (lit "retry-after")).bind Param.uint?))])
  | .retryAfter r => some (.obj [("duration_s", .ofNat r.delay)])
  | .date t => some (.obj [("unix", .int t.unixSeconds)])
  | .priority p => some (.obj [("is_known", .bool (Priority.isKnown p))])
  | .contentType m => some (.obj [("charset", optBytes m.charset?)])
  | .accept l => some (.obj [("media", .arr (l.map mediaExtraJson))])
  | .acceptEncoding l | .acceptLanguage l =>
    some (.obj [("q", .arr (l.map fun t => doubleJson t.quality))])
  | .timestamp t =>
    some (.obj [("time", Json.opt doubleJson t.seconds?), ("delay_ns", Json.opt Json.int t.delayNanos?)])
  | _ => none

/-- A typed header value with its texts, checks and accessors. -/
def typedJson (h : TypedHeader) (probe : Option Bytes) : Json :=
  let self := h.equal h
  let base : List (String × Json) :=
    [("value", typedValueJson h), ("render_value", .str h.renderValue),
      ("render", .str (h.render false)), ("render_compact", .str (h.render true)),
      ("string", .str h.renderValue), ("valid", .bool h.isValid),
      ("canonic_name", .ofString h.canonicName), ("compact_name", .ofString h.compactName),
      ("clone_equal", .bool self), ("equal_other_type", .bool false),
      ("equal_alt_form", .bool self), ("untyped", .str (h.render false))]
  let extra := match typedExtraJson? h with
    | some e => [("extra", e)]
    | none => []
  let contains := match probe.bind h.contains? with
    | some b => [("contains", .bool b)]
    | none => []
  .obj (base ++ extra ++ contains)

/-- A building block of header values: its fields, its text, its check and its accessors. -/
def partJson (value : Json) (text : Bytes) (valid : Bool) (extra : Json) : Json :=
  .obj [("value", value), ("render_value", .str text), ("valid", .bool valid), ("extra", extra)]

/-- Answers a `typed` request. -/
def typedAnswer (req : Json) : Answer :=
  let value := octets req "value"
  let probe := (req.get? "probe").bind Json.asBytes?
  match word req "header" with
  | "NameAddr" => .ok (outcomeJson (fun a =>
      partJson (nameAddrValueJson a) a.render a.isValid (nameAddrExtraJson a)) (NameAddr.parse value))
  | "ViaHop" => .ok (outcomeJson (fun h =>
      partJson (viaHopValueJson h) h.render h.isValid (viaHopExtraJson h)) (ViaHop.parse value))
  | "Credentials" => .ok (outcomeJson (fun c =>
      partJson (credentialsValueJson c) c.render c.isValid (credentialsExtraJson c))
      (Credentials.parse value))
  | "Challenge" => .ok (outcomeJson (fun c =>
      partJson (challengeValueJson c) c.render c.isValid (challengeExtraJson c))
      (Challenge.parse value))
  | name =>
    match TypedHeader.parse? name value with
    | some r => .ok (outcomeJson (typedJson · probe) r)
    | none => .error ("unknown typed header " ++ quoted name)

end SipCodec.Inspect
