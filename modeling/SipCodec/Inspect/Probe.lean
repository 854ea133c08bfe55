import SipCodec.Inspect.Message
import SipCodec.Inspect.Decoder

/-! Probes of single values. A value is read by the reader of its kind and shown in each
formatting verb that its kind answers; it is compared with a second value read the same way
and with itself, checked, and, for kinds that have an absent form, that form is described
method by method. Header fields add their typed form; messages add their log attributes and a
copy with other fields or another body. -/

namespace SipCodec.Inspect

/-- The formatting verbs that a kind answers. -/
inductive Verbs where
  /-- `s`, `q` and `v`: the text, quoted or not. -/
  | plain
  /-- `s`, `q`, `v`, `d` and `+q`; with `asciiOnly` the `+q` form is printable ASCII. -/
  | full (asciiOnly : Bool)
  /-- `s` and `q` for the short text, `+s` and `+q` for the whole rendering. -/
  | header

/-- What each verb writes for a value whose short text is `text` and whose whole rendering is
`whole`. -/
def Verbs.json (verbs : Verbs) (text whole : Bytes) : Json :=
  let base : List (String × Json) := [("s", .str text), ("q", .str (Literal.quote text))]
  match verbs with
  | .plain => .obj (base ++ [("v", .str text)])
  | .full asciiOnly =>
    .obj (base ++ [("v", .str text), ("d", .str text), ("+q", .str (Literal.quoteWith asciiOnly text))])
  | .header => .obj (base ++ [("+s", .str whole), ("+q", .str (Literal.quote whole))])

/-- What a probe shows of one value: its short text and whole rendering, its verbs, its check,
the description of its absent form, whether it reports a copy as a header, and members that
only its kind has. -/
structure Facets where
  text : Bytes
  whole : Bytes := text
  verbs : Verbs
  valid : Bool
  absent : Option Json := none
  cloneHeader : Bool := false
  extra : List (String × Json) := []

/-- Facets of a value shown in the three plain verbs. -/
def Facets.plain (text : Bytes) (valid : Bool) : Facets := { text := text, verbs := .plain, valid := valid }

/-- Facets of a value shown in all five verbs. -/
def Facets.full (text : Bytes) (valid : Bool) : Facets :=
  { text := text, verbs := .full false, valid := valid }

/-- Equality with a second value, in both of its forms; an absent value and a value of another
type are never equal to a present one. -/
def equalityJson (same : Bool) : Json :=
  .obj [("equal", .bool same), ("alt_form", .bool same), ("absent", .bool false),
    ("other_type", .bool false)]

/-- An absent value: the given methods, then a copy that is absent too and equality that holds
only with another absent value. -/
def absentJson (methods : List (String × Json)) : Json :=
  .obj (methods ++ [("Clone", .ofString "absent"), ("Equal_absent", .bool true),
    ("Equal_present", .bool false)])

/-- The absent form of a value with a text and a check. -/
def absentValueJson : Json := absentJson [("String", .ofString ""), ("IsValid", .bool false)]

/-- The absent form of a typed header field. -/
def absentTypedJson : Json :=
  absentJson [("String", .ofString ""), ("Render", .ofString ""), ("RenderValue", .ofString ""),
    ("IsValid", .bool false)]

/-- Probes the value of a request: ERROR when it does not read, `other` when the second value
(the same text unless one is given) does not read. -/
def probeWith {α : Type} (req : Json) (read : Bytes → Outcome α) (eq : α → α → Bool)
    (facets : α → Facets) : Json :=
  let value := octets req "value"
  match read value with
  | .error e => faultJson e
  | .ok a =>
    match read ((octets? req "other").getD value) with
    | .error e => .obj [("other", faultJson e)]
    | .ok b =>
      let f := facets a
      let same := eq a b
      let generic : List (String × Json) :=
        [("is_valid", .bool f.valid), ("is_equal", .bool same), ("clone_self", .bool (eq a a))] ++
          (if f.cloneHeader then [("clone_header", .bool (eq a a))] else [])
      .obj ([("equal", equalityJson same), ("format", f.verbs.json f.text f.whole),
        ("generic", .obj generic)] ++ (match f.absent with
          | some j => [("absent", j)]
          | none => []) ++ f.extra)

/-- Typed header fields written with their name under `+s` and `+q`. -/
def namedVerbHeaders : List String :=
  ["Alert-Info", "Allow", "Authorization", "CSeq", "Call-ID", "Call-Info", "Contact",
    "Content-Encoding", "Content-Length", "Content-Type", "Error-Info", "Event", "Expires", "From",
    "Max-Forwards", "Min-Expires", "Priority", "Proxy-Require", "Record-Route", "Reply-To",
    "Retry-After", "Route", "Subscription-State", "Supported", "To", "Via", "WWW-Authenticate",
    "Warning"]

/-- Typed header fields that have an absent form. -/
def absentTypedHeaders : List String :=
  ["Authentication-Info", "Authorization", "CSeq", "Contact", "Content-Disposition",
    "Content-Type", "Date", "Event", "From", "Proxy-Authenticate", "Proxy-Authorization",
    "Reply-To", "Retry-After", "Subscription-State", "Timestamp", "To", "WWW-Authenticate"]

/-- Facets of a typed header field: the value is its text, the field line its whole rendering. -/
def typedFacets (t : TypedHeader) : Facets :=
  { text := t.renderValue, whole := t.render false,
    verbs := if namedVerbHeaders.contains t.canonicName then .header else .plain,
    valid := t.isValid,
    absent := if absentTypedHeaders.contains t.canonicName then some absentTypedJson else none,
    cloneHeader := true }

/-- The typed form of a header field, compared with a second reading of itself. -/
def typedProbeJson (r : Outcome TypedHeader) : Json :=
  match r with
  | .error e => .obj [("error", faultJson e)]
  | .ok t =>
    let f := typedFacets t
    .obj ([("equal", equalityJson (t.equal t)), ("format", f.verbs.json f.text f.whole)] ++
      (match f.absent with
        | some j => [("absent", j)]
        | none => []))

/-- Facets of a header field: its text is the field line. Extension fields answer the header
verbs and have a check of their name; known fields do not. -/
def headerFacets (h : Header) : Facets :=
  let text := h.render false
  let methods : List (String × Json) :=
    [("Value", .ofString ""), ("String", .ofString ""), ("Render", .ofString "")]
  { text := text, verbs := if h.isKnown then .plain else .header, valid := h.isValid?.getD false,
    absent := some (absentJson (if h.isKnown then ("Name", .str h.name) :: methods
      else ("Name", .ofString "") :: ("IsValid", .bool false) :: methods)),
    extra := match h.typed? with
      | some r => [("typed_probe", typedProbeJson r)]
      | none => [] }

/-- Facets of a message: its text is the start line, its whole rendering the message. A copy
with the fields `fields` or the body `body`, when given, is shown as well. -/
def messageFacets (fields : Option (List Header)) (body : Option Bytes) (m : Message) : Facets :=
  let kind := if m.isRequest then "invalid request" else "invalid response"
  let absent := absentJson [("String", .ofString "<nil>"), ("StartLine", .ofString ""),
    ("Render", .ofString ""), ("IsValid", .bool false), ("LogValue", .null),
    ("Validate", faultJson (.withText .invalidArgument kind))]
  let changed : List (String × Json) :=
    if fields.isNone && body.isNone then []
    else
      let m2 : Message := { m with headers := fields.getD m.headers, body := body.getD m.body }
      [("after_set", .obj [("render", .str (m2.render false)), ("valid", .bool m2.isValid),
        ("equal_original", .bool (m2.equal m))])]
  { text := m.startLine, whole := m.render false, verbs := .header, valid := m.isValid,
    absent := some absent, extra := ("log_value", attrValueJson (.group m.logAttrs)) :: changed }

/-- Reads a whole value with a cutting step and its conversion: nothing may follow it. -/
def readWhole {τ α : Type} (cut : Bytes → Outcome (Bytes × τ)) (convert : τ → Outcome α)
    (s : Bytes) : Outcome α := do
  let (rest, tok) ← cut s
  if !rest.isEmpty then throw Fault.trailing
  convert tok

/-- Probes a typed value named by `header`: a header field or one of its building blocks. -/
def typedProbeAnswer (req : Json) : Answer :=
  match word req "header" with
  | "NameAddr" => .ok (probeWith req NameAddr.parse NameAddr.equal fun a => Facets.full a.render a.isValid)
  | "ViaHop" => .ok (probeWith req ViaHop.parse ViaHop.equal fun h =>
      { text := h.render, verbs := .full true, valid := h.isValid })
  | "Credentials" => .ok (probeWith req Credentials.parse Credentials.equal fun c =>
      { Facets.plain c.render c.isValid with absent := some absentValueJson })
  | "Challenge" => .ok (probeWith req Challenge.parse Challenge.equal fun c =>
      { Facets.plain c.render c.isValid with absent := some absentValueJson })
  | name =>
    match TypedHeader.parse? name [] with
    | none => .error ("unknown typed header " ++ quoted name)
    | some _ =>
      .ok (probeWith req (fun s => (TypedHeader.parse? name s).getD (.error (.note [])))
        TypedHeader.equal typedFacets)

/-- The first warning of a list, which is never empty when it reads. -/
def firstWarning (s : Bytes) : Outcome (Option WarningValue) :=
  (WarningValue.parseList s).map List.head?

/-- Answers a `probe` request. -/
def probeAnswer (req : Json) : Answer :=
  match word req "kind" with
  | "uri" => .ok (probeWith req Uri.parse Uri.equal fun u => Facets.full u.render u.isValid)
  | "host" => .ok (probeWith req (fun s => .ok (Host.ofText s)) Host.equal fun h =>
      Facets.full h.render h.isValid)
  | "host_port" => .ok (probeWith req HostPort.parse HostPort.equal fun hp =>
      Facets.plain hp.render hp.isValid)
  | "param" => .ok (probeWith req Param.parse Param.equal fun p => Facets.full p.render p.isValid)
  | "params" => .ok (probeWith req (readWhole Params.tokenize Params.ofTokens) Params.equal
      fun ps => Facets.plain (Params.render ps) false)
  | "with_params" => .ok (probeWith req UriWithParams.parse UriWithParams.equal fun wp =>
      Facets.plain wp.render wp.isValid)
  | "with_params_list" => .ok (probeWith req UriWithParams.parseList UriWithParams.equalList
      fun l => Facets.plain (UriWithParams.renderList l) false)
  | "auth" => .ok (probeWith req (readWhole Userinfo.tokenize Userinfo.ofToken) (· == ·) fun u =>
      { Facets.plain u.render u.isValid with absent := some absentValueJson })
  | "version" => .ok (probeWith req Version.parse (· == ·) fun v => Facets.full v.render v.isValid)
  | "method" => .ok (probeWith req Method.parse Method.equal fun m => Facets.plain m.name m.isValid)
  | "scheme" => .ok (probeWith req Scheme.parse Scheme.equal fun s => Facets.plain s.name s.isValid)
  | "transport" => .ok (probeWith req Transport.parse Transport.equal fun t =>
      Facets.plain t.name t.isValid)
  | "status" => .ok (probeWith req Status.parse (fun a b => a.code == b.code) fun s =>
      Facets.plain s.render s.isValid)
  | "reason" => .ok (probeWith req (fun s => .ok s) Bytes.eqFold fun r => Facets.plain r true)
  | "header_name" => .ok (probeWith req (fun s => .ok s) HeaderName.equal fun n =>
      Facets.plain n (HeaderName.isValid n))
  | "name_addr" => .ok (probeWith req NameAddr.parse NameAddr.equal fun a =>
      Facets.full a.render a.isValid)
  | "via_hop" => .ok (probeWith req ViaHop.parse ViaHop.equal fun h =>
      { text := h.render, verbs := .full true, valid := h.isValid })
  | "media_type" => .ok (probeWith req (readWhole MediaType.tokenize MediaType.ofToken)
      MediaType.equal fun m => Facets.full m.render m.isValid)
  | "accept_value" =>
    .ok (probeWith req (readWhole (Tagged.tokenizeWith "token expected") Tagged.ofToken)
      Tagged.equal fun t => Facets.plain t.render t.isValid)
  | "warning_value" =>
    let value := octets req "value"
    if [value, (octets? req "other").getD value].any (firstWarning · matches .ok none) then
      .error "empty warning list"
    else
      .ok (probeWith req firstWarning (· == ·) fun w =>
        Facets.plain ((w.map WarningValue.render).getD []) ((w.map WarningValue.isValid).getD false))
  | "typed" => typedProbeAnswer req
  | "header" =>
    let name := octets req "header"
    .ok (probeWith req (fun s => .ok (Header.make name s)) Header.equal headerFacets)
  | "message" =>
    let fields : Except String (Option (List Header)) := match req.get? "set_headers" with
      | some (.arr _) => some <$> headerLines req "set_headers"
      | _ => .ok none
    fields.map fun fs =>
      probeWith req Message.parse Message.equal (messageFacets fs (octets? req "set_body"))
  | k => .error ("unknown probe kind " ++ quoted k)

end SipCodec.Inspect
