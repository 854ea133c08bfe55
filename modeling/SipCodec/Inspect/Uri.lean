import SipCodec.Inspect.Basic
import SipCodec.Uri.WithParams

/-! Answers about URIs and their parts: hosts, hosts with ports, user parts, parameters, URIs
with header parameters, and the texts a URI is cut into. -/

namespace SipCodec.Inspect

def hostJson (h : Host) : Json :=
  .obj [("kind", .ofString (match h with
      | .ip _ => "ip"
      | .name t => if t.isEmpty then "empty" else "domain")),
    ("text", .str h.render), ("valid", .bool h.isValid)]

def hostPortValueJson (hp : HostPort) : Json :=
  .obj [("Host", hostJson hp.host), ("Port", Json.opt Json.ofNat hp.port)]

def userinfoValueJson (u : Userinfo) : Json :=
  .obj [("User", .str u.user), ("Password", optBytes u.password)]

def paramValueJson (p : Param) : Json :=
  .obj [("Name", .str p.name), ("Value", optBytes p.value)]

def paramInfoJson (p : Param) : Json :=
  .obj [("name", .str p.name), ("value", optBytes p.value), ("kind", .ofString p.kind.name),
    ("is_uri", .bool p.kind.isUriParam), ("string", .str p.render), ("valid", .bool p.isValid),
    ("has_value", .bool p.value.isSome), ("transport", optBytes p.transport?),
    ("uint", Json.opt Json.ofNat p.uint?)]

/-- The fields of a URI. -/
def uriValueJson (u : Uri) : Json :=
  .obj [("Scheme", .str u.schemeName), ("Auth", Json.opt userinfoValueJson u.userinfo),
    ("HostWithPort", hostPortValueJson u.hostPort), ("Path", .str u.path),
    ("Params", .arr (u.params.map paramValueJson)),
    ("Headers", .arr (u.headers.map fun (n, v) => .obj [("Name", .str n), ("Value", .str v)]))]

/-- A URI with what its accessors tell about it. -/
def uriInfoJson (u : Uri) : Json :=
  let base : List (String × Json) :=
    [("value", uriValueJson u), ("string", .str u.render), ("valid", .bool u.isValid),
      ("is_zero", .bool u.isZero), ("is_sip", .bool u.isSip), ("is_secured", .bool u.isSecured),
      ("lr", .bool u.lr), ("transport", optBytes u.transport?), ("user_param", optBytes u.userParam?),
      ("method", optBytes u.method?), ("maddr", Json.opt hostJson u.maddr?),
      ("ttl", Json.opt Json.ofNat u.ttl?), ("host_port", .str u.hostPort.render),
      ("port_or_5060", .ofNat (u.hostPort.portOr 5060))]
  match u.userinfo with
  | some a => .obj (base ++ [("auth_string", .str a.render), ("auth_valid", .bool a.isValid)])
  | none => .obj base

def withParamsValueJson (wp : UriWithParams) : Json :=
  .obj [("URI", uriValueJson wp.uri), ("Params", .arr (wp.params.map paramValueJson))]

def withParamsEntryJson (wp : UriWithParams) : Json :=
  .obj [("string", .str wp.render), ("valid", .bool wp.isValid), ("uri", uriInfoJson wp.uri)]

/-- The texts a URI was cut into. -/
def uriTokenJson (tok : Uri.Token) : Json :=
  .obj [("scheme", optBytes tok.scheme), ("host", optBytes (tok.hostPort.map (·.host))),
    ("port", optBytes (tok.hostPort.bind (·.port))), ("path", optBytes tok.path),
    ("auth", Json.opt (fun (a : Userinfo.Token) => .obj [("user", .str a.user),
      ("password", .str (a.password.getD [])), ("has_password", .bool a.password.isSome)])
      tok.userinfo),
    ("params", .arr (tok.params.map fun p => .obj [("name", .str p.name),
      ("value", .str (p.value.getD [])), ("has_value", .bool p.value.isSome)])),
    ("headers", .arr (tok.headers.map fun (n, v) => .obj [("name", .str n), ("value", .str v)]))]

/-- Answers a `uri` request. -/
def uriAnswer (req : Json) : Answer :=
  let input := octets req "input"
  match word req "form" with
  | "" | "uri" => .ok (outcomeJson (fun u =>
      let info := uriInfoJson u
      let info := info.push "params_info" (.arr (u.params.map paramInfoJson))
      let info := info.push "reparse" (outcomeJson (fun v => .obj [("equal", .bool (v.equal u))])
        (Uri.parse u.render))
      info.push "clone_equal" (.bool (u.equal u))) (Uri.parse input))
  | "host_port" => .ok (outcomeJson (fun hp =>
      .obj [("value", hostPortValueJson hp), ("string", .str hp.render), ("valid", .bool hp.isValid),
        ("is_zero", .bool hp.isZero)]) (HostPort.parse input))
  | "host" =>
    let h := Host.ofText input
    .ok ((hostJson h).push "domain" (optBytes h.domain?)
      |>.push "ip" (optBytes (h.addr?.map IpAddr.render)))
  | "param" => .ok (outcomeJson paramInfoJson (Param.parse input))
  | "with_params" => .ok (outcomeJson (fun wp =>
      .obj [("value", withParamsValueJson wp), ("string", .str wp.render), ("valid", .bool wp.isValid),
        ("uri", uriInfoJson wp.uri), ("params_info", .arr (wp.params.map paramInfoJson))])
      (UriWithParams.parse input))
  | "with_params_list" => .ok (outcomeJson (fun l =>
      .obj [("value", .arr (l.map withParamsValueJson)),
        ("string", .str (UriWithParams.renderList l)),
        ("entries", .arr (l.map withParamsEntryJson))]) (UriWithParams.parseList input))
  | "tokenize" => .ok (outcomeJson (fun (rest, tok) =>
      .obj [("rest", .str rest), ("tok", uriTokenJson tok)]) (Uri.tokenize input))
  | "tokenize_no_params" => .ok (outcomeJson (fun (rest, tok) =>
      .obj [("rest", .str rest), ("tok", uriTokenJson tok)]) (Uri.tokenizeNoParams input))
  | "auth" => .ok (outcomeJson (fun (rest, u) =>
      .obj [("rest", .str rest), ("value", userinfoValueJson u), ("string", .str u.render),
        ("valid", .bool u.isValid)])
      (do let (rest, tok) ← Userinfo.tokenize input; return (rest, ← Userinfo.ofToken tok)))
  | form => .error ("unknown uri form " ++ quoted form)

/-- The parameters of a request member, each a flag or a name with a value, set one after the
other: a later one replaces an earlier one of the same name. -/
def paramsMember (req : Json) (key : String) : List Param :=
  let items := ((req.get? key).bind Json.asList?).getD []
  items.foldl (fun ps j =>
    Params.set ps (match octets? j "value" with
      | some v => Param.ofPair (octets j "name") v
      | none => Param.flag (octets j "name"))) []

/-- Answers a `uri_build` request: URI parts built from their pieces. -/
def uriBuildAnswer (req : Json) : Answer :=
  let auth : List (String × Json) := match octets? req "user" with
    | none => []
    | some user =>
      let u := Userinfo.ofUser user
      ("auth", .obj [("string", .str u.render), ("valid", .bool u.isValid)]) ::
        match octets? req "password" with
        | none => []
        | some p =>
          let u2 := u.withPassword p
          [("auth_with_password", .obj [("string", .str u2.render), ("valid", .bool u2.isValid),
            ("original", .str u.render), ("equal", .bool (u2 == u))])]
  let hostPort : List (String × Json) := match octets? req "host" with
    | none => []
    | some h =>
      let hp : HostPort := ⟨Host.ofText h, some (wordOr req "port" 16 0)⟩
      [("host_port", .obj [("value", hostPortValueJson hp), ("string", .str hp.render),
        ("valid", .bool hp.isValid)])]
  let flagParam : List (String × Json) := match octets? req "flag" with
    | none => []
    | some n =>
      let p := Param.flag n
      [("flag_param", .obj [("string", .str p.render), ("has_value", .bool p.value.isSome),
        ("valid", .bool p.isValid)])]
  let params : List (String × Json) := match req.get? "params" with
    | some (.arr _) =>
      let ps := paramsMember req "params"
      [("params", .obj [("string", .str (Params.render ps)), ("format", .str (Params.render ps))])]
    | _ => []
  let text : List (String × Json) := match octets? req "text" with
    | none => []
    | some t =>
      [("unmarshal", match Uri.parse t with
        | .ok u => .obj [("string", .str u.render), ("marshal", .str u.render)]
        | .error e => .obj [("error", faultJson e), ("zero", .bool true)])]
  .ok (.obj (auth ++ hostPort ++ flagParam ++ params ++ text))

end SipCodec.Inspect
