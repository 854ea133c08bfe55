import SipCodec.Inspect.Basic
import SipCodec.Message.Decoder

/-! Answers about the decoder and about log records: a fresh decoder runs a list of steps
(writes, decodes, feeds and resets) and each step is answered with the decoder's state after
it; the counters and the kept records follow. Log levels and the logged form of raw data are
answered on their own. -/

namespace SipCodec.Inspect

def scalarJson : Log.Scalar → Json
  | .int n => .int n
  | .text s => .str s

def attrValueJson : Log.Value → Json
  | .scalar v => scalarJson v
  | .group attrs => .arr (attrs.map fun (k, v) => .arr [.ofString k, scalarJson v])

def recordJson (r : Log.Record) : Json :=
  .obj [("level", .ofString r.level.name), ("msg", .ofString r.msg),
    ("attrs", .arr (r.attrs.map fun (k, v) => .arr [.ofString k, attrValueJson v]))]

/-- A decoded message: its kind and text. -/
def decodedJson (m : Message) : Json :=
  .obj [("kind", .ofString (if m.isRequest then "request" else "response")),
    ("render", .str (m.render false))]

def decoderMetricsJson (collect : Bool) (m : DecoderMetrics) : Json :=
  .obj ([("request", .ofNat m.requests), ("response", .ofNat m.responses),
    ("keepalive", .ofNat m.keepAliveBytes),
    ("errors", .obj (m.errors.map fun (r, n) => (r, .ofNat n)))] ++
    (if collect then [("series", .ofNat 10)] else []))

/-- Runs one step on a decoder: the decoder after it and the members it adds to the answer. -/
def decoderStep (d : Decoder) (step : Json) : Except String (Decoder × List (String × Json)) :=
  match word step "op" with
  | "write" =>
    let data := octets step "data"
    .ok (d.write data, [("written", .ofNat data.length)])
  | "decode" =>
    match d.decode with
    | (d, .ok m) => .ok (d, [("message", decodedJson m)])
    | (d, .error e) => .ok (d, [("error", faultJson e), ("reason", .ofString e.reason)])
  | "feed" =>
    let (d, msgs, err) := d.feed (octets step "data")
    .ok (d, [("messages", .arr (msgs.map decodedJson)), ("error", Json.opt faultJson err)])
  | "reset" => .ok (d.reset, [])
  | op => .error ("unknown step " ++ quoted op)

/-- A log level member: none when absent, DEBUG when empty; a text that names no level is refused. -/
def levelMember (req : Json) (key : String) : Except String (Option Log.Level) :=
  match word? req key with
  | none => .ok none
  | some "" => .ok (some Log.Level.debug)
  | some s =>
    match Log.Level.read? (lit s) with
    | some l => .ok (some l)
    | none => .error ("bad level " ++ quoted s)

/-- Answers a `decoder` request. -/
def decoderAnswer (req : Json) : Answer := do
  let level ← levelMember req "log"
  match word? req "handler" with
  | none | some "collector" | some "func" | some "mock" => pure ()
  | some h => throw ("unknown handler " ++ quoted h)
  let absent := flag req "nil_options"
  let opts := if absent then DecoderOptions.make false 0 none
    else DecoderOptions.make (flag req "stream") ((integer? req "max_message_size").getD 0) level
  let steps := ((req.get? "steps").bind Json.asList?).getD []
  let (d, answers) ← steps.foldlM (fun (d, acc) step => do
    let (d, members) ← decoderStep d step
    return (d, acc ++ [.obj (members ++ [("state", .ofString d.state.name),
      ("buffered", .ofNat d.buffered)])])) (Decoder.new opts, [])
  let base : List (String × Json) := [("steps", .arr answers),
    ("metrics", if absent then .null else decoderMetricsJson (flag req "collect") d.metrics)]
  return .obj (base ++ match level with
    | some _ => [("log", .arr (d.records.map recordJson))]
    | none => [])

/-- Answers a `log` request. -/
def logAnswer (req : Json) : Answer := do
  let enabled : List (String × Json) ← match word? req "format" with
    | none => pure []
    | some "console" | some "dev" => do
      let least := (← levelMember req "level").getD Log.Level.debug
      pure [("enabled", .obj (Log.Level.named.map fun (n, l) => (n, .bool (least.value ≤ l.value))))]
    | some _ => throw "unknown format"
  let raw := ((req.get? "bytes_hex").bind Json.asBytes?).orElse fun _ =>
    (req.get? "bytes").bind Json.asBytes?
  let bytes : List (String × Json) := match raw with
    | some b => [("bytes_value", attrValueJson (Log.bytesValue b))]
    | none => []
  let text : List (String × Json) := match (req.get? "string").bind Json.asBytes? with
    | some s => [("string_value", .str s), ("bytes_string_value", .str s)]
    | none => []
  return .obj (enabled ++ bytes ++ text ++ [("noop_enabled", .bool false)])

end SipCodec.Inspect
