import SipCodec.Inspect.Compare
import SipCodec.Message.Writes

/-! Answers about writing into a bounded sink. The sink keeps at most a given number of octets
in total; a write that does not fit keeps the octets that fit and fails. The value's renderer
writes its tree of writes into the sink, and its counting writers stop at the first failure. -/

namespace SipCodec.Inspect

/-- The answer of running a tree of writes into a sink bounded by `limit` octets. -/
def limitedWriteJson (limit : Nat) (w : Writes) : Json :=
  let (r, sink) := w.run ⟨[], limit⟩
  let base : List (String × Json) := [("count", .ofNat r.count), ("written", .str sink.kept)]
  if r.failed then
    .obj (base ++ [("error", .ofString "write limit reached"), ("is_limit", .bool true)])
  else .obj (base ++ [("error", .null)])

/-- Answers a `render_limited` request. -/
def renderLimitedAnswer (req : Json) : Answer := do
  let limit := natOr req "limit" 0
  let compact := flag req "compact"
  let value := octets req "value"
  let read : Outcome Renderable ← match word req "kind" with
    | "message" => pure ((Message.parse value).map .message)
    | "header" => pure (.ok (.header (Header.make (octets req "header") value)))
    | "headers" => do
      let hs ← headerLines req "lines"
      pure (.ok (.headers hs))
    | "typed" =>
      let name := word req "header"
      match TypedHeader.parse? name value with
      | some r => pure (r.map .typed)
      | none => throw ("unknown typed header " ++ quoted name)
    | "uri" => pure ((Uri.parse value).map .uri)
    | "with_params_list" => pure ((UriWithParams.parseList value).map .uriList)
    | k => throw ("unknown kind " ++ quoted k)
  return outcomeJson (fun v => limitedWriteJson limit (v.writes compact)) read

end SipCodec.Inspect
