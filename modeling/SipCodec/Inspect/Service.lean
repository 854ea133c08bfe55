import SipCodec.Inspect.Grammar
import SipCodec.Inspect.Scalar
import SipCodec.Inspect.Errors
import SipCodec.Inspect.Uri
import SipCodec.Inspect.Typed
import SipCodec.Inspect.Header
import SipCodec.Inspect.Message
import SipCodec.Inspect.Compare
import SipCodec.Inspect.Render
import SipCodec.Inspect.Probe
import SipCodec.Inspect.Digest
import SipCodec.Inspect.Decoder

/-! The inspection service: one request in, one answer out. A refused request is answered
with the error `bad_input` and its reason. -/

namespace SipCodec.Inspect

/-- Answers one request, dispatching on its `op`. -/
def answer (req : Json) : Json :=
  let result : Answer := match word req "op" with
    | "grammar" => grammarAnswer req
    | "scalar" => scalarAnswer req
    | "errors" => errorsAnswer req
    | "uri" => uriAnswer req
    | "typed" => typedAnswer req
    | "parse_header" => parseHeaderAnswer req
    | "new_header" => newHeaderAnswer req
    | "headers" => headersAnswer req
    | "tokenize_message" => tokenizeMessageAnswer req
    | "parse_message" => parseMessageAnswer req
    | "message_from" => messageFromAnswer req
    | "build_message" => buildMessageAnswer req
    | "new_response" => newResponseAnswer req
    | "equal" => equalAnswer req
    | "render_limited" => renderLimitedAnswer req
    | "probe" => probeAnswer req
    | "digest_compute" => digestComputeAnswer req
    | "digest_verify" => digestVerifyAnswer req
    | "digest_answer" => digestAnswerAnswer req
    | "digest_header" => digestHeaderAnswer req
    | "decoder" => decoderAnswer req
    | "log" => logAnswer req
    | "uri_build" => uriBuildAnswer req
    | op => .error ("unknown op " ++ quoted op)
  match result with
  | .ok j => j
  | .error reason => .obj [("error", .ofString "bad_input"), ("message", .ofString reason)]

/-- The answer to a request line that is not a JSON object. -/
def unreadable (reason : String) : Json :=
  .obj [("error", .ofString "bad_input"), ("message", .ofString reason)]

end SipCodec.Inspect
