import SipCodec.Inspect.Basic
import SipCodec.Grammar.Rules

/-! Answers about the lexical layer: matching one ABNF rule at the front of a text and naming
its nodes, and the helpers that cut, quote and escape text. -/

namespace SipCodec.Inspect

open Grammar Lexical

/-- The rules that can be matched by name, with the name of their top node. -/
def ruleNamed? : String → Option Rule
  | "userinfo" => some userinfo
  | "hostport" => some hostport
  | "server" => some server
  | "uri_path" => some uriPath
  | "uri_parameter" => some uriParameter
  | "uri_header" => some uriHeader
  | "generic_param" => some genericParam
  | "sip_version" => some sipVersion
  | "sent_version" => some sentVersion
  | "message_header" => some messageHeader
  | _ => none

/-- The match of a rule: its text, its length, the text of each asked-for node, and the
node asked for by `must`. -/
def ruleMatchJson (r : Rule) (req : Json) (input : Bytes) : Json :=
  match matchRule r input with
  | .error e => grammarFaultJson e
  | .ok n =>
    let keys := ((req.get? "nodes").bind Json.asList?).getD []
    let nodes := keys.filterMap fun k => match k with
      | .str key =>
        let key := String.fromUTF8? (ByteArray.mk key.toArray) |>.getD ""
        some (key, optBytes ((n.find? key).map Node.text))
      | _ => none
    let base : Json := .obj [("match", .str n.text), ("len", .ofNat n.text.length),
      ("nodes", .obj nodes)]
    match word? req "must" with
    | none => base
    | some k =>
      base.push "must" (match requireNode n k with
        | .ok found => .str found.text
        | .error e => grammarFaultJson e)

private def result (j : Json) : Answer := .ok (.obj [("result", j)])

/-- The one-octet `char` input of a request. -/
private def charInput (req : Json) : Except String UInt8 :=
  match octets req "char" with
  | [c] => .ok c
  | _ => .error "char must be one byte"

/-- Answers a `grammar` request. -/
def grammarAnswer (req : Json) : Answer := do
  let fn := word req "fn"
  let input := octets req "input"
  match ruleNamed? fn with
  | some r => return ruleMatchJson r req input
  | none =>
  match fn with
  | "bytes_nil" => result (.bool true)
  | "index_unquoted" =>
    let c ← charInput req
    result (.int (match indexUnquoted c input with
      | some i => (i : Int)
      | none => -1))
  | "cut_unquoted" =>
    let c ← charInput req
    match cutUnquoted c input with
    | some (before, after) =>
      return .obj [("before", .str before), ("after", .str after), ("found", .bool true)]
    | none => return .obj [("before", .str input), ("after", .null), ("found", .bool false)]
  | "quote" => result (.str (quote input))
  | "unquote" => result (.str (unquote input))
  | "escape" => result (.str (Percent.encode Percent.isUnreserved input))
  | "unescape" => result (.str (Percent.decode input))
  | "unescape_strict" =>
    match Percent.decodeStrict input with
    | .ok s => result (.str s)
    | .error e => return grammarFaultJson e
  | "is_token" => result (.bool (isToken input))
  | "is_quoted" => result (.bool (isQuoted input))
  | "is_digits" => result (.bool (Bytes.isDigits input))
  | "token_len" => result (.ofNat (tokenLen input))
  | "quoted_string_len" => result (.ofNat (quotedStringLen input))
  | "lws_len" => result (.ofNat (lwsLen input))
  | "skip_lws" => result (.str (skipLws input))
  | "trim_lws" => result (.str (trimLws input))
  | "cut_token" =>
    match cutToken input with
    | some (tok, rest) => return .obj [("tok", .str tok), ("rest", .str rest), ("ok", .bool true)]
    | none => return .obj [("tok", .null), ("rest", .str input), ("ok", .bool false)]
  | "cut_quoted" =>
    match cutQuoted input with
    | some (tok, rest) => return .obj [("tok", .str tok), ("rest", .str rest), ("ok", .bool true)]
    | none => return .obj [("tok", .null), ("rest", .str input), ("ok", .bool false)]
  | "cut_byte" =>
    let c ← charInput req
    match cutByte input c with
    | some rest => return .obj [("rest", .str rest), ("ok", .bool true)]
    | none => return .obj [("rest", .str input), ("ok", .bool false)]
  | other => .error ("unknown grammar fn " ++ quoted other)

end SipCodec.Inspect
