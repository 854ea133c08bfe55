import SipCodec.Inspect.Typed
import SipCodec.Header.Json

/-! Answers about header fields and header lists: a field with its class, texts and typed
value; the reading of one header line; and a header list driven through a series of edits and
look-ups. -/

namespace SipCodec.Inspect

/-- A header field with its class, texts, checks and, when it has one, its typed value. -/
def headerJson (withTyped : Bool) (h : Header) : Json :=
  let replaced := h.replace (h.value ++ lit "!")
  let base : List (String × Json) :=
    [("name", .str h.name), ("value", .str h.value), ("class", .ofString h.className),
      ("string", .str (h.render false)), ("render_compact", .str (h.render true))]
  let valid := match h.isValid? with
    | some b => [("valid", .bool b)]
    | none => []
  let rest : List (String × Json) :=
    [("clone_equal", .bool (h.equal h)), ("equal_other_class", .bool false),
      ("replaced", .str (replaced.render false)), ("equal_after_replace", .bool (h.equal replaced))]
  let typed := match withTyped, h.typed? with
    | true, some (.ok t) => [("typed", .obj [("ok", typedJson t none)])]
    | true, some (.error e) => [("typed", .obj [("error", faultJson e)])]
    | _, _ => []
  .obj (base ++ valid ++ rest ++ typed)

/-- Answers a `parse_header` request. -/
def parseHeaderAnswer (req : Json) : Answer :=
  .ok (outcomeJson (fun h => (headerJson true h).push "is_known" (.bool h.isKnown))
    (Header.parse (octets req "input")))

/-- Answers a `new_header` request. -/
def newHeaderAnswer (req : Json) : Answer :=
  let name := octets req "name"
  let h := Header.make name (octets req "value")
  .ok ((headerJson true h).push "canonic" (.str (HeaderName.canonic name)))

/-- The fields that must be present in a message, by canonical name. -/
def requiredNames : List String := ["To", "From", "Via", "Call-ID", "CSeq", "Max-Forwards", "Contact"]

/-- The fields that are looked up only when present. -/
def optionalNames : List String :=
  ["Content-Length", "Content-Type", "Authorization", "Proxy-Authorization", "WWW-Authenticate",
    "Proxy-Authenticate", "Expires", "User-Agent", "Record-Route", "Route"]

/-- A header list being edited; `none` is no list at all, which differs from an empty one only
in its JSON form. -/
abbrev ListState := Option (List Header)

def ListState.items (s : ListState) : List Header := s.getD []

/-- Reads one header line given in a request. -/
def headerLine (j : Json) : Except String Header :=
  match j.asBytes? with
  | some line =>
    match Header.parse line with
    | .ok h => .ok h
    | .error e => .error ("header does not parse: " ++ Bytes.asciiText e.message)
  | none => .error "header lines must be strings"

/-- Reads the header lines of a request member. -/
def headerLines (req : Json) (key : String) : Except String (List Header) :=
  match req.get? key with
  | some (.arr items) => items.mapM headerLine
  | _ => .ok []

/-- One step on a header list: the list after it and the members it adds to the answer. -/
def headerStep (st : ListState) (step : Json) : Except String (ListState × List (String × Json)) := do
  let hs := st.items
  let name := octets step "name"
  let one : Except String Header := headerLine ((step.get? "header").getD .null)
  let strings (l : List Header) : Json := .arr (l.map fun h => .str (h.render false))
  match word step "op" with
  | "push" => return (some (Headers.push hs (← one)), [])
  | "unique_push" => return (some (Headers.uniquePush hs (← one)), [])
  | "push_front" => return (some (Headers.pushFront hs (← one)), [])
  | "remove" => return (st.map (Headers.remove · name), [])
  | "extend" =>
    let more ← headerLines step "headers"
    return (if st.isNone && more.isEmpty then none else some (hs ++ more), [])
  | "retain_valid_typed" => return (st.map Headers.retainValidTyped, [])
  | "get" => return (st, [("result", Json.opt (fun h => .str (h.render false)) (Headers.get? hs name))])
  | "has" => return (st, [("result", .bool (Headers.has hs name))])
  | "by_name" => return (st, [("result", strings (Headers.byName hs name))])
  | "accessor" =>
    let n := word step "name"
    if requiredNames.contains n then
      return (st, [("result", outcomeJson (fun h => .obj [("found", .str (h.render false))])
        (Headers.required hs (lit n)))])
    else if optionalNames.contains n then
      return (st, [("result", .obj [("found",
        Json.opt (fun h => .str (h.render false)) (Headers.first? hs (lit n)))])])
    else throw ("unknown accessor " ++ quoted n)
  | "accessor_replace" =>
    match Headers.replaceFirst? hs name (octets step "value") with
    | some hs' => return (some hs', [("result", .bool true)])
    | none => return (st, [("result", .bool false)])
  | "all" => return (st, [("result", strings (Headers.ofClass hs name))])
  | "equal_clone" => return (st, [("result", .bool (Headers.equal hs hs))])
  | "json" =>
    let text := Headers.toJsonText hs
    let back := match Headers.ofJsonText? text with
      | some (some l) => Headers.equal hs l
      | some none => hs.isEmpty
      | none => false
    return (st, [("result", .str text), ("roundtrip_equal", .bool back)])
  | "enumerate" =>
    return (st, [("result", .arr (hs.zipIdx.map fun (h, i) =>
        .obj [("index", .ofNat i), ("name", .str h.name)])),
      ("string", .str (Headers.render false hs))])
  | "json_decode" =>
    match Headers.ofJsonText? (octets step "data") with
    | some st' => return (st', [("error", .null), ("is_nil", .bool st'.isNone)])
    | none => return (st, [("error", .ofString "json"), ("is_nil", .bool st.isNone)])
  | op => throw ("unknown step " ++ quoted op)

/-- Runs the steps of a `headers` request in order. -/
def headerSteps (st : ListState) : List Json → Except String (List Json)
  | [] => .ok []
  | step :: more => do
    let (st, fields) ← headerStep st step
    let here : Json := .obj ([("len", .ofNat st.items.length),
      ("render", .str (Headers.render false st.items))] ++ fields)
    return here :: (← headerSteps st more)

/-- Answers a `headers` request. -/
def headersAnswer (req : Json) : Answer := do
  let start : ListState ← match req.get? "headers" with
    | some (.arr _) => some <$> headerLines req "headers"
    | _ => pure none
  let steps := ((req.get? "steps").bind Json.asList?).getD []
  return .obj [("steps", .arr (← headerSteps start steps))]

end SipCodec.Inspect
