import SipCodec.Message.Basic

/-! Reading messages. The head is the start line, the field lines and the empty line that ends
them; the body is everything after it. Empty lines before the start line are skipped. The
start line is tried as a status line first and as a request line when that fails for a reason
other than missing input. A head that stops before its empty line is incomplete. -/

namespace SipCodec

namespace Message

/-- The texts of a message: its start line (none for an empty reading), its field lines and
its body. -/
structure Token where
  start : Option StartLine.Token
  headers : List Header.LineToken
  body : Bytes

/-- Whether the texts start with a request line. -/
def Token.isRequest (t : Token) : Bool :=
  match t.start with
  | some (.request _) => true
  | _ => false

/-- Cuts field lines up to the empty line that ends the head. -/
def tokenizeFields (s : Bytes) : Outcome (Bytes × List Header.LineToken) :=
  go (s.length + 1) s []
where
  go : Nat → Bytes → List Header.LineToken → Outcome (Bytes × List Header.LineToken)
    | 0, rest, acc => .ok (rest, acc.reverse)
    | fuel + 1, rest, acc =>
      match rest with
      | [] | [13] => .error (.detail .incomplete (lit "message head"))
      | 10 :: after => .ok (after, acc.reverse)
      | 13 :: 10 :: after => .ok (after, acc.reverse)
      | _ => do
        let (after, tok) ← Header.tokenizeLine rest
        go fuel after (tok :: acc)

/-- Cuts the head of a message at the front: the texts of the head, and the rest. -/
def tokenizeHead (s : Bytes) : Outcome (Bytes × Token) := do
  let (rest, start) ← match StartLine.tokenizeStatus s with
    | .ok (r, t) => pure (r, StartLine.Token.status t)
    | .error e =>
      if e.isIncomplete then throw e
      else do
        let (r, t) ← StartLine.tokenizeRequest s
        pure (r, StartLine.Token.request t)
  let (rest, fields) ← tokenizeFields rest
  return (rest, ⟨some start, fields, []⟩)

/-- Drops CRLF and LF line ends at the front. -/
def skipEmptyLines : Bytes → Bytes
  | 13 :: 10 :: rest => skipEmptyLines rest
  | 10 :: rest => skipEmptyLines rest
  | s => s

/-- Cuts a whole message: empty lines first, then the head; everything after it is the body. -/
def tokenize (s : Bytes) : Outcome (Bytes × Token) := do
  let (rest, tok) ← tokenizeHead (skipEmptyLines s)
  return ([], { tok with body := rest })

/-- The message of its texts. -/
def ofToken (t : Token) : Outcome Message := do
  let some st := t.start | throw (.detail .unexpected (lit "tokenized message has no start line"))
  let start ← StartLine.ofToken st
  let headers ← t.headers.mapM Header.ofLine
  return ⟨start, headers, t.body⟩

/-- The request of its texts, which must start with a request line. -/
def requestOfToken (t : Token) : Outcome Message :=
  match t.start with
  | some (.request _) => ofToken t
  | _ => .error (.tokenizeText "request line expected")

/-- The response of its texts, which must start with a status line. -/
def responseOfToken (t : Token) : Outcome Message :=
  match t.start with
  | some (.status _) => ofToken t
  | _ => .error (.tokenizeText "status line expected")

/-- Reads a whole message. -/
def parse (s : Bytes) : Outcome Message := do
  let (_, tok) ← tokenize s
  ofToken tok

/-- Reads a whole message, which must be a request. -/
def parseRequest (s : Bytes) : Outcome Message := do
  let m ← parse s
  if m.isRequest then return m else throw (.tokenizeText "request expected, got response")

/-- Reads a whole message, which must be a response. -/
def parseResponse (s : Bytes) : Outcome Message := do
  let m ← parse s
  if m.isRequest then throw (.tokenizeText "response expected, got request") else return m

end Message

end SipCodec
