import SipCodec.Message.StartLine
import SipCodec.Header.List

/-! SIP messages: a start line, header fields and a body (RFC 3261 §7). A message is written as
its start line, each field line, an empty line and the body, every line ended by CRLF. A
message is valid when its start line is well formed, the mandatory fields are there (Via,
From, To, Call-ID, CSeq, and Max-Forwards in requests), the CSeq and Via fields read, a
request's CSeq method is its own method, and a Content-Length field, if any, gives the length
of the body; every failed check is reported. -/

namespace SipCodec

/-- A request or response. -/
structure Message where
  start : StartLine
  headers : List Header
  body : Bytes
  deriving Inhabited

namespace Message

def isRequest (m : Message) : Bool := m.start.isRequest

/-- The start line as written. -/
def startLine (m : Message) : Bytes := m.start.render

/-- The whole message as written; `compact` writes known fields with their compact names. -/
def render (compact : Bool) (m : Message) : Bytes :=
  m.start.render ++ lit "\r\n" ++ Headers.render compact m.headers ++ lit "\r\n" ++ m.body

/-- Requests are equal when their methods match without regard to case and their URIs,
versions, fields and bodies are equal; responses when their codes, reasons, versions, fields
and bodies are. -/
def equal (a b : Message) : Bool :=
  let rest := Headers.equal a.headers b.headers && a.body == b.body
  match a.start, b.start with
  | .request m u v, .request m' u' v' => m.equal m' && v == v' && u.equal u' && rest
  | .status v s r, .status v' s' r' => s.code == s'.code && r == r' && v == v' && rest
  | _, _ => false

/-- The check of the Content-Length field against the body. -/
def lengthFault? (hs : List Header) (body : Bytes) : Option Fault :=
  match Headers.first? hs (lit "Content-Length") with
  | none => none
  | some h =>
    match Scan.parseUint32 h.value with
    | .error e => some e
    | .ok n =>
      if n == body.length then none
      else some (.note (lit "content length mismatch: got " ++ Bytes.ofNat n ++ lit ", want " ++
        Bytes.ofNat body.length))

/-- The checks of the fields: the mandatory ones, then whether CSeq and Via read. -/
def headerFaults (hs : List Header) (mandatory : List String) : List Fault :=
  let missing := mandatory.filterMap fun n =>
    if Headers.has hs (lit n) then none else some (Fault.detail .missingHeader (lit n))
  let typedFault (n : String) : List Fault :=
    match (Headers.first? hs (lit n)).bind Header.typed? with
    | some (.error e) => (Fault.joinPrefix (lit n) [e]).toList
    | _ => []
  missing ++ typedFault "CSeq" ++ typedFault "Via"

/-- Every failed check of the message, in order. -/
def faults (m : Message) : List Fault :=
  match m.start with
  | .request meth u v =>
    let line := (if meth.isValid then [] else
        [Fault.note (lit "invalid method " ++ Literal.quote meth.name)]) ++
      (if u.isValid then [] else [Fault.note (lit "invalid URI " ++ Literal.quote u.render)]) ++
      (if v.isValid then [] else [Fault.note (lit "invalid version " ++ Literal.quote v.render)])
    let cseq := match (Headers.first? m.headers (lit "CSeq")).bind Header.typed? with
      | some (.ok (.cseq c)) =>
        if c.method.equal meth then []
        else [Fault.note (lit "CSeq method " ++ Literal.quote c.method.name ++
          lit " does not match request method " ++ Literal.quote meth.name)]
      | _ => []
    line ++ headerFaults m.headers ["Via", "From", "To", "Call-ID", "CSeq", "Max-Forwards"] ++
      cseq ++ (lengthFault? m.headers m.body).toList
  | .status v s _ =>
    (if s.isValid then [] else [Fault.note (lit "invalid status " ++ Bytes.ofNat s.code)]) ++
      (if v.isValid then [] else [Fault.note (lit "invalid version " ++ Literal.quote v.render)]) ++
      headerFaults m.headers ["Via", "From", "To", "Call-ID", "CSeq"] ++
      (lengthFault? m.headers m.body).toList

/-- The failure of validation, joining every failed check; `none` for a valid message. -/
def validate (m : Message) : Option Fault := (Fault.join m.faults).map (.wrap .invalidMessage)

def isValid (m : Message) : Bool := m.validate.isNone

end Message

end SipCodec
