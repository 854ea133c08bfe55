import SipCodec.Message.Reader
import SipCodec.Log.Record

/-! Framing messages off a transport. Bytes are written into a buffer and messages are decoded
from its front by a machine of three states: `idle` skips CR and LF keep-alives and waits for
the first octet of a message, `head` waits for the empty line that ends the head and reads
`Content-Length`, and `body` waits for the body.

In stream mode (reliable transports) every message needs `Content-Length`, and a message is
complete once its body has arrived. Otherwise every write is a whole datagram: the body is the
rest of the datagram unless `Content-Length` says otherwise, and what follows the message is
discarded. A frame that cannot be a message is dropped: the whole buffer when its head does
not read, else the frame (in stream mode) or the datagram. The decoder counts the messages it
decodes, the keep-alive octets it skips and the frames it drops, and keeps log records of at
least a chosen level. -/

namespace SipCodec

/-- The log attributes of a message: the parts of its start line, then the raw values of the
first Via, From, To, Call-ID and CSeq fields that are there. -/
def Message.logAttrs (m : Message) : List (String × Log.Scalar) :=
  let line : List (String × Log.Scalar) := match m.start with
    | .request meth u _ => [("method", .text meth.name), ("uri", .text u.render)]
    | .status _ s r => [("status", .int s.code), ("reason", .text r)]
  line ++ ["Via", "From", "To", "Call-ID", "CSeq"].filterMap fun n =>
    (Headers.first? m.headers (lit n)).map fun h => (n, .text h.value)

/-- Where the decoder stands. -/
inductive DecodeState where
  /-- Waiting for the first octet of a message; keep-alives are skipped. -/
  | idle
  /-- Waiting for the empty line that ends the head. -/
  | head
  /-- Waiting for the body. -/
  | body
  deriving DecidableEq, Inhabited

def DecodeState.name : DecodeState → String
  | .idle => "idle"
  | .head => "head"
  | .body => "body"

/-- The settings of a decoder. -/
structure DecoderOptions where
  stream : Bool
  /-- The largest message, head and body together. -/
  maxMessageSize : Nat
  /-- The least level of the records kept; none keeps no records. -/
  logLevel : Option Log.Level

/-- The size limit when none is given. -/
def DecoderOptions.defaultMaxMessageSize : Nat := 65535

/-- Settings from a stream flag, a size limit (zero or less means the default) and a level. -/
def DecoderOptions.make (stream : Bool) (maxSize : Int) (level : Option Log.Level) :
    DecoderOptions :=
  ⟨stream, if maxSize ≤ 0 then defaultMaxMessageSize else maxSize.toNat, level⟩

/-- What a decoder has counted. -/
structure DecoderMetrics where
  requests : Nat
  responses : Nat
  keepAliveBytes : Nat
  /-- Dropped frames by reason, each reason once. -/
  errors : List (String × Nat)
  deriving Inhabited

namespace DecoderMetrics

def empty : DecoderMetrics := ⟨0, 0, 0, []⟩

/-- Counts a dropped frame under its reason. -/
def recordError (m : DecoderMetrics) (reason : String) : DecoderMetrics :=
  if m.errors.any (·.1 == reason) then
    { m with errors := m.errors.map fun (r, n) => if r == reason then (r, n + 1) else (r, n) }
  else { m with errors := m.errors ++ [(reason, 1)] }

end DecoderMetrics

/-- A decoder: its settings, state, buffer, the lengths of the framed head and body, its
counters and the records it has logged. -/
structure Decoder where
  opts : DecoderOptions
  state : DecodeState
  buf : Bytes
  headLen : Nat
  bodyLen : Nat
  metrics : DecoderMetrics
  records : List Log.Record

namespace Decoder

/-- A fresh decoder. -/
def new (opts : DecoderOptions) : Decoder := ⟨opts, .idle, [], 0, 0, .empty, []⟩

/-- The number of buffered octets. -/
def buffered (d : Decoder) : Nat := d.buf.length

/-- Logs a record when its level is kept. -/
def log (d : Decoder) (level : Log.Level) (msg : String) (attrs : List (String × Log.Value)) :
    Decoder :=
  match d.opts.logLevel with
  | some least =>
    if least.value ≤ level.value then { d with records := d.records ++ [⟨level, msg, attrs⟩] }
    else d
  | none => d

/-- Appends octets to the buffer; writing never fails. -/
def write (d : Decoder) (p : Bytes) : Decoder := { d with buf := d.buf ++ p }

/-- Drops the buffer and returns to `idle`. -/
def reset (d : Decoder) : Decoder :=
  { d with buf := [], headLen := 0, bodyLen := 0, state := .idle }

/-- The number of CR and LF octets at the front. -/
def keepAliveLen (s : Bytes) : Nat := (s.takeWhile fun c => c == 13 || c == 10).length

/-- The `Content-Length` of the first field of that name among the head's lines, if any, read
as the typed value of that field's class. -/
def contentLength (lines : List Header.LineToken) : Outcome (Option Nat) :=
  match lines.find? fun l => HeaderName.canonic l.name == lit "Content-Length" with
  | none => .ok none
  | some l => do
    let h ← Header.ofLine l
    match h.typed? with
    | some (.ok (.contentLength n)) => return some n
    | some (.error e) => throw e
    | _ => throw (.withText .unexpected "unexpected Content-Length header type")

/-- The lengths of the head and the body of the message at the front of the buffer. -/
def frameSize (d : Decoder) : Outcome (Nat × Nat) := do
  let max := d.opts.maxMessageSize
  match Message.tokenizeHead d.buf with
  | .error e =>
    if !e.isIncomplete then throw e
    if d.buf.length > max then
      throw (.detail .messageTooLarge (lit "head exceeds " ++ Bytes.ofNat max ++ lit " bytes"))
    if !d.opts.stream then throw (.tokenizeText "datagram ends inside the message head")
    throw e
  | .ok (rest, tok) =>
    let headLen := d.buf.length - rest.length
    let bodyLen ← match ← contentLength tok.headers with
      | some n => pure n
      | none =>
        if d.opts.stream then throw (.detail .missingHeader (lit "Content-Length"))
        else pure rest.length
    if headLen + bodyLen > max then
      throw (.detail .messageTooLarge (Bytes.ofNat (headLen + bodyLen) ++ lit " bytes exceed " ++
        Bytes.ofNat max ++ lit " bytes"))
    return (headLen, bodyLen)

/-- Back in `idle` with the given buffer and no framed lengths. -/
def restart (d : Decoder) (buf : Bytes) : Decoder :=
  { d with buf := buf, headLen := 0, bodyLen := 0, state := .idle }

/-- Drops the first `n` buffered octets of a frame that failed, back in `idle`. -/
def drop (d : Decoder) (e : Fault) (n : Nat) : Decoder × Outcome Message :=
  let d := d.log .warn "frame dropped"
    [("error", .scalar (.text e.message)), ("data", Log.bytesValue (d.buf.take n))]
  let d := { d with metrics := d.metrics.recordError e.reason }
  (d.restart (d.buf.drop n), .error e)

/-- Hands out a decoded message, consuming its frame (the whole datagram when not in stream
mode), back in `idle`. -/
def frame (d : Decoder) (m : Message) : Decoder × Outcome Message :=
  let n := if d.opts.stream then d.headLen + d.bodyLen else d.buf.length
  let metrics := if m.isRequest then { d.metrics with requests := d.metrics.requests + 1 }
    else { d.metrics with responses := d.metrics.responses + 1 }
  let d := { d with metrics := metrics }
  ((d.restart (d.buf.drop n)).log .debug "message decoded" [("message", .group m.logAttrs)], .ok m)

/-- In `body`: the message once its body is there. -/
def decodeBody (d : Decoder) : Decoder × Outcome Message :=
  let size := d.headLen + d.bodyLen
  if d.buf.length < size then
    if d.opts.stream then (d, .error (.detail .incomplete (lit "message body")))
    else d.drop (.detail .tokenize (lit "datagram body is " ++ Bytes.ofNat (size - d.buf.length) ++
      lit " bytes shorter than Content-Length")) d.buf.length
  else
    match Message.parse (d.buf.take size) with
    | .ok m => d.frame m
    | .error e => d.drop e (if d.opts.stream then size else d.buf.length)

/-- In `head`: the lengths of the frame, then the body. -/
def decodeHead (d : Decoder) : Decoder × Outcome Message :=
  match d.frameSize with
  | .error e => if e.isIncomplete then (d, .error e) else d.drop e d.buf.length
  | .ok (h, b) =>
    let d := { d with state := .body, headLen := h, bodyLen := b }
    (d.log .debug "message head framed" [("head_len", .scalar (.int h)),
      ("body_len", .scalar (.int b))]).decodeBody

/-- In `idle`: keep-alives are skipped, then a message is framed. -/
def decodeIdle (d : Decoder) : Decoder × Outcome Message :=
  let n := keepAliveLen d.buf
  let d := if n > 0 then
      let metrics := { d.metrics with keepAliveBytes := d.metrics.keepAliveBytes + n }
      let d := { d with buf := d.buf.drop n, metrics := metrics }
      d.log .debug "keep-alive skipped" [("bytes", .scalar (.int n))]
    else d
  if d.buf.isEmpty then (d, .error (.detail .incomplete (lit "no data")))
  else { d with state := .head }.decodeHead

/-- Decodes the next message from the buffer. Missing input leaves the buffer as it is; any
other failure has dropped a frame, and decoding may go on after it. -/
def decode (d : Decoder) : Decoder × Outcome Message :=
  match d.state with
  | .idle => d.decodeIdle
  | .head => d.decodeHead
  | .body => d.decodeBody

/-- Writes octets and decodes every complete message, going on after dropped frames; their
failures are joined. Each decode that does not stop for more input consumes at least one
octet, so the buffer's length bounds the rounds. -/
def feed (d : Decoder) (p : Bytes) : Decoder × List Message × Option Fault :=
  let d := d.write p
  let (d, msgs, errs) := go (d.buf.length + 1) d [] []
  (d, msgs, Fault.join errs)
where
  go : Nat → Decoder → List Message → List Fault → Decoder × List Message × List Fault
    | 0, d, msgs, errs => (d, msgs.reverse, errs.reverse)
    | fuel + 1, d, msgs, errs =>
      match d.decode with
      | (d, .ok m) => go fuel d (m :: msgs) errs
      | (d, .error e) =>
        if e.isIncomplete then (d, msgs.reverse, errs.reverse) else go fuel d msgs (e :: errs)

end Decoder

end SipCodec
