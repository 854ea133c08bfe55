import SipCodec.Uri.Reader
import SipCodec.Scalar.Method
import SipCodec.Scalar.Version
import SipCodec.Scalar.Status

/-! The first line of a message (RFC 3261 §7.1, §7.2): a request line `method SP URI SP
version` or a status line `version SP code SP reason`. Blanks between the parts may be
repeated and include tabs; the line ends at LF, with a CR before it dropped. A line that has no
LF yet is incomplete, unless it already holds a control character, which no start line may
hold. -/

namespace SipCodec

/-- The first line of a message. -/
inductive StartLine where
  | request (method : Method) (uri : Uri) (version : Version)
  | status (version : Version) (status : Status) (reason : Bytes)
  deriving Inhabited

namespace StartLine

def render : StartLine → Bytes
  | .request m u v => m.name ++ [32] ++ u.render ++ [32] ++ v.render
  | .status v s r => v.render ++ [32] ++ Bytes.ofNat s.code ++ [32] ++ r

def isRequest : StartLine → Bool
  | .request _ _ _ => true
  | .status _ _ _ => false

/-- The protocol version of a start line. -/
def version : StartLine → Version
  | .request _ _ v => v
  | .status v _ _ => v

/-- The texts of a request line. -/
structure RequestToken where
  method : Bytes
  uri : Uri.Token
  version : Version.Token

/-- The texts of a status line. -/
structure StatusToken where
  version : Version.Token
  status : Bytes
  reason : Bytes

/-- The texts of a start line. -/
inductive Token where
  | request (t : RequestToken)
  | status (t : StatusToken)

/-- Octets that no start line may hold: controls other than tab and CR, and DEL. -/
def isForbidden (c : UInt8) : Bool := (c < 0x20 && c != 9 && c != 13) || c == 0x7f

/-- Cuts the line at the front: the line without its end, and the rest. -/
def cutLine (s : Bytes) : Outcome (Bytes × Bytes) :=
  match s.idxOf? 10 with
  | some i =>
    let line := s.take i
    .ok (if line.getLast? == some 13 then line.dropLast else line, s.drop (i + 1))
  | none =>
    match s.find? isForbidden with
    | some c =>
      .error (.detail .tokenize (lit "unexpected control character 0x" ++
        [Octet.hexDigitLower (c.toNat / 16), Octet.hexDigitLower (c.toNat % 16)] ++
        lit " in start line"))
    | none => .error (.detail .incomplete (lit "start line"))

/-- Skips the blanks at the front, of which there must be one at least. -/
def cutBlanks (s : Bytes) : Option Bytes :=
  match s with
  | c :: _ => if Octet.isWsp c then some (s.dropWhile Octet.isWsp) else none
  | [] => none

/-- Cuts a request line at the front. -/
def tokenizeRequest (s : Bytes) : Outcome (Bytes × RequestToken) := do
  let (line, rest) ← cutLine s
  let (m, r) ← Method.tokenize line
  let some r := cutBlanks r | throw (.tokenizeText "SP expected after method")
  let (r, u) ← (Uri.tokenize r).mapError (Fault.wrapIn .tokenize)
  let some r := cutBlanks r | throw (.tokenizeText "SP expected after request URI")
  let (v, r) ← Version.tokenize r
  if !(Lexical.trimLws r).isEmpty then
    throw (.detail .tokenize (lit "unexpected " ++ Literal.quote r ++ lit " after version"))
  return (rest, ⟨m, u, v⟩)

/-- Cuts a status line at the front; the reason may be missing. -/
def tokenizeStatus (s : Bytes) : Outcome (Bytes × StatusToken) := do
  let (line, rest) ← cutLine s
  let (v, r) ← Version.tokenize line
  let some r := cutBlanks r | throw (.tokenizeText "SP expected after version")
  let (code, r) ← Status.tokenize r
  let reason ←
    if r.isEmpty then pure r
    else match cutBlanks r with
      | some r => pure r
      | none => throw (.tokenizeText "SP expected after status code")
  return (rest, ⟨v, code, reason⟩)

/-- The start line of its texts. A reason phrase must be UTF-8 and loses its trailing blanks. -/
def ofToken : Token → Outcome StartLine
  | .request t => do
    return .request (← Method.ofToken t.method) (← Uri.ofToken t.uri) (← Version.ofToken t.version)
  | .status t => do
    let v ← Version.ofToken t.version
    let s ← Status.ofToken t.status
    if !Utf8.isValid t.reason then throw (.detail .utf8 (lit "reason phrase"))
    return .status v s (Bytes.trimRightBy Octet.isWsp t.reason)

end StartLine

end SipCodec
