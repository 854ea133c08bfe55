import SipCodec.Text.Numeral

/-! Response status codes and reason phrases. A code is three digits; codes 100 to 999 are
valid, and the codes of the core specifications have a default reason phrase. -/

namespace SipCodec

structure Status where
  code : Nat
  deriving BEq, DecidableEq, Inhabited, Repr

/-- The class of a status code, by its first digit. -/
inductive StatusKind where
  | provisional
  | successful
  | redirection
  | requestFailure
  | serverFailure
  | globalFailure
  | other
  deriving DecidableEq, Repr

def StatusKind.text : StatusKind → String
  | .provisional => "provisional"
  | .successful => "successful"
  | .redirection => "redirection"
  | .requestFailure => "request failure"
  | .serverFailure => "server failure"
  | .globalFailure => "global failure"
  | .other => "other"

namespace Status

/-- The default reason phrases. -/
def reasons : List (Nat × String) :=
  [(100, "Trying"), (180, "Ringing"), (181, "Call Is Being Forwarded"), (182, "Queued"),
    (183, "Session Progress"), (199, "Early Dialog Terminated"), (200, "OK"), (202, "Accepted"),
    (204, "No Notification"), (300, "Multiple Choices"), (301, "Moved Permanently"),
    (302, "Moved Temporarily"), (305, "Use Proxy"), (380, "Alternative Service"),
    (400, "Bad Request"), (401, "Unauthorized"), (402, "Payment Required"), (403, "Forbidden"),
    (404, "Not Found"), (405, "Method Not Allowed"), (406, "Not Acceptable"),
    (407, "Proxy Authentication Required"), (408, "Request Timeout"), (409, "Conflict"),
    (410, "Gone"), (411, "Length Required"), (412, "Conditional Request Failed"),
    (413, "Request Entity Too Large"), (414, "Request-URI Too Long"),
    (415, "Unsupported Media Type"), (416, "Unsupported URI Scheme"),
    (417, "Unknown Resource-Priority"), (420, "Bad Extension"), (421, "Extension Required"),
    (422, "Session Interval Too Small"), (423, "Interval Too Brief"),
    (428, "Use Identity Header"), (429, "Provide Referrer Identity"), (430, "Flow Failed"),
    (433, "Anonymity Disallowed"), (436, "Bad Identity-Info"), (437, "Unsupported Certificate"),
    (438, "Invalid Identity Header"), (439, "First Hop Lacks Outbound Support"),
    (440, "Max-Breadth Exceeded"), (470, "Consent Needed"), (480, "Temporarily Unavailable"),
    (481, "Call/Transaction Does Not Exist"), (482, "Loop Detected"), (483, "Too Many Hops"),
    (484, "Address Incomplete"), (485, "Ambiguous"), (486, "Busy Here"),
    (487, "Request Terminated"), (488, "Not Acceptable Here"), (489, "Bad Event"),
    (491, "Request Pending"), (493, "Undecipherable"), (494, "Security Agreement Required"),
    (500, "Server Internal Error"), (501, "Not Implemented"), (502, "Bad Gateway"),
    (503, "Service Unavailable"), (504, "Gateway Time-out"), (505, "Version Not Supported"),
    (513, "Message Too Large"), (580, "Precondition Failure"), (600, "Busy Everywhere"),
    (603, "Decline"), (604, "Does Not Exist Anywhere"), (606, "Not Acceptable"),
    (687, "Dialog Terminated")]

def isValid (s : Status) : Bool := 100 ≤ s.code && s.code ≤ 999

def isKnown (s : Status) : Bool := reasons.any (·.1 == s.code)

/-- The default reason phrase, empty for codes without one. -/
def reason (s : Status) : Bytes := lit (((reasons.find? (·.1 == s.code)).map (·.2)).getD "")

def isProvisional (s : Status) : Bool := 100 ≤ s.code && s.code < 200

def isFinal (s : Status) : Bool := 200 ≤ s.code && s.code < 700

def kind (s : Status) : StatusKind :=
  if s.code < 100 then .other
  else if s.code < 200 then .provisional
  else if s.code < 300 then .successful
  else if s.code < 400 then .redirection
  else if s.code < 500 then .requestFailure
  else if s.code < 600 then .serverFailure
  else if s.code < 700 then .globalFailure
  else .other

def render (s : Status) : Bytes := Bytes.ofNat s.code

/-- Cuts a three-digit code that no further digit follows. -/
def tokenize (s : Bytes) : Outcome (Bytes × Bytes) :=
  let code := s.take 3
  let rest := s.drop 3
  if code.length == 3 && Bytes.isDigits code && !(match rest with
      | c :: _ => Octet.isDigit c
      | [] => false) then .ok (code, rest)
  else .error (.tokenizeText "3-digit status code expected")

/-- A code from its digits, which must make a number from 100 to 999. -/
def ofToken (tok : Bytes) : Outcome Status := do
  let code ← Numeral.decimal 16 tok
  if code < 100 || code > 999 then
    throw (.detail .parse (lit "status code " ++ Bytes.ofNat code ++ lit " out of range"))
  return ⟨code⟩

def parse (s : Bytes) : Outcome Status := do
  let (tok, rest) ← tokenize s
  if !rest.isEmpty then throw Fault.trailing
  ofToken tok

end Status

end SipCodec
