import SipCodec.Text.Lexical
import SipCodec.Text.Case
import SipCodec.Text.Space

/-! Header names. Names compare ignoring case and white space around them; the forty-six
names of the core specifications are known, eleven of them with a one-letter compact form.
A known name, full or compact, has its table spelling as canonical form; any other name is
spelled with upper-case letters at its start and after each hyphen, unless it holds an octet
that cannot appear in a field name, in which case it is kept as written. -/

namespace SipCodec.HeaderName

def knownNames : List Bytes :=
  ["Accept", "Accept-Encoding", "Accept-Language", "Alert-Info", "Allow", "Authentication-Info",
    "Authorization", "Call-ID", "Call-Info", "Contact", "Content-Disposition", "Content-Encoding",
    "Content-Language", "Content-Length", "Content-Type", "CSeq", "Date", "Error-Info", "Event",
    "Expires", "From", "In-Reply-To", "Max-Forwards", "MIME-Version", "Min-Expires",
    "Organization", "Priority", "Proxy-Authenticate", "Proxy-Authorization", "Proxy-Require",
    "Record-Route", "Reply-To", "Require", "Retry-After", "Route", "Server", "Subject",
    "Subscription-State", "Supported", "Timestamp", "To", "Unsupported", "User-Agent", "Via",
    "Warning", "WWW-Authenticate"].map lit

/-- The compact forms, each with its full name. -/
def compactNames : List (Bytes × Bytes) :=
  [("Content-Type", "c"), ("Content-Encoding", "e"), ("From", "f"), ("Call-ID", "i"),
    ("Supported", "k"), ("Content-Length", "l"), ("Contact", "m"), ("Event", "o"),
    ("Subject", "s"), ("To", "t"), ("Via", "v")].map fun (n, c) => (lit n, lit c)

/-- The known name that a lower-cased full or compact name stands for. -/
def lookup? (lowered : Bytes) : Option Bytes :=
  match knownNames.find? (fun n => Bytes.toLower n == lowered) with
  | some n => some n
  | none => (compactNames.find? (·.2 == lowered)).map (·.1)

/-- Octets allowed in a field name (RFC 7230 `tchar`). -/
def isFieldChar (c : UInt8) : Bool :=
  Octet.isAlnum c || c == 33 || c == 35 || c == 36 || c == 37 || c == 38 || c == 39 ||
    c == 42 || c == 43 || c == 45 || c == 46 || c == 94 || c == 95 || c == 96 || c == 124 ||
    c == 126

/-- Upper case at the start and after each hyphen, lower case elsewhere. -/
def mimeCase (s : Bytes) : Bytes :=
  (s.foldl (fun (acc : Bytes × Bool) c =>
    let c' := if acc.2 then Octet.toUpper c else Octet.toLower c
    (c' :: acc.1, c' == 45)) ([], true)).1.reverse

/-- The canonical form of a header name. -/
def canonic (name : Bytes) : Bytes :=
  let s := Bytes.trimSpace name
  match lookup? (Bytes.toLower s) with
  | some n => n
  | none => if s.all isFieldChar then mimeCase s else s

/-- The compact form of a header name, or its canonical form when it has none. -/
def compact (name : Bytes) : Bytes :=
  let n := canonic name
  match compactNames.find? (·.1 == n) with
  | some (_, c) => c
  | none => n

def isKnown (name : Bytes) : Bool := (lookup? (Bytes.toLower (Bytes.trimSpace name))).isSome

def isValid (name : Bytes) : Bool := Lexical.isToken name

/-- Names are equal when their canonical forms are. -/
def equal (a b : Bytes) : Bool := canonic a == canonic b

end SipCodec.HeaderName
