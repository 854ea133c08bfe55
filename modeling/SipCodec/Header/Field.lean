import SipCodec.Typed.Header
import SipCodec.Scalar.HeaderName

/-! Header fields as written: a name and a raw value. A field whose name is one of the known
header names (in any case, or in its compact form) keeps the canonical spelling of that name;
any other name is an extension header and is kept as written. Known fields compare by name and
exact value and may be written with their compact name; extension fields compare names without
regard to case and are always written with their own name. -/

namespace SipCodec

/-- A header field: its name and its raw value. -/
structure Header where
  name : Bytes
  value : Bytes
  deriving DecidableEq, Inhabited

namespace Header

/-- The field of a name and value: a known name takes its canonical spelling. -/
def make (name value : Bytes) : Header :=
  let c := HeaderName.canonic name
  if HeaderName.isKnown c then ⟨c, value⟩ else ⟨name, value⟩

/-- Whether the field has a known name (an extension header otherwise). -/
def isKnown (h : Header) : Bool := HeaderName.isKnown h.name

/-- The field line without its line end. A known field takes its compact name when `compact`
holds. -/
def render (compact : Bool) (h : Header) : Bytes :=
  let name := if compact && h.isKnown then HeaderName.compact h.name else h.name
  name ++ lit ": " ++ h.value

/-- Known fields are equal when they have the same name and value; extension fields when their
names differ at most in case and their values are the same. -/
def equal (a b : Header) : Bool :=
  if a.isKnown then b.isKnown && a.name == b.name && a.value == b.value
  else !b.isKnown && Bytes.eqFold a.name b.name && a.value == b.value

/-- An extension field is valid when its name is a token; known fields have no such check. -/
def isValid? (h : Header) : Option Bool :=
  if h.isKnown then none else some (Lexical.isToken h.name)

/-- The name of the field's class: the canonical name without hyphens, `Other` for extension
headers. -/
def className (h : Header) : String :=
  if h.isKnown then Bytes.asciiText (h.name.filter (· != 45)) else "Other"

/-- The typed value of the field, for known fields that have one. -/
def typed? (h : Header) : Option (Outcome TypedHeader) :=
  if h.isKnown then TypedHeader.parse? (Bytes.asciiText h.name) h.value
  else none

/-- The field of a typed value: its canonical name and its written value. -/
def ofTyped (t : TypedHeader) : Header := make (lit t.canonicName) t.renderValue

/-- The field with another value. -/
def replace (h : Header) (value : Bytes) : Header := { h with value := value }

end Header

end SipCodec
