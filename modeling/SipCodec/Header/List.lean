import SipCodec.Header.Line

/-! Lists of header fields in message order. Names are looked up by their canonical form, so a
compact name and any spelling find the same fields. The required fields of a message (To,
From, Via, Call-ID, CSeq, Max-Forwards, Contact) are found as the first known field of that
name, and their absence is a failure of its own. -/

namespace SipCodec

namespace Headers

/-- Adds a field at the end. -/
def push (hs : List Header) (h : Header) : List Header := hs ++ [h]

/-- Adds a field at the front. -/
def pushFront (hs : List Header) (h : Header) : List Header := h :: hs

/-- The fields with the name. -/
def byName (hs : List Header) (name : Bytes) : List Header :=
  hs.filter fun h => HeaderName.equal h.name name

/-- Drops every field with the name. -/
def remove (hs : List Header) (name : Bytes) : List Header :=
  hs.filter fun h => !HeaderName.equal h.name name

/-- Replaces every field of the same name with the field, which goes at the end. -/
def uniquePush (hs : List Header) (h : Header) : List Header := push (remove hs h.name) h

/-- The first field with the name. -/
def get? (hs : List Header) (name : Bytes) : Option Header :=
  hs.find? fun h => HeaderName.equal h.name name

def has (hs : List Header) (name : Bytes) : Bool := (get? hs name).isSome

/-- The known fields of a canonical name. -/
def ofClass (hs : List Header) (canonic : Bytes) : List Header :=
  hs.filter fun h => h.isKnown && h.name == canonic

/-- The first known field of a canonical name. -/
def first? (hs : List Header) (canonic : Bytes) : Option Header := (ofClass hs canonic).head?

/-- The first known field of a canonical name, which must be there. -/
def required (hs : List Header) (canonic : Bytes) : Outcome Header :=
  match first? hs canonic with
  | some h => .ok h
  | none => .error (.detail .missingHeader canonic)

/-- Replaces the value of the first known field of a canonical name; `none` when there is
none. -/
def replaceFirst? (hs : List Header) (canonic : Bytes) (value : Bytes) : Option (List Header) :=
  match hs.findIdx? fun h => h.isKnown && h.name == canonic with
  | some i => some (hs.modify i (·.replace value))
  | none => none

/-- Keeps the fields whose typed value reads, and those that have none. -/
def retainValidTyped (hs : List Header) : List Header :=
  hs.filter fun h =>
    match h.typed? with
    | some (.error _) => false
    | _ => true

/-- Every field line followed by CRLF. -/
def render (compact : Bool) (hs : List Header) : Bytes :=
  hs.flatMap fun h => h.render compact ++ lit "\r\n"

/-- Lists are equal when they have equal fields in the same order. -/
def equal (a b : List Header) : Bool :=
  a.length == b.length && (a.zip b).all fun (x, y) => x.equal y

end Headers

end SipCodec
