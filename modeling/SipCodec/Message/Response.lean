import SipCodec.Message.Basic

/-! Building a response to a request (RFC 3261 §8.2.6.2). The response keeps the request's
version and copies its Via, From, Call-ID and CSeq fields; its To fields are copied too, and
every response but 100 gives each To field a tag when it has none, which writes that field anew
in its normal form. Record-Route fields are copied into responses from 101 to 299. A Content-Length field of 0
closes the field list. -/

namespace SipCodec

namespace Message

/-- The To field with a tag: unchanged when it has one, else written anew with `tag`. -/
def tagTo (tag : Bytes) (h : Header) : Outcome Header := do
  let a ← NameAddr.parse h.value
  match a.tag? with
  | some _ => return h
  | none => return h.replace (a.withTag tag).render

/-- What a response makes of one field of the request: it drops the field, copies it, or
copies a To field with a tag. -/
def copyField (status : Status) (tag : Bytes) (h : Header) : Outcome (Option Header) := do
  if !h.isKnown then return none
  if [lit "Via", lit "From", lit "Call-ID", lit "CSeq"].contains h.name then return some h
  if h.name == lit "To" then
    return some (← if status.code == 100 then pure h else tagTo tag h)
  if h.name == lit "Record-Route" && 100 < status.code && status.code < 300 then return some h
  return none

/-- The response with a code and reason to a request; an empty reason takes the code's own.
A To field that does not read fails when it needs a tag. -/
def respond (req : Message) (status : Status) (reason : Bytes) (tag : Bytes) : Outcome Message := do
  let reason := if reason.isEmpty then status.reason else reason
  let copied ← req.headers.filterMapM (copyField status tag)
  return ⟨.status req.start.version status reason,
    copied ++ [Header.make (lit "Content-Length") (lit "0")], []⟩

end Message

end SipCodec
