import SipCodec.Message.Writes
import SipCodec.Proofs.Text.Writer

/-! Writing a value into a bounded writer is exact: the writer keeps the front of the value's text
that fits, and fails exactly when the text does not fit. -/

namespace SipCodec

open Writes

@[simp] theorem Writes.text_entries (items : List Bytes) :
    (entries items).text = Bytes.joinWith (lit ", ") items := by
  simp [entries, Function.comp_def]

@[simp] theorem Userinfo.text_writes (u : Userinfo) : u.writes.text = u.render := by
  cases password : u.password <;> simp [Userinfo.writes, Userinfo.render, password]

@[simp] theorem HostPort.text_writes (hp : HostPort) : hp.writes.text = hp.render := by
  cases port : hp.port <;> simp [HostPort.writes, HostPort.render, port]

@[simp] theorem Param.text_writes (p : Param) : p.writes.text = p.render := by
  cases value : p.value <;> simp [Param.writes, Param.render, value]

@[simp] theorem Params.text_writes (ps : List Param) :
    (Params.writes ps).text = Params.render ps := by
  simp [Params.writes, Params.render, List.flatMap_map]

@[simp] theorem Uri.text_writes (u : Uri) : u.writes.text = u.render := by
  cases scheme : u.scheme <;> cases user : u.userinfo <;>
    simp [Uri.writes, Uri.render, scheme, user, List.flatMap_assoc] <;> split <;> simp

@[simp] theorem UriWithParams.text_writes (wp : UriWithParams) : wp.writes.text = wp.render := by
  simp [UriWithParams.writes, UriWithParams.render]

@[simp] theorem UriWithParams.text_writesList (l : List UriWithParams) :
    (UriWithParams.writesList l).text = UriWithParams.renderList l := by
  simp [UriWithParams.writesList, UriWithParams.renderList, Function.comp_def]

@[simp] theorem NameAddr.text_writes (a : NameAddr) : a.writes.text = a.render := by
  cases name : a.displayName <;> simp [NameAddr.writes, NameAddr.render, name]

@[simp] theorem MediaType.text_writes (m : MediaType) : m.writes.text = m.render := by
  simp [MediaType.writes, MediaType.render]

@[simp] theorem Tagged.text_writes (t : Tagged) : t.writes.text = t.render := by
  simp [Tagged.writes, Tagged.render]

@[simp] theorem Challenge.text_writes (c : Challenge) : c.writes.text = c.render := by
  cases bare : c.isBare <;>
    simp [Challenge.writes, Challenge.render, bare, Function.comp_def, AuthParam.joined]

@[simp] theorem Credentials.text_writes (c : Credentials) : c.writes.text = c.render := by
  cases bare : c.isBare <;> simp [Credentials.writes, Credentials.render, bare, Function.comp_def,
      AuthParam.joined]

@[simp] theorem AuthInfo.text_writes (a : AuthInfo) : a.writes.text = a.render := by
  simp [AuthInfo.writes, AuthInfo.render, Function.comp_def, AuthParam.joined]

@[simp] theorem RetryAfter.text_writes (r : RetryAfter) : r.writes.text = r.render := by
  cases comment : r.comment <;> simp [RetryAfter.writes, RetryAfter.render, comment]

@[simp] theorem Timestamp.text_writes (t : Timestamp) : t.writes.text = t.render := by
  cases delay : t.delay.isEmpty <;> simp [Timestamp.writes, Timestamp.render, delay]

/-- The value of a typed header is written as its text, whichever header it is. -/
@[simp] theorem TypedHeader.text_valueWrites (h : TypedHeader) :
    h.valueWrites.text = h.renderValue := by
  cases h with
  | contact c =>
    cases wild : c.wildcard <;>
      simp [TypedHeader.valueWrites, TypedHeader.renderValue, Contact.render, wild,
        NameAddr.renderList]
  | _ =>
    simp [TypedHeader.valueWrites, TypedHeader.renderValue, MediaType.renderList,
      Tagged.renderList, NameAddr.renderList, ViaHop.renderList, WarningValue.renderList]

@[simp] theorem TypedHeader.text_writes (compact : Bool) (h : TypedHeader) :
    (h.writes compact).text = h.render compact := by
  simp [TypedHeader.writes, TypedHeader.render]

@[simp] theorem Headers.text_writes (compact : Bool) (hs : List Header) :
    (Headers.writes compact hs).text = Headers.render compact hs := by
  simp [Headers.writes, Headers.render, Header.writes, List.flatMap_assoc]

@[simp] theorem StartLine.text_writes (l : StartLine) : l.writes.text = l.render := by
  cases l <;> simp [StartLine.writes, StartLine.render]

@[simp] theorem Message.text_writes (compact : Bool) (m : Message) :
    (m.writes compact).text = m.render compact := by
  simp [Message.writes, Message.render]

/-- Every renderer's tree writes the value's text. -/
theorem Renderable.text_writes (compact : Bool) (v : Renderable) :
    (v.writes compact).text = v.render compact := by
  cases v <;> simp [Renderable.writes, Renderable.render, Header.writes]

/-- A value written into a writer that keeps at most `limit` octets, and fails a write that
does not fit after keeping the octets that fit: the writer keeps the front of the value's text
that fits, the renderer reports the length of that front, and it fails exactly when the text is
longer than `limit`. -/
theorem Renderable.run_writes_limited (v : Renderable) (compact : Bool) (limit : Nat) :
    (v.writes compact).run ⟨[], limit⟩ =
      (⟨min limit (v.render compact).length, decide (limit < (v.render compact).length)⟩,
        ⟨(v.render compact).take limit, limit - (v.render compact).length⟩) := by
  rw [Writes.run_eq_write, Sink.write_eq, Renderable.text_writes]
  simp

end SipCodec
