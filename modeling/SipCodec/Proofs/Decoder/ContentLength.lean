import SipCodec.Proofs.Decoder.Invariant

/-! The Content-Length line the decoder frames a message by is the field validation reads, and it
gives the length of the decoded body. -/

namespace SipCodec.Decoder

open Message

theorem contentLength_class_make (name value : Bytes) :
    ((Header.make name value).isKnown && (Header.make name value).name == lit "Content-Length") =
      (HeaderName.canonic name == lit "Content-Length") := by
  unfold Header.make
  by_cases known : HeaderName.isKnown (HeaderName.canonic name) = true
  · simp only [known, if_true, Header.isKnown, Bool.true_and]
  · simp only [known, Bool.false_eq_true, if_false, Header.isKnown]
    have notCanonic : (HeaderName.canonic name == lit "Content-Length") = false := by
      rw [beq_eq_false_iff_ne]
      intro same
      rw [same, isKnown_contentLength] at known
      exact known rfl
    rw [notCanonic, Bool.and_eq_false_iff]
    by_cases named : name = lit "Content-Length"
    · rw [named, canonic_contentLength, isKnown_contentLength] at known
      exact absurd rfl known
    · exact .inr (by simpa using named)

/-- The line the decoder picks by canonical name is the line of the field that validation picks
among the fields read from the lines. -/
theorem find?_contentLength_eq_first? {lines : List Header.LineToken} {hs : List Header}
    (read : lines.mapM Header.ofLine = .ok hs) :
    (lines.find? fun l => HeaderName.canonic l.name == lit "Content-Length").map Header.ofLine =
      (Headers.first? hs (lit "Content-Length")).map .ok := by
  induction lines generalizing hs with
  | nil =>
    simp only [List.mapM_nil, Outcome.pure_eq, Except.ok.injEq] at read
    subst read
    rfl
  | cons l ls ih =>
    rw [List.mapM_cons] at read
    cases lineRead : Header.ofLine l with
    | error e => simp [lineRead] at read
    | ok h =>
      cases restRead : ls.mapM Header.ofLine with
      | error e => simp [lineRead, restRead] at read
      | ok hs' =>
        simp only [lineRead, restRead, Outcome.ok_bind, Outcome.pure_eq, Except.ok.injEq] at read
        subst read
        have made : h = Header.make l.name (Header.unfold l.value) := by
          unfold Header.ofLine at lineRead
          split at lineRead
          · cases lineRead
          · simp only [Except.ok.injEq] at lineRead
            exact lineRead.symm
        have same := contentLength_class_make l.name (Header.unfold l.value)
        rw [← made] at same
        simp only [Headers.first?, Headers.ofClass, List.find?_cons, List.filter_cons]
        rw [same]
        cases HeaderName.canonic l.name == lit "Content-Length" with
        | true => simp [lineRead]
        | false => simpa [Headers.first?, Headers.ofClass] using ih restRead

theorem contentLength_eq_some {lines : List Header.LineToken} {n : Nat}
    (read : contentLength lines = .ok (some n)) :
    ∃ l h, (lines.find? fun l => HeaderName.canonic l.name == lit "Content-Length") = some l ∧
      Header.ofLine l = .ok h ∧ Scan.parseUint32 h.value = .ok n := by
  unfold contentLength at read
  split at read
  · cases read
  · rename_i l found
    cases lineRead : Header.ofLine l with
    | error e => simp [lineRead] at read
    | ok h =>
      have named := List.find?_some found
      simp only [lineRead, Outcome.ok_bind, typed?_of_contentLength named lineRead] at read
      cases valueRead : Scan.parseUint32 h.value with
      | error e =>
        simp only [valueRead] at read
        cases read
      | ok m =>
        simp only [valueRead, Functor.map, Except.map, Outcome.pure_eq, Except.ok.injEq,
          Option.some.injEq] at read
        subst read
        exact ⟨l, h, found, lineRead, valueRead⟩

theorem contentLength_eq_none {lines : List Header.LineToken}
    (read : contentLength lines = .ok none) :
    (lines.find? fun l => HeaderName.canonic l.name == lit "Content-Length") = none := by
  unfold contentLength at read
  split at read
  · assumption
  · rename_i l found
    cases lineRead : Header.ofLine l with
    | error e => simp [lineRead] at read
    | ok h =>
      have named := List.find?_some found
      simp only [lineRead, Outcome.ok_bind, typed?_of_contentLength named lineRead] at read
      cases valueRead : Scan.parseUint32 h.value with
      | error e =>
        simp only [valueRead] at read
        cases read
      | ok m => simp [valueRead, Functor.map, Except.map] at read

theorem lengthFault?_eq_none {hs : List Header} {body : Bytes}
    (agree : ∀ h, Headers.first? hs (lit "Content-Length") = some h →
      Scan.parseUint32 h.value = .ok body.length) :
    lengthFault? hs body = none := by
  unfold lengthFault?
  cases found : Headers.first? hs (lit "Content-Length") with
  | none => rfl
  | some h => simp [agree h found]

theorem ofToken_headers {t : Token} {m : Message} (read : ofToken t = .ok m) :
    t.headers.mapM Header.ofLine = .ok m.headers := by
  unfold ofToken at read
  split at read
  · rename_i st _
    cases start : StartLine.ofToken st with
    | error e => simp [start] at read
    | ok line =>
      cases fields : t.headers.mapM Header.ofLine with
      | error e => simp [start, fields] at read
      | ok hs =>
        simp only [start, fields, Outcome.ok_bind, Outcome.pure_eq, Except.ok.injEq] at read
        rw [← read]
  · simp at read

/-- A message decoded from any decoder that writes, decodes, feeds and resets can reach is
read from a frame of the buffer, after skipped keep-alives: its head and its body. The field
line the decoder picked by canonical name among the head's texts is the Content-Length field
that validation picks among the message's fields, that field reads as the body's length, and
validation reports no Content-Length fault. -/
theorem decode_content_length_agrees {opts : DecoderOptions} {d d' : Decoder} {msg : Message}
    (reach : Reachable opts d) (decoded : d.decode = (d', .ok msg)) :
    ∃ skipped f rest tok, d.buf = skipped ++ f ++ rest ∧ (∀ c ∈ skipped, c = 13 ∨ c = 10) ∧
      parse f = .ok msg ∧ tokenizeHead f = .ok (msg.body, tok) ∧
      (tok.headers.find? fun l => HeaderName.canonic l.name == lit "Content-Length").map
          Header.ofLine = (Headers.first? msg.headers (lit "Content-Length")).map .ok ∧
      (∀ h, Headers.first? msg.headers (lit "Content-Length") = some h →
        Scan.parseUint32 h.value = .ok msg.body.length) ∧
      lengthFault? msg.headers msg.body = none := by
  have step := reach.valid.decode
  rw [decoded] at step
  obtain ⟨skipped, f, rest, split, keep, frame⟩ := step.framed msg rfl
  obtain ⟨tok, headCut, cut, lengthRead⟩ := frame.head
  have fields : tok.headers.mapM Header.ofLine = .ok msg.headers := by
    have read := frame.parsed
    unfold parse at read
    rw [cut, Outcome.ok_bind] at read
    have read' : ofToken { tok with body := msg.body } = .ok msg := read
    have headers := ofToken_headers read'
    exact headers
  have picked := find?_contentLength_eq_first? fields
  have agree : ∀ h, Headers.first? msg.headers (lit "Content-Length") = some h →
      Scan.parseUint32 h.value = .ok msg.body.length := by
    intro h found
    rw [found] at picked
    rcases lengthRead with known | ⟨-, none⟩
    · obtain ⟨l, h', lineFound, lineRead, valueRead⟩ := contentLength_eq_some known
      rw [lineFound] at picked
      simp only [Option.map_some, Option.some.injEq, lineRead, Except.ok.injEq] at picked
      rw [← picked]
      exact valueRead
    · rw [contentLength_eq_none none] at picked
      cases picked
  exact ⟨skipped, f, rest, tok, split, keep, frame.parsed, headCut, picked, agree,
    lengthFault?_eq_none agree⟩

/-- A datagram response whose length field is written in its compact form "l" is framed and
validated by the same field. -/
theorem decode_content_length_agrees_compact :
    let d := (Decoder.new (DecoderOptions.make false 0 none)).write
      (lit "SIP/2.0 200 OK\r\nl: 1\r\n\r\nx")
    Reachable (DecoderOptions.make false 0 none) d ∧ ∃ d' msg, d.decode = (d', .ok msg) ∧
      ∃ skipped f rest tok, d.buf = skipped ++ f ++ rest ∧ (∀ c ∈ skipped, c = 13 ∨ c = 10) ∧
      parse f = .ok msg ∧ tokenizeHead f = .ok (msg.body, tok) ∧
      (tok.headers.find? fun l => HeaderName.canonic l.name == lit "Content-Length").map
          Header.ofLine = (Headers.first? msg.headers (lit "Content-Length")).map .ok ∧
      (∀ h, Headers.first? msg.headers (lit "Content-Length") = some h →
        Scan.parseUint32 h.value = .ok msg.body.length) ∧
      lengthFault? msg.headers msg.body = none := by
  intro d
  have reach : Reachable (DecoderOptions.make false 0 none) d := .write _ .new
  have accepted : d.decode.2.isOk = true := by decide +kernel
  refine ⟨reach, ?_⟩
  rcases decoded : d.decode with ⟨d', _ | msg⟩
  · rw [decoded] at accepted
    cases accepted
  · exact ⟨d', msg, rfl, decode_content_length_agrees reach decoded⟩

end SipCodec.Decoder
