import SipCodec.Proofs.Decoder.Invariant
import SipCodec.Proofs.Message.HeadPrefix

/-! A stream decodes the same however it is cut into chunks, provided each head reads the same
however it arrives; without that, a chunk boundary can lose a message. -/

namespace SipCodec.Decoder

open Message

/-! ### What decoding reads -/

/-- Two decoders that agree on everything decoding reads: settings, state, buffer and framed
lengths. Their counters and records may differ. -/
structure Agree (d₁ d₂ : Decoder) : Prop where
  opts : d₁.opts = d₂.opts
  state : d₁.state = d₂.state
  buf : d₁.buf = d₂.buf
  headLen : d₁.headLen = d₂.headLen
  bodyLen : d₁.bodyLen = d₂.bodyLen

namespace Agree

variable {d₁ d₂ d₃ : Decoder}

theorem refl (d : Decoder) : Agree d d := ⟨rfl, rfl, rfl, rfl, rfl⟩

theorem symm (agree : Agree d₁ d₂) : Agree d₂ d₁ :=
  ⟨agree.opts.symm, agree.state.symm, agree.buf.symm, agree.headLen.symm, agree.bodyLen.symm⟩

theorem trans (first : Agree d₁ d₂) (second : Agree d₂ d₃) : Agree d₁ d₃ :=
  ⟨first.opts.trans second.opts, first.state.trans second.state, first.buf.trans second.buf,
    first.headLen.trans second.headLen, first.bodyLen.trans second.bodyLen⟩

theorem log (d : Decoder) (level : Log.Level) (msg : String)
    (attrs : List (String × Log.Value)) : Agree (d.log level msg attrs) d :=
  ⟨by simp, by simp, by simp, by simp, by simp⟩

theorem log_both (agree : Agree d₁ d₂) {level : Log.Level} {msg : String}
    {attrs : List (String × Log.Value)} :
    Agree (d₁.log level msg attrs) (d₂.log level msg attrs) :=
  ((log _ _ _ _).trans agree).trans (log _ _ _ _).symm

theorem drop (agree : Agree d₁ d₂) (e : Fault) (n : Nat) :
    Agree (d₁.drop e n).1 (d₂.drop e n).1 :=
  ⟨by simp [agree.opts], rfl, by simp [agree.buf], rfl, rfl⟩

theorem frame (agree : Agree d₁ d₂) (m : Message) : Agree (d₁.frame m).1 (d₂.frame m).1 :=
  ⟨by simp [agree.opts], by simp, by simp [agree.opts, agree.buf, agree.headLen, agree.bodyLen],
    by simp, by simp⟩

end Agree

variable {d₁ d₂ : Decoder}

theorem frameSize_agree (agree : Agree d₁ d₂) : d₁.frameSize = d₂.frameSize := by
  unfold frameSize
  rw [agree.opts, agree.buf]

theorem decodeBody_agree (agree : Agree d₁ d₂) :
    Agree d₁.decodeBody.1 d₂.decodeBody.1 ∧ d₁.decodeBody.2 = d₂.decodeBody.2 := by
  unfold decodeBody
  dsimp only
  rw [agree.buf, agree.headLen, agree.bodyLen, agree.opts]
  by_cases short : d₂.buf.length < d₂.headLen + d₂.bodyLen
  · rw [if_pos short, if_pos short]
    by_cases stream : d₂.opts.stream = true
    · rw [if_pos stream, if_pos stream]
      exact ⟨agree, rfl⟩
    · rw [if_neg stream, if_neg stream]
      exact ⟨agree.drop _ _, rfl⟩
  · rw [if_neg short, if_neg short]
    cases parse (d₂.buf.take (d₂.headLen + d₂.bodyLen)) with
    | ok m => exact ⟨agree.frame m, rfl⟩
    | error e => exact ⟨agree.drop _ _, rfl⟩

theorem decodeHead_agree (agree : Agree d₁ d₂) :
    Agree d₁.decodeHead.1 d₂.decodeHead.1 ∧ d₁.decodeHead.2 = d₂.decodeHead.2 := by
  unfold decodeHead
  rw [frameSize_agree agree]
  cases d₂.frameSize with
  | error e =>
    dsimp only
    by_cases waits : e.isIncomplete = true
    · rw [if_pos waits, if_pos waits]
      exact ⟨agree, rfl⟩
    · rw [if_neg waits, if_neg waits, agree.buf]
      exact ⟨agree.drop _ _, rfl⟩
  | ok sizes =>
    obtain ⟨h, b⟩ := sizes
    dsimp only
    have framed : Agree { d₁ with state := .body, headLen := h, bodyLen := b }
        { d₂ with state := .body, headLen := h, bodyLen := b } :=
      ⟨agree.opts, rfl, agree.buf, rfl, rfl⟩
    exact decodeBody_agree framed.log_both

theorem decodeIdle_agree (opts : d₁.opts = d₂.opts) (state : d₁.state = d₂.state)
    (headLen : d₁.headLen = d₂.headLen) (bodyLen : d₁.bodyLen = d₂.bodyLen)
    (skipped : d₁.buf.drop (keepAliveLen d₁.buf) = d₂.buf.drop (keepAliveLen d₂.buf)) :
    Agree d₁.decodeIdle.1 d₂.decodeIdle.1 ∧ d₁.decodeIdle.2 = d₂.decodeIdle.2 := by
  obtain ⟨e₁, eq₁, buf₁, opts₁, state₁, headLen₁, bodyLen₁⟩ := decodeIdle_eq d₁
  obtain ⟨e₂, eq₂, buf₂, opts₂, state₂, headLen₂, bodyLen₂⟩ := decodeIdle_eq d₂
  have agree : Agree e₁ e₂ :=
    ⟨by rw [opts₁, opts₂, opts], by rw [state₁, state₂, state], by rw [buf₁, buf₂, skipped],
      by rw [headLen₁, headLen₂, headLen], by rw [bodyLen₁, bodyLen₂, bodyLen]⟩
  have sameEmpty : e₁.buf.isEmpty = e₂.buf.isEmpty := by rw [agree.buf]
  rw [eq₁, eq₂, sameEmpty]
  by_cases empty : e₂.buf.isEmpty = true
  · rw [if_pos empty, if_pos empty]
    exact ⟨agree, rfl⟩
  · rw [if_neg empty, if_neg empty]
    exact decodeHead_agree ⟨agree.opts, rfl, agree.buf, agree.headLen, agree.bodyLen⟩

/-- Decoding reads only what agreeing decoders agree on. -/
theorem decode_agree (agree : Agree d₁ d₂) :
    Agree d₁.decode.1 d₂.decode.1 ∧ d₁.decode.2 = d₂.decode.2 := by
  unfold Decoder.decode
  rw [agree.state]
  cases d₂.state with
  | idle =>
    exact decodeIdle_agree agree.opts agree.state agree.headLen agree.bodyLen (by rw [agree.buf])
  | head => exact decodeHead_agree agree
  | body => exact decodeBody_agree agree

theorem go_succ_agree (n : Nat)
    (rounds : ∀ {d₁ d₂ : Decoder} (msgs : List Message) (errs : List Fault), Agree d₁ d₂ →
      Agree (feed.go n d₁ msgs errs).1 (feed.go n d₂ msgs errs).1 ∧
        (feed.go n d₁ msgs errs).2 = (feed.go n d₂ msgs errs).2)
    (after : Agree d₁.decode.1 d₂.decode.1) (same : d₁.decode.2 = d₂.decode.2)
    (msgs : List Message) (errs : List Fault) :
    Agree (feed.go (n + 1) d₁ msgs errs).1 (feed.go (n + 1) d₂ msgs errs).1 ∧
      (feed.go (n + 1) d₁ msgs errs).2 = (feed.go (n + 1) d₂ msgs errs).2 := by
  unfold feed.go
  rcases decoded₁ : d₁.decode with ⟨d₁', r⟩
  rcases decoded₂ : d₂.decode with ⟨d₂', r'⟩
  rw [decoded₁, decoded₂] at after same
  dsimp only at after same ⊢
  subst same
  cases r with
  | ok m => exact rounds _ _ after
  | error e =>
    dsimp only
    by_cases waits : e.isIncomplete = true
    · rw [if_pos waits, if_pos waits]
      exact ⟨after, rfl⟩
    · rw [if_neg waits, if_neg waits]
      exact rounds _ _ after

theorem go_agree (n : Nat) : ∀ {d₁ d₂ : Decoder} (msgs : List Message) (errs : List Fault),
    Agree d₁ d₂ → Agree (feed.go n d₁ msgs errs).1 (feed.go n d₂ msgs errs).1 ∧
      (feed.go n d₁ msgs errs).2 = (feed.go n d₂ msgs errs).2 := by
  induction n with
  | zero => exact fun _ _ agree => ⟨agree, rfl⟩
  | succ n ih =>
    intro d₁ d₂ msgs errs agree
    obtain ⟨after, same⟩ := decode_agree agree
    exact go_succ_agree n ih after same msgs errs

theorem decode_keepAlive {d : Decoder} {c : UInt8} {rest : Bytes} (idle : d.state = .idle)
    (keep : c = 13 ∨ c = 10) (buf : d.buf = c :: rest) :
    Agree d.decode.1 { d with buf := rest }.decode.1 ∧
      d.decode.2 = { d with buf := rest }.decode.2 := by
  have skip : keepAliveLen (c :: rest) = keepAliveLen rest + 1 := by
    rcases keep with rfl | rfl <;> simp [keepAliveLen]
  unfold Decoder.decode
  rw [show ({ d with buf := rest } : Decoder).state = d.state from rfl, idle]
  exact decodeIdle_agree rfl idle rfl rfl (by rw [buf, skip]; rfl)

/-! ### Messages in a stream -/

/-- A message in a stream: its head is cut as one and ends where its body starts, its first
Content-Length field gives its body's length, and the two fit within `max`. -/
structure StreamFrame (max : Nat) (head body : Bytes) : Prop where
  cut : ∃ tok, tokenizeHead (head ++ body) = .ok (body, tok) ∧
    contentLength tok.headers = .ok (some body.length)
  fits : head.length + body.length ≤ max

/-- Whether a message is framed within `max`, computed. -/
def StreamFrame.check (max : Nat) (head body : Bytes) : Bool :=
  match tokenizeHead (head ++ body) with
  | .ok (rest, tok) => rest == body &&
    (contentLength tok.headers).toOption == some (some body.length) &&
    decide (head.length + body.length ≤ max)
  | .error _ => false

theorem streamFrame_iff {max : Nat} {head body : Bytes} :
    StreamFrame max head body ↔ StreamFrame.check max head body = true := by
  unfold StreamFrame.check
  constructor
  · rintro ⟨⟨tok, cut, length⟩, fits⟩
    rw [cut]
    simp [length, fits, Except.toOption]
  · intro checked
    split at checked
    · rename_i rest tok cut
      simp only [Bool.and_eq_true, beq_iff_eq, decide_eq_true_eq] at checked
      obtain ⟨⟨rfl, length⟩, fits⟩ := checked
      refine ⟨⟨tok, cut, ?_⟩, fits⟩
      cases read : contentLength tok.headers <;> simp_all [Except.toOption]
    · cases checked

instance {max : Nat} {head body : Bytes} : Decidable (StreamFrame max head body) :=
  decidable_of_iff _ streamFrame_iff.symm

section StreamFrame

variable {max : Nat} {h b : Bytes}

theorem StreamFrame.head_ne_nil (framed : StreamFrame max h b) : h ≠ [] := by
  obtain ⟨tok, cut, -⟩ := framed.cut
  obtain ⟨head, filled, split⟩ := tokenizeHead_suffix cut
  rwa [List.append_cancel_right split]

theorem StreamFrame.starts (framed : StreamFrame max h b) (r : Bytes) :
    StartsFrame (h ++ b ++ r) := by
  obtain ⟨tok, cut, -⟩ := framed.cut
  obtain ⟨c, t, split, notCr, notLf⟩ := tokenizeHead_front cut
  rw [split]
  exact ⟨c, t ++ r, rfl, notCr, notLf⟩

theorem StreamFrame.parse_hard (framed : StreamFrame max h b) : Hard (parse (h ++ b)) := by
  obtain ⟨tok, cut, -⟩ := framed.cut
  have whole : tokenize (h ++ b) = .ok ([], { tok with body := b }) := by
    unfold tokenize
    rw [skipEmptyLines_of_startsFrame (by simpa using framed.starts []), cut]
    rfl
  exact Message.parse_hard whole

theorem StreamFrame.frameSize {d : Decoder} {s : Bytes}
    (framed : StreamFrame d.opts.maxMessageSize h b) (buf : d.buf = h ++ s) :
    d.frameSize = .ok (h.length, b.length) := by
  obtain ⟨tok, cut, length⟩ := framed.cut
  have headCut : tokenizeHead d.buf = .ok (s, tok) := by
    rw [buf]
    exact tokenizeHead_append cut
  have headLen : d.buf.length - s.length = h.length := by simp [buf]
  have fits : ¬ h.length + b.length > d.opts.maxMessageSize := by
    have := framed.fits
    omega
  simp only [Decoder.frameSize, headCut, length, headLen, Outcome.ok_bind, Outcome.pure_eq,
    if_neg fits]

end StreamFrame

/-- What a stream carries: a keep-alive octet, or a message as its head and its body. -/
inductive Item where
  | keepAlive (c : UInt8)
  | message (head body : Bytes)

namespace Item

/-- The octets of an item. -/
def bytes : Item → Bytes
  | keepAlive c => [c]
  | message head body => head ++ body

/-- The octets of the items one after another. -/
def stream (items : List Item) : Bytes := items.flatMap bytes

/-- The messages the items read as, in stream order. -/
def messages : List Item → List Message
  | [] => []
  | keepAlive _ :: items => messages items
  | message head body :: items =>
    match parse (head ++ body) with
    | .ok m => m :: messages items
    | .error _ => messages items

/-- The failures of the messages that do not read as one, in stream order. -/
def faults : List Item → List Fault
  | [] => []
  | keepAlive _ :: items => faults items
  | message head body :: items =>
    match parse (head ++ body) with
    | .ok _ => faults items
    | .error e => e :: faults items

/-- A keep-alive is a CR or an LF; a message is framed within the size limit `max`. -/
def WellFramed (max : Nat) : Item → Prop
  | keepAlive c => c = 13 ∨ c = 10
  | message head body => StreamFrame max head body

/-- A message's head reads the same however it arrives. -/
def Resumable : Item → Prop
  | keepAlive _ => True
  | message head _ => Message.Resumable head

instance {max : Nat} : DecidablePred (WellFramed max) := fun
  | keepAlive c => inferInstanceAs (Decidable (c = 13 ∨ c = 10))
  | message head body => inferInstanceAs (Decidable (StreamFrame max head body))

instance : DecidablePred Resumable := fun
  | keepAlive _ => inferInstanceAs (Decidable True)
  | message head _ => inferInstanceAs (Decidable (Message.Resumable head))

@[simp] theorem stream_nil : stream [] = [] := rfl

@[simp] theorem stream_cons (i : Item) (items : List Item) :
    stream (i :: items) = i.bytes ++ stream items := by
  simp [stream]

theorem stream_append (done todo : List Item) :
    stream (done ++ todo) = stream done ++ stream todo := by
  simp [stream]

theorem messages_append (done todo : List Item) :
    messages (done ++ todo) = messages done ++ messages todo := by
  induction done with
  | nil => rfl
  | cons i done ih =>
    cases i with
    | keepAlive c => exact ih
    | message h b =>
      simp only [List.cons_append, messages]
      cases parse (h ++ b) with
      | ok m => rw [ih, List.cons_append]
      | error e => exact ih

theorem faults_append (done todo : List Item) :
    faults (done ++ todo) = faults done ++ faults todo := by
  induction done with
  | nil => rfl
  | cons i done ih =>
    cases i with
    | keepAlive c => exact ih
    | message h b =>
      simp only [List.cons_append, faults]
      cases parse (h ++ b) with
      | ok m => exact ih
      | error e => rw [ih, List.cons_append]

end Item

/-- Feeds chunks one after another: the decoder at the end, the messages of all the feeds in
order, and each feed's failure. -/
def feedEach (d : Decoder) : List Bytes → Decoder × List Message × List (Option Fault)
  | [] => (d, [], [])
  | p :: ps =>
    let fed := d.feed p
    let next := feedEach fed.1 ps
    (next.1, fed.2.1 ++ next.2.1, fed.2.2 :: next.2.2)

/-- The decoder stands at the front of the items still to come: idle with nothing framed,
framing the next message, or waiting for the body of the next message with its lengths
framed. -/
inductive Ready (d : Decoder) : List Item → Prop
  | idle {items : List Item} : d.state = .idle → d.headLen = 0 → d.bodyLen = 0 → Ready d items
  | head {h b : Bytes} {items : List Item} : d.state = .head → Ready d (.message h b :: items)
  | body {h b : Bytes} {items : List Item} : d.state = .body → d.headLen = h.length →
      d.bodyLen = b.length → Ready d (.message h b :: items)

/-- What a decoder holds of the items still to come when it stops for more input: nothing,
or a front of the next message short of its end. -/
inductive Waiting : Bytes → List Item → Prop
  | empty {items : List Item} : Waiting [] items
  | front {P Q h b : Bytes} {items : List Item} : P ++ Q = h ++ b → Q ≠ [] →
      Waiting P (.message h b :: items)

/-- The decoder has settings `opts`, holds `buf`, and stands at the front of `items`. -/
structure Stands (d : Decoder) (opts : DecoderOptions) (buf : Bytes) (items : List Item) :
    Prop where
  ready : Ready d items
  buf : d.buf = buf
  opts : d.opts = opts

theorem Ready.congr {items : List Item} (ready : Ready d₂ items) (state : d₁.state = d₂.state)
    (headLen : d₁.headLen = d₂.headLen) (bodyLen : d₁.bodyLen = d₂.bodyLen) : Ready d₁ items := by
  cases ready with
  | idle idle noHead noBody =>
    exact .idle (state.trans idle) (headLen.trans noHead) (bodyLen.trans noBody)
  | head head => exact .head (state.trans head)
  | body body framedHead framedBody =>
    exact .body (state.trans body) (headLen.trans framedHead) (bodyLen.trans framedBody)

theorem Ready.agree {items : List Item} (ready : Ready d₂ items) (agree : Agree d₁ d₂) :
    Ready d₁ items :=
  ready.congr agree.state agree.headLen agree.bodyLen

theorem Ready.idle_of_keepAlive {c : UInt8} {items : List Item}
    (ready : Ready d₁ (.keepAlive c :: items)) :
    d₁.state = .idle ∧ d₁.headLen = 0 ∧ d₁.bodyLen = 0 := by
  cases ready with
  | idle idle noHead noBody => exact ⟨idle, noHead, noBody⟩

theorem Ready.idle_of_nil (ready : Ready d₁ []) : d₁.state = .idle := by
  cases ready with
  | idle idle _ _ => exact idle

theorem Ready.idle_or_message {items : List Item} (ready : Ready d₁ items) :
    (d₁.state = .idle ∧ d₁.headLen = 0 ∧ d₁.bodyLen = 0) ∨
      ∃ h b rest, items = .message h b :: rest := by
  cases ready with
  | idle idle noHead noBody => exact .inl ⟨idle, noHead, noBody⟩
  | head _ => exact .inr ⟨_, _, _, rfl⟩
  | body _ _ _ => exact .inr ⟨_, _, _, rfl⟩

theorem Stands.agree {opts : DecoderOptions} {buf : Bytes} {items : List Item}
    (stands : Stands d₂ opts buf items) (agree : Agree d₁ d₂) : Stands d₁ opts buf items :=
  ⟨stands.ready.agree agree, agree.buf.trans stands.buf, agree.opts.trans stands.opts⟩

/-! ### One decode -/

section Decode

variable {d : Decoder} {h b r : Bytes} {items : List Item}

theorem decodeBody_message (stream : d.opts.stream = true) (headLen : d.headLen = h.length)
    (bodyLen : d.bodyLen = b.length) (buf : d.buf = h ++ b ++ r) :
    d.decodeBody.2 = parse (h ++ b) ∧ Stands d.decodeBody.1 d.opts r items := by
  have whole : ¬ d.buf.length < d.headLen + d.bodyLen := by
    simp [buf, headLen, bodyLen]
  have framed : d.buf.take (d.headLen + d.bodyLen) = h ++ b := by
    rw [buf, headLen, bodyLen]
    exact List.take_left' (by simp)
  have consumed : d.buf.drop (d.headLen + d.bodyLen) = r := by
    rw [buf, headLen, bodyLen]
    exact List.drop_left' (by simp)
  unfold decodeBody
  dsimp only
  rw [if_neg whole, framed]
  cases parse (h ++ b) with
  | ok m => exact ⟨rfl, .idle (by simp) (by simp) (by simp), by simp [stream, consumed], by simp⟩
  | error e => exact ⟨rfl, .idle (by simp) (by simp) (by simp), by simp [stream, consumed], by simp⟩

theorem decodeHead_message (stream : d.opts.stream = true)
    (framed : StreamFrame d.opts.maxMessageSize h b) (buf : d.buf = h ++ b ++ r) :
    d.decodeHead.2 = parse (h ++ b) ∧ Stands d.decodeHead.1 d.opts r items := by
  unfold decodeHead
  rw [framed.frameSize (s := b ++ r) (by rw [buf, List.append_assoc])]
  dsimp only
  refine (decodeBody_message ?_ ?_ ?_ ?_).imp_right fun stands =>
    ⟨stands.ready, stands.buf, by rw [stands.opts]; simp⟩
  · simpa using stream
  · simp
  · simp
  · simpa using buf

theorem decodeIdle_of_startsFrame (starts : StartsFrame d.buf) :
    d.decodeIdle = { d with state := .head }.decodeHead := by
  obtain ⟨c, rest, buf, notCr, notLf⟩ := starts
  have noKeepAlive : keepAliveLen d.buf = 0 := by simp [keepAliveLen, buf, notCr, notLf]
  have filled : d.buf.isEmpty = false := by simp [buf]
  unfold decodeIdle
  simp only [noKeepAlive, gt_iff_lt, Nat.lt_irrefl, if_false, filled, Bool.false_eq_true]

theorem decode_message (stream : d.opts.stream = true)
    (framed : StreamFrame d.opts.maxMessageSize h b) (ready : Ready d (.message h b :: items))
    (buf : d.buf = h ++ b ++ r) :
    d.decode.2 = parse (h ++ b) ∧ Stands d.decode.1 d.opts r items := by
  unfold Decoder.decode
  cases ready with
  | idle idle _ _ =>
    rw [idle]
    dsimp only
    rw [decodeIdle_of_startsFrame (by rw [buf]; exact framed.starts r)]
    exact decodeHead_message stream framed buf
  | head head =>
    rw [head]
    exact decodeHead_message stream framed buf
  | body body headLen bodyLen =>
    rw [body]
    exact decodeBody_message stream headLen bodyLen buf

theorem decodeBody_short (stream : d.opts.stream = true)
    (short : d.buf.length < d.headLen + d.bodyLen) :
    d.decodeBody = (d, .error (.detail .incomplete (lit "message body"))) := by
  unfold decodeBody
  dsimp only
  rw [if_pos short, if_pos stream]

theorem frameSize_of_waiting {e : Fault} (stream : d.opts.stream = true)
    (cut : tokenizeHead d.buf = .error e) (waits : e.isIncomplete = true)
    (within : d.buf.length ≤ d.opts.maxMessageSize) :
    d.frameSize = .error e := by
  have notLarge : ¬ d.buf.length > d.opts.maxMessageSize := by omega
  simp [Decoder.frameSize, cut, waits, notLarge, stream]

theorem StreamFrame.starts_front {max : Nat} {P Q : Bytes} (framed : StreamFrame max h b)
    (split : P ++ Q = h ++ b) (filled : P ≠ []) : StartsFrame P := by
  obtain ⟨c, t, whole, notCr, notLf⟩ := framed.starts []
  obtain ⟨c', t', rfl⟩ := List.exists_cons_of_ne_nil filled
  rw [List.append_nil, ← split, List.cons_append, List.cons.injEq] at whole
  rw [whole.1]
  exact ⟨c, t', rfl, notCr, notLf⟩

theorem decodeHead_partial {Q : Bytes} (stream : d.opts.stream = true)
    (framed : StreamFrame d.opts.maxMessageSize h b) (resumable : Message.Resumable h)
    (head : d.state = .head) (split : d.buf ++ Q = h ++ b) (short : Q ≠ []) :
    (∃ e, d.decodeHead.2 = .error e ∧ e.isIncomplete = true) ∧
      Stands d.decodeHead.1 d.opts d.buf (.message h b :: items) := by
  rcases Header.front_of_append split with ⟨past, buf, rest⟩ | ⟨part, headSplit, filled⟩
  · have bodyShort : d.buf.length < h.length + b.length := by
      have : 0 < Q.length := List.length_pos_iff.2 short
      rw [buf, ← rest]
      simp only [List.length_append]
      omega
    unfold decodeHead
    rw [framed.frameSize buf]
    dsimp only
    rw [decodeBody_short (by simpa using stream) (by simpa using bodyShort)]
    exact ⟨⟨_, rfl, rfl⟩, .body (by simp) (by simp) (by simp), by simp, by simp⟩
  · obtain ⟨tok, cut, -⟩ := framed.cut
    obtain ⟨e, waitCut, waits⟩ := tokenizeHead_prefix cut resumable headSplit.symm filled
    have within : d.buf.length ≤ d.opts.maxMessageSize := by
      have fits := framed.fits
      have lengths : h.length = d.buf.length + part.length := by rw [headSplit, List.length_append]
      omega
    unfold decodeHead
    rw [frameSize_of_waiting stream waitCut waits within]
    dsimp only
    rw [if_pos waits]
    exact ⟨⟨e, rfl, waits⟩, .head head, rfl, rfl⟩

theorem decode_partial {Q : Bytes} (stream : d.opts.stream = true)
    (framed : StreamFrame d.opts.maxMessageSize h b) (resumable : Message.Resumable h)
    (ready : Ready d (.message h b :: items)) (split : d.buf ++ Q = h ++ b) (short : Q ≠ []) :
    (∃ e, d.decode.2 = .error e ∧ e.isIncomplete = true) ∧
      Stands d.decode.1 d.opts d.buf (.message h b :: items) := by
  cases ready with
  | idle idle noHead noBody =>
    by_cases empty : d.buf = []
    · rw [decode_of_empty idle empty]
      exact ⟨⟨_, rfl, rfl⟩, .idle idle noHead noBody, rfl, rfl⟩
    · unfold Decoder.decode
      rw [idle]
      dsimp only
      rw [decodeIdle_of_startsFrame (framed.starts_front split empty)]
      exact decodeHead_partial stream framed resumable rfl split short
  | head head =>
    unfold Decoder.decode
    rw [head]
    exact decodeHead_partial stream framed resumable head split short
  | body body headLen bodyLen =>
    have bodyShort : d.buf.length < d.headLen + d.bodyLen := by
      have lengths := congrArg List.length split
      have : 0 < Q.length := List.length_pos_iff.2 short
      simp only [List.length_append] at lengths
      omega
    unfold Decoder.decode
    rw [body]
    dsimp only
    rw [decodeBody_short stream bodyShort]
    exact ⟨⟨_, rfl, rfl⟩, .body body headLen bodyLen, rfl, rfl⟩

end Decode

/-! ### Runs of decodes -/

section Rounds

variable {d : Decoder} {n : Nat} {msgs : List Message} {errs : List Fault} {e : Fault}

theorem go_of_waits (failed : d.decode.2 = .error e) (waits : e.isIncomplete = true) :
    feed.go (n + 1) d msgs errs = (d.decode.1, msgs.reverse, errs.reverse) := by
  have decoded : d.decode = (d.decode.1, .error e) := Prod.ext rfl failed
  unfold feed.go
  rw [decoded]
  dsimp only
  rw [if_pos waits]

theorem go_of_hard (failed : d.decode.2 = .error e) (hard : e.isIncomplete = false) :
    feed.go (n + 1) d msgs errs = feed.go n d.decode.1 msgs (e :: errs) := by
  have decoded : d.decode = (d.decode.1, .error e) := Prod.ext rfl failed
  rw [feed.go, decoded]
  dsimp only
  rw [if_neg (by simp [hard])]

theorem go_of_ok {m : Message} (read : d.decode.2 = .ok m) :
    feed.go (n + 1) d msgs errs = feed.go n d.decode.1 (m :: msgs) errs := by
  have decoded : d.decode = (d.decode.1, .ok m) := Prod.ext rfl read
  rw [feed.go, decoded]

theorem go_message {h b : Bytes} (framed : StreamFrame d.opts.maxMessageSize h b)
    (decoded : d.decode.2 = parse (h ++ b)) :
    feed.go (n + 1) d msgs errs = feed.go n d.decode.1
      ((Item.messages [.message h b]).reverse ++ msgs)
      ((Item.faults [.message h b]).reverse ++ errs) := by
  cases read : parse (h ++ b) with
  | ok m =>
    rw [go_of_ok (decoded.trans read)]
    simp [Item.messages, Item.faults, read]
  | error e =>
    rw [go_of_hard (decoded.trans read) (framed.parse_hard e read)]
    simp [Item.messages, Item.faults, read]

end Rounds

theorem Item.split_front (items : List Item) : ∀ {X rest : Bytes}, X ++ rest = stream items →
    ∃ done todo P, items = done ++ todo ∧ X = stream done ++ P ∧ Waiting P todo := by
  induction items with
  | nil =>
    intro X rest whole
    have empty : X = [] := (List.append_eq_nil_iff.1 whole).1
    exact ⟨[], [], [], rfl, by simp [empty], .empty⟩
  | cons i items ih =>
    intro X rest whole
    cases i with
    | keepAlive c =>
      cases X with
      | nil => exact ⟨[], _, [], rfl, rfl, .empty⟩
      | cons x X =>
        simp only [stream_cons, bytes, List.cons_append, List.nil_append, List.cons.injEq] at whole
        obtain ⟨done, todo, P, rfl, rfl, waiting⟩ := ih whole.2
        exact ⟨keepAlive c :: done, todo, P, rfl, by simp [whole.1, bytes], waiting⟩
    | message h b =>
      rw [stream_cons, bytes] at whole
      rcases Header.front_of_append whole with ⟨past, rfl, rest'⟩ | ⟨part, split, filled⟩
      · obtain ⟨done, todo, P, rfl, rfl, waiting⟩ := ih rest'
        exact ⟨message h b :: done, todo, P, rfl, by simp [bytes], waiting⟩
      · exact ⟨[], message h b :: items, X, rfl, rfl, .front split.symm filled⟩

theorem Waiting.eq_nil {max : Nat} {P : Bytes} {todo : List Item} (waiting : Waiting P todo)
    (whole : P = Item.stream todo) (framed : ∀ i ∈ todo, i.WellFramed max) :
    todo = [] ∧ P = [] := by
  cases waiting with
  | empty =>
    cases todo with
    | nil => exact ⟨rfl, rfl⟩
    | cons i todo =>
      cases i with
      | keepAlive c => simp [Item.bytes] at whole
      | message h b =>
        have filled := StreamFrame.head_ne_nil (framed _ List.mem_cons_self)
        simp [Item.bytes, filled] at whole
  | front split short =>
    have lengths := congrArg List.length split
    have : 0 < _ := List.length_pos_iff.2 short
    rw [whole] at lengths
    simp only [Item.stream_cons, Item.bytes, List.length_append] at lengths
    omega

theorem decode_waiting {d : Decoder} {todo : List Item} {P : Bytes}
    (stream : d.opts.stream = true) (framed : ∀ i ∈ todo, i.WellFramed d.opts.maxMessageSize)
    (resumable : ∀ i ∈ todo, i.Resumable) (ready : Ready d todo) (waiting : Waiting P todo)
    (buf : d.buf = P) :
    (∃ e, d.decode.2 = .error e ∧ e.isIncomplete = true) ∧ Stands d.decode.1 d.opts P todo := by
  cases waiting with
  | empty =>
    rcases ready.idle_or_message with ⟨idle, -, -⟩ | ⟨h, b, rest, rfl⟩
    · rw [decode_of_empty idle buf]
      exact ⟨⟨_, rfl, rfl⟩, ready, buf, rfl⟩
    · have frame : StreamFrame _ _ _ := framed _ List.mem_cons_self
      rw [← buf]
      exact decode_partial stream frame (resumable _ List.mem_cons_self) ready
        (by rw [buf, List.nil_append]) (List.append_ne_nil_of_left_ne_nil frame.head_ne_nil _)
  | front split short =>
    subst buf
    exact decode_partial stream (framed _ List.mem_cons_self) (resumable _ List.mem_cons_self)
      ready split short

/-! ### Feeding a stream -/

section Feeding

variable {opts : DecoderOptions}

/-- The rounds of decoding of one feed, from a decoder at the front of a stream whose buffer
holds the octets of the whole items `done` and then what has arrived of the next: they decode
the items of `done` one after another and stop, waiting on what has arrived. -/
theorem go_run (stream : opts.stream = true) (done : List Item) :
    ∀ {d : Decoder} {todo : List Item} {P : Bytes} {n : Nat} (msgs : List Message)
      (errs : List Fault),
      (∀ i ∈ done ++ todo, i.WellFramed opts.maxMessageSize) →
      (∀ i ∈ done ++ todo, i.Resumable) → Stands d opts (Item.stream done ++ P) (done ++ todo) →
      Waiting P todo → d.buf.length < n →
      Stands (feed.go n d msgs errs).1 opts P todo ∧
        (feed.go n d msgs errs).2 =
          (msgs.reverse ++ Item.messages done, errs.reverse ++ Item.faults done) := by
  induction done with
  | nil =>
    intro d todo P n msgs errs framed resumable stands waiting fuel
    obtain ⟨m, rfl⟩ : ∃ m, n = m + 1 := ⟨n - 1, by omega⟩
    have buf : d.buf = P := by simpa using stands.buf
    rw [← stands.opts] at framed stream
    obtain ⟨⟨e, failed, waits⟩, after⟩ :=
      decode_waiting stream framed resumable stands.ready waiting buf
    rw [go_of_waits failed waits]
    exact ⟨⟨after.ready, after.buf, after.opts.trans stands.opts⟩,
      by simp [Item.messages, Item.faults]⟩
  | cons i done ih =>
    intro d todo P n msgs errs framed resumable stands waiting fuel
    obtain ⟨m, rfl⟩ : ∃ m, n = m + 1 := ⟨n - 1, by omega⟩
    have framedRest : ∀ j ∈ done ++ todo, j.WellFramed opts.maxMessageSize :=
      fun j member => framed j (List.mem_cons_of_mem _ member)
    have resumableRest : ∀ j ∈ done ++ todo, j.Resumable :=
      fun j member => resumable j (List.mem_cons_of_mem _ member)
    cases i with
    | keepAlive c =>
      obtain ⟨idle, noHead, noBody⟩ := stands.ready.idle_of_keepAlive
      have buf : d.buf = c :: (Item.stream done ++ P) := by
        rw [stands.buf]
        simp [Item.bytes]
      obtain ⟨after, same⟩ := decode_keepAlive idle (framed _ List.mem_cons_self) buf
      obtain ⟨agree, result⟩ := go_succ_agree m (go_agree m) after same msgs errs
      have skipped : Stands { d with buf := Item.stream done ++ P } opts (Item.stream done ++ P)
          (done ++ todo) := ⟨.idle idle noHead noBody, rfl, stands.opts⟩
      have fuel' : (Item.stream done ++ P).length < m + 1 := by
        rw [buf, List.length_cons] at fuel
        omega
      obtain ⟨run, out⟩ := ih msgs errs framedRest resumableRest skipped waiting fuel'
      exact ⟨run.agree agree, by rw [result, out]; rfl⟩
    | message h b =>
      have frame : StreamFrame opts.maxMessageSize h b := framed _ List.mem_cons_self
      have buf : d.buf = h ++ b ++ (Item.stream done ++ P) := by
        rw [stands.buf]
        simp [Item.bytes]
      rw [← stands.opts] at frame stream
      obtain ⟨parsed, after⟩ := decode_message stream frame stands.ready buf
      have next : Stands d.decode.1 opts (Item.stream done ++ P) (done ++ todo) :=
        ⟨after.ready, after.buf, after.opts.trans stands.opts⟩
      have fuel' : d.decode.1.buf.length < m := by
        have filled : 0 < h.length := List.length_pos_iff.2 frame.head_ne_nil
        rw [buf] at fuel
        rw [after.buf]
        simp only [List.length_append] at fuel ⊢
        omega
      rw [go_message frame parsed]
      obtain ⟨run, out⟩ := ih _ _ framedRest resumableRest next waiting fuel'
      refine ⟨run, ?_⟩
      rw [out, show Item.message h b :: done = [.message h b] ++ done from rfl,
        Item.messages_append, Item.faults_append]
      simp

theorem feed_eq (d : Decoder) (p : Bytes) :
    d.feed p = ((feed.go ((d.write p).buf.length + 1) (d.write p) [] []).1,
      (feed.go ((d.write p).buf.length + 1) (d.write p) [] []).2.1,
      Fault.join (feed.go ((d.write p).buf.length + 1) (d.write p) [] []).2.2) := rfl

/-- One feed, from a decoder at the front of a stream whose buffer and chunk are a front of
it, decodes the whole items the chunk completes and stands at the next, waiting on what has
arrived of it. -/
theorem feed_items (stream : opts.stream = true) {d : Decoder} {todo : List Item}
    {p rest : Bytes} (framed : ∀ i ∈ todo, i.WellFramed opts.maxMessageSize)
    (resumable : ∀ i ∈ todo, i.Resumable) (ready : Ready d todo) (same : d.opts = opts)
    (front : d.buf ++ p ++ rest = Item.stream todo) :
    ∃ done left P, todo = done ++ left ∧ Waiting P left ∧ P ++ rest = Item.stream left ∧
      Stands (d.feed p).1 opts P left ∧
      (d.feed p).2 = (Item.messages done, Fault.join (Item.faults done)) := by
  obtain ⟨done, left, P, rfl, written, waiting⟩ := Item.split_front todo front
  have stands : Stands (d.write p) opts (Item.stream done ++ P) (done ++ left) :=
    ⟨ready.congr rfl rfl rfl, written, same⟩
  obtain ⟨run, out⟩ := go_run stream done [] [] framed resumable stands waiting
    (Nat.lt_succ_self _)
  have remaining : P ++ rest = Item.stream left := by
    rw [Item.stream_append, written, List.append_assoc] at front
    exact List.append_cancel_left front
  refine ⟨done, left, P, rfl, waiting, remaining, run, ?_⟩
  rw [feed_eq, out]
  simp

theorem feedEach_items (stream : opts.stream = true) (chunks : List Bytes) :
    ∀ {d : Decoder} {todo : List Item}, (∀ i ∈ todo, i.WellFramed opts.maxMessageSize) →
      (∀ i ∈ todo, i.Resumable) → Ready d todo → d.opts = opts → Waiting d.buf todo →
      d.buf ++ chunks.flatten = Item.stream todo →
      (d.feedEach chunks).2.1 = Item.messages todo ∧
        (∃ faultss : List (List Fault), (d.feedEach chunks).2.2 = faultss.map Fault.join ∧
          faultss.flatten = Item.faults todo) ∧
        (d.feedEach chunks).1.buf = [] ∧ (d.feedEach chunks).1.state = .idle := by
  induction chunks with
  | nil =>
    intro d todo framed resumable ready same waiting whole
    obtain ⟨rfl, empty⟩ := waiting.eq_nil (by simpa using whole) framed
    exact ⟨rfl, ⟨[], rfl, rfl⟩, empty, ready.idle_of_nil⟩
  | cons p ps ih =>
    intro d todo framed resumable ready same waiting whole
    obtain ⟨done, left, P, rfl, waiting', rest, stands, fed⟩ :=
      feed_items stream framed resumable ready same (by simpa [List.append_assoc] using whole)
    have framedRest : ∀ i ∈ left, i.WellFramed opts.maxMessageSize :=
      fun i member => framed i (List.mem_append_right _ member)
    have resumableRest : ∀ i ∈ left, i.Resumable :=
      fun i member => resumable i (List.mem_append_right _ member)
    obtain ⟨msgs, ⟨faultss, errs, flat⟩, buf, idle⟩ := ih framedRest resumableRest stands.ready
      stands.opts (by rw [stands.buf]; exact waiting') (by rw [stands.buf]; exact rest)
    simp only [feedEach]
    refine ⟨?_, ⟨Item.faults done :: faultss, ?_, ?_⟩, buf, idle⟩
    · rw [msgs, Item.messages_append, fed]
    · rw [errs, fed, List.map_cons]
    · rw [List.flatten_cons, flat, Item.faults_append]

/-- A stream of CR or LF keep-alives and well-framed messages, each message's head reading the
same however it arrives, decodes the same however it is cut into chunks. Fed the chunks one
after another, a fresh stream decoder hands out what each message that reads as one reads as,
in stream order; the feeds' failures are, chunk by chunk, the failures of the messages that do
not, each the failure that reading the message gives, in stream order; and the decoder ends
idle with nothing buffered. -/
theorem feedEach_stream {opts : DecoderOptions} (stream : opts.stream = true)
    {items : List Item} (framed : ∀ i ∈ items, i.WellFramed opts.maxMessageSize)
    (resumable : ∀ i ∈ items, i.Resumable) {chunks : List Bytes}
    (split : chunks.flatten = Item.stream items) :
    ((Decoder.new opts).feedEach chunks).2.1 = Item.messages items ∧
      (∃ faultss : List (List Fault),
        ((Decoder.new opts).feedEach chunks).2.2 = faultss.map Fault.join ∧
          faultss.flatten = Item.faults items) ∧
      ((Decoder.new opts).feedEach chunks).1.buffered = 0 ∧
      ((Decoder.new opts).feedEach chunks).1.state = .idle := by
  obtain ⟨msgs, faults, buf, idle⟩ := feedEach_items stream chunks (d := Decoder.new opts) framed
    resumable (.idle rfl rfl rfl) rfl .empty split
  exact ⟨msgs, faults, by simp [buffered, buf], idle⟩

/-- A response after a CR LF keep-alive, cut inside its start line and inside its
Content-Length field, is decoded whole. -/
theorem feedEach_stream_split_response :
    let opts := DecoderOptions.make true 0 none
    let items := [Item.keepAlive 13, Item.keepAlive 10,
      Item.message (lit "SIP/2.0 200 OK\r\nContent-Length: 1\r\n\r\n") (lit "x")]
    let chunks := [lit "\r\nSIP/2.0 2", lit "00 OK\r\nContent-Len", lit "gth: 1\r\n\r\nx"]
    opts.stream = true ∧ (∀ i ∈ items, i.WellFramed opts.maxMessageSize) ∧
      (∀ i ∈ items, i.Resumable) ∧ chunks.flatten = Item.stream items ∧
      ((Decoder.new opts).feedEach chunks).2.1 = Item.messages items ∧
      (∃ faultss : List (List Fault),
        ((Decoder.new opts).feedEach chunks).2.2 = faultss.map Fault.join ∧
          faultss.flatten = Item.faults items) ∧
      ((Decoder.new opts).feedEach chunks).1.buffered = 0 ∧
      ((Decoder.new opts).feedEach chunks).1.state = .idle := by
  intro opts items chunks
  have stream : opts.stream = true := rfl
  have framed : ∀ i ∈ items, i.WellFramed opts.maxMessageSize := by decide +kernel
  have resumable : ∀ i ∈ items, i.Resumable := by decide +kernel
  have split : chunks.flatten = Item.stream items := by decide +kernel
  exact ⟨stream, framed, resumable, split, feedEach_stream stream framed resumable split⟩

end Feeding

/-- Heads that do not read the same however they arrive break the statement. A response whose
reason phrase holds a control octet, and one whose Subject value starts with a folded line
break, are well framed and each reads as a message, yet cut right after the control octet, or
inside the fold, neither is handed out. -/
theorem feedEach_split_loses_message :
    let opts := DecoderOptions.make true 0 none
    let control := lit "SIP/2.0 200 O\x01K\r\nContent-Length: 0\r\n\r\n"
    let folded := lit "SIP/2.0 200 OK\r\nSubject:\r\n\tabc\r\nContent-Length: 0\r\n\r\n"
    (∀ i ∈ [Item.message control [], Item.message folded []],
      i.WellFramed opts.maxMessageSize) ∧
    (Item.messages [.message control []]).length = 1 ∧
      ((Decoder.new opts).feedEach [control.take 14, control.drop 14]).2.1.length = 0 ∧
    (Item.messages [.message folded []]).length = 1 ∧
      ((Decoder.new opts).feedEach [folded.take 29, folded.drop 29]).2.1.length = 0 := by
  decide +kernel

end SipCodec.Decoder
