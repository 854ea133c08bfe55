import SipCodec.Proofs.Decoder.Chunking

/-! Decoding always makes progress: a decode returns within three passes, consumes an octet unless
it waits, and so a feed's rounds are bounded by its buffer. -/

namespace SipCodec.Decoder

open Message

/-! ### The decode loop, one pass at a time -/

/-- What an idle pass does first: drop the keep-alive octets at the front, counting and logging
them. -/
def skipKeepAlives (d : Decoder) : Decoder :=
  let n := keepAliveLen d.buf
  if n > 0 then
    let metrics := { d.metrics with keepAliveBytes := d.metrics.keepAliveBytes + n }
    ({ d with buf := d.buf.drop n, metrics := metrics } : Decoder).log .debug "keep-alive skipped"
      [("bytes", .scalar (.int n))]
  else d

/-- Entering `body` once a head is framed: the lengths are kept and logged. -/
def enterBody (d : Decoder) (h b : Nat) : Decoder :=
  ({ d with state := .body, headLen := h, bodyLen := b } : Decoder).log .debug
    "message head framed" [("head_len", .scalar (.int h)), ("body_len", .scalar (.int b))]

/-- One pass of the decode loop: it goes on with a decoder in its next state (`.inl`), or
returns the decoder and the result (`.inr`). -/
def pass (d : Decoder) : Decoder ⊕ (Decoder × Outcome Message) :=
  match d.state with
  | .idle =>
    let d := skipKeepAlives d
    if d.buf.isEmpty then .inr (d, .error (.detail .incomplete (lit "no data")))
    else .inl { d with state := .head }
  | .head =>
    match d.frameSize with
    | .error e => .inr (if e.isIncomplete then (d, .error e) else d.drop e d.buf.length)
    | .ok (h, b) => .inl (d.enterBody h b)
  | .body => .inr d.decodeBody

/-- The decode loop run for at most `n` passes; `none` when no pass has returned. -/
def passes : Nat → Decoder → Option (Decoder × Outcome Message)
  | 0, _ => none
  | n + 1, d =>
    match d.pass with
    | .inl next => passes n next
    | .inr result => some result

theorem decodeIdle_eq_skip (d : Decoder) :
    d.decodeIdle = if (skipKeepAlives d).buf.isEmpty then
      (skipKeepAlives d, .error (.detail .incomplete (lit "no data")))
      else { skipKeepAlives d with state := .head }.decodeHead := rfl

theorem decodeHead_of_framed {d : Decoder} {h b : Nat} (sized : d.frameSize = .ok (h, b)) :
    d.decodeHead = (d.enterBody h b).decodeBody := by
  simp [decodeHead, sized, enterBody]

theorem decodeHead_of_failed {d : Decoder} {e : Fault} (sized : d.frameSize = .error e) :
    d.decodeHead = if e.isIncomplete then (d, .error e) else d.drop e d.buf.length := by
  simp [decodeHead, sized]

@[simp] theorem enterBody_state (d : Decoder) (h b : Nat) : (d.enterBody h b).state = .body := by
  simp [enterBody]

@[simp] theorem enterBody_buf (d : Decoder) (h b : Nat) : (d.enterBody h b).buf = d.buf := by
  simp [enterBody]

@[simp] theorem enterBody_headLen (d : Decoder) (h b : Nat) : (d.enterBody h b).headLen = h := by
  simp [enterBody]

@[simp] theorem enterBody_bodyLen (d : Decoder) (h b : Nat) : (d.enterBody h b).bodyLen = b := by
  simp [enterBody]

@[simp] theorem enterBody_opts (d : Decoder) (h b : Nat) : (d.enterBody h b).opts = d.opts := by
  simp [enterBody]

theorem passes_body {d : Decoder} (body : d.state = .body) (n : Nat) :
    passes (n + 1) d = some d.decodeBody := by
  simp [passes, pass, body]

theorem passes_head {d : Decoder} (head : d.state = .head) (n : Nat) :
    passes (n + 2) d = some d.decodeHead := by
  cases sized : d.frameSize with
  | error e =>
    rw [decodeHead_of_failed sized]
    simp [passes, pass, head, sized]
  | ok sizes =>
    obtain ⟨h, b⟩ := sizes
    rw [decodeHead_of_framed sized, ← passes_body (enterBody_state d h b) n]
    simp [passes, pass, head, sized]

theorem passes_idle {d : Decoder} (idle : d.state = .idle) (n : Nat) :
    passes (n + 3) d = some d.decodeIdle := by
  rw [decodeIdle_eq_skip]
  by_cases empty : (skipKeepAlives d).buf.isEmpty = true
  · simp [passes, pass, idle, empty]
  · rw [if_neg empty, ← passes_head (d := { skipKeepAlives d with state := .head }) rfl n]
    simp [passes, pass, idle, empty]

theorem passes_decode (d : Decoder) (n : Nat) : passes (n + 3) d = some d.decode := by
  unfold Decoder.decode
  cases state : d.state with
  | idle => exact passes_idle state n
  | head => exact passes_head state (n + 1)
  | body => exact passes_body state (n + 2)

/-! ### Each decode consumes an octet or waits -/

/-- A decode from a buffer of `n` octets that ended in `d'` with result `r` either waits for
more input or has consumed at least one octet. -/
def Progress (n : Nat) (d' : Decoder) (r : Outcome Message) : Prop :=
  (∃ e, r = .error e ∧ e.isIncomplete = true) ∨ d'.buffered < n

theorem Progress.mono {n n' : Nat} {d' : Decoder} {r : Outcome Message} (made : Progress n d' r)
    (le : n ≤ n') : Progress n' d' r := by
  rcases made with waits | shorter
  · exact .inl waits
  · exact .inr (by omega)

theorem progress_drop {d : Decoder} {e : Fault} {k : Nat} (positive : 0 < k)
    (filled : 0 < d.buf.length) : Progress d.buf.length (d.drop e k).1 (d.drop e k).2 :=
  .inr (by simp only [buffered, drop_buf, List.length_drop]; omega)

theorem Framed.headLen_pos {opts : DecoderOptions} {buf : Bytes} {h b : Nat}
    (framed : Framed opts buf h b) : 0 < h := by
  obtain ⟨rest, tok, headCut, consumed, -⟩ := framed.head
  obtain ⟨head, filled, split⟩ := tokenizeHead_suffix headCut
  have := List.length_pos_iff.2 filled
  rw [← consumed, split, List.length_append]
  omega

theorem StartsFrame.length_pos {buf : Bytes} (starts : StartsFrame buf) : 0 < buf.length := by
  obtain ⟨c, rest, rfl, -, -⟩ := starts
  simp

theorem decodeBody_progress {d : Decoder} (positive : 0 < d.headLen) (filled : 0 < d.buf.length) :
    Progress d.buf.length d.decodeBody.1 d.decodeBody.2 := by
  unfold decodeBody
  dsimp only
  split
  · split
    · exact .inl ⟨_, rfl, rfl⟩
    · exact progress_drop filled filled
  · rename_i room
    have fits : d.headLen + d.bodyLen ≤ d.buf.length := by omega
    split
    · rename_i m _
      refine .inr ?_
      simp only [buffered, frame_buf, List.length_drop]
      split <;> omega
    · exact progress_drop (by split <;> omega) filled

theorem decodeHead_progress {d : Decoder} (starts : StartsFrame d.buf) :
    Progress d.buf.length d.decodeHead.1 d.decodeHead.2 := by
  have filled := starts.length_pos
  cases sized : d.frameSize with
  | error e =>
    rw [decodeHead_of_failed sized]
    by_cases waits : e.isIncomplete = true
    · rw [if_pos waits]
      exact .inl ⟨e, rfl, waits⟩
    · rw [if_neg waits]
      exact progress_drop filled filled
  | ok sizes =>
    obtain ⟨h, b⟩ := sizes
    have framed := frameSize_framed sized starts
    rw [decodeHead_of_framed sized]
    have made := decodeBody_progress (d := d.enterBody h b) (by simpa using framed.headLen_pos)
      (by simpa using filled)
    simpa using made

theorem decodeIdle_progress (d : Decoder) :
    Progress d.buf.length d.decodeIdle.1 d.decodeIdle.2 := by
  obtain ⟨d₁, eq, buf₁, -, -, -, -⟩ := decodeIdle_eq d
  rw [eq]
  split
  · exact .inl ⟨_, rfl, rfl⟩
  · rename_i left
    have starts : StartsFrame d₁.buf := by
      rw [buf₁] at left ⊢
      exact startsFrame_drop_keepAlive (by simpa using left)
    have made := decodeHead_progress (d := { d₁ with state := .head }) starts
    have shorter : d₁.buf.length ≤ d.buf.length := by
      rw [buf₁, List.length_drop]
      omega
    exact made.mono shorter

/-- A decode from a valid decoder waits for more input or consumes at least one octet. -/
theorem Valid.decode_progress {d : Decoder} (valid : Valid d) :
    Progress d.buf.length d.decode.1 d.decode.2 := by
  unfold Decoder.decode
  cases state : d.state with
  | idle => exact decodeIdle_progress d
  | head => exact decodeHead_progress (valid.head state).2
  | body =>
    have framed := (valid.body state).2
    exact decodeBody_progress framed.headLen_pos framed.starts.length_pos

/-! ### A feed decodes until a decode waits -/

/-- The decode calls of a feed: `Feeds d k d' msgs errs` when `k` decodes, the first from `d`
and each from the decoder the one before left, hand out `msgs` and fail hard with `errs`, and
the last of them, and only the last, waits for more input, leaving `d'`. -/
inductive Feeds : Decoder → Nat → Decoder → List Message → List Fault → Prop
  | waits {d : Decoder} {e : Fault} : d.decode.2 = .error e → e.isIncomplete = true →
      Feeds d 1 d.decode.1 [] []
  | message {d d' : Decoder} {m : Message} {k : Nat} {msgs : List Message} {errs : List Fault} :
      d.decode.2 = .ok m → Feeds d.decode.1 k d' msgs errs → Feeds d (k + 1) d' (m :: msgs) errs
  | drops {d d' : Decoder} {e : Fault} {k : Nat} {msgs : List Message} {errs : List Fault} :
      d.decode.2 = .error e → e.isIncomplete = false → Feeds d.decode.1 k d' msgs errs →
      Feeds d (k + 1) d' msgs (e :: errs)

/-- A feed's rounds from a valid decoder with more rounds than buffered octets decode until a
decode waits, in at most one decode per buffered octet and one more. -/
theorem feedGo_feeds (n : Nat) : ∀ (d : Decoder) (msgs : List Message) (errs : List Fault),
    Valid d → d.buffered < n → ∃ k ms es, k ≤ d.buffered + 1 ∧
      Feeds d k (feed.go n d msgs errs).1 ms es ∧
      (feed.go n d msgs errs).2 = (msgs.reverse ++ ms, errs.reverse ++ es) := by
  induction n with
  | zero => intro d _ _ _ bound; omega
  | succ n ih =>
    intro d msgs errs valid bound
    have decoded := valid.decode
    have made := valid.decode_progress
    -- a decode that does not wait leaves a valid decoder with fewer octets, and the rest
    -- of the rounds goes on from it
    have next : ∀ ms' es', (∀ e, d.decode.2 = .error e → e.isIncomplete = false) →
        ∃ k ms es, k ≤ d.decode.1.buffered + 1 ∧
          Feeds d.decode.1 k (feed.go n d.decode.1 ms' es').1 ms es ∧
          (feed.go n d.decode.1 ms' es').2 = (ms'.reverse ++ ms, es'.reverse ++ es) ∧
          d.decode.1.buffered < d.buffered := by
      intro ms' es' hard
      have shorter : d.decode.1.buffered < d.buffered := by
        rcases made with ⟨e, failed, waits⟩ | shorter
        · rw [hard e failed] at waits
          cases waits
        · exact shorter
      obtain ⟨k, ms, es, count, run, out⟩ := ih _ ms' es' decoded.valid (by omega)
      exact ⟨k, ms, es, count, run, out, shorter⟩
    cases result : d.decode.2 with
    | ok m =>
      rw [go_of_ok result]
      obtain ⟨k, ms, es, count, run, out, shorter⟩ :=
        next (m :: msgs) errs fun e failed => by rw [result] at failed; cases failed
      refine ⟨k + 1, m :: ms, es, by omega, .message result run, ?_⟩
      rw [out]
      simp
    | error e =>
      by_cases waits : e.isIncomplete = true
      · rw [go_of_waits result waits]
        exact ⟨1, [], [], by omega, .waits result waits, by simp⟩
      · have hard : e.isIncomplete = false := by simpa using waits
        rw [go_of_hard result hard]
        obtain ⟨k, ms, es, count, run, out, shorter⟩ :=
          next msgs (e :: errs) fun e' failed => by
            rw [result] at failed
            cases failed
            exact hard
        refine ⟨k + 1, ms, e :: es, by omega, .drops result hard run, ?_⟩
        rw [out]
        simp

/-- A decoder reached by writes, decodes, feeds and resets always terminates and makes
progress: each decode returns within three passes of its loop; each decode waits for more
input or consumes at least one octet; and a feed of `p` decodes until, and exactly until, a
decode waits, in at most one decode per octet buffered before it or written by it and one
more, handing out the messages and joining the failures of those decodes. -/
theorem feed_terminates {opts : DecoderOptions} {d : Decoder} (reach : Reachable opts d) :
    passes 3 d = some d.decode ∧
    ((∃ e, d.decode.2 = .error e ∧ e.isIncomplete = true) ∨ d.decode.1.buffered < d.buffered) ∧
    ∀ p, ∃ k errs, k ≤ d.buffered + p.length + 1 ∧
      Feeds (d.write p) k (d.feed p).1 (d.feed p).2.1 errs ∧ (d.feed p).2.2 = Fault.join errs := by
  have valid := reach.valid
  refine ⟨passes_decode d 0, valid.decode_progress, fun p => ?_⟩
  have written : (d.write p).buffered = d.buffered + p.length := by
    simp [buffered, write]
  obtain ⟨k, ms, es, count, run, out⟩ :=
    feedGo_feeds ((d.write p).buf.length + 1) (d.write p) [] [] (valid.write p) (by simp [buffered])
  refine ⟨k, es, by omega, ?_, ?_⟩
  · rw [feed_eq]
    simpa [out] using run
  · rw [feed_eq, out]
    simp

/-- The fresh stream decoder with the default size limit and no log, fed any chunk. -/
theorem feed_terminates_fresh_stream :
    let opts := DecoderOptions.make true 0 none
    let d := Decoder.new opts
    Reachable opts d ∧
    passes 3 d = some d.decode ∧
    ((∃ e, d.decode.2 = .error e ∧ e.isIncomplete = true) ∨ d.decode.1.buffered < d.buffered) ∧
    ∀ p, ∃ k errs, k ≤ d.buffered + p.length + 1 ∧
      Feeds (d.write p) k (d.feed p).1 (d.feed p).2.1 errs ∧ (d.feed p).2.2 = Fault.join errs :=
  ⟨.new, feed_terminates .new⟩

end SipCodec.Decoder
