import SipCodec.Proofs.Message.HeadCut
import SipCodec.Proofs.Message.HardFaults

/-! The decoder between calls: every decoder reached from a fresh one is `Valid`, and one decode
from a valid decoder keeps it valid and hands out only framed messages within the limit. -/

namespace SipCodec.Decoder

open Message

/-- The buffer holds an octet at its front, and it is no CR or LF keep-alive. -/
def StartsFrame (buf : Bytes) : Prop := ∃ c rest, buf = c :: rest ∧ c ≠ 13 ∧ c ≠ 10

/-- The buffer starts with a head of `headLen` octets whose first Content-Length field, or else
(on datagrams) the rest of the buffer, gives `bodyLen`, the two within the size limit. -/
structure Framed (opts : DecoderOptions) (buf : Bytes) (headLen bodyLen : Nat) : Prop where
  starts : StartsFrame buf
  head : ∃ rest tok, tokenizeHead buf = .ok (rest, tok) ∧ buf.length - rest.length = headLen ∧
    (contentLength tok.headers = .ok (some bodyLen) ∨
      opts.stream = false ∧ contentLength tok.headers = .ok none ∧ bodyLen = rest.length)
  fits : headLen + bodyLen ≤ opts.maxMessageSize

/-- What holds of a decoder between calls. -/
structure Valid (d : Decoder) : Prop where
  idle : d.state = .idle → d.headLen = 0 ∧ d.bodyLen = 0
  head : d.state = .head → d.opts.stream = true ∧ StartsFrame d.buf
  body : d.state = .body → d.opts.stream = true ∧ Framed d.opts d.buf d.headLen d.bodyLen

/-- A frame cut from a buffer and the message read from it: within the limit, with a head that
ends where the body starts and whose first Content-Length field, if any, is the body's length. -/
structure Frame (opts : DecoderOptions) (f : Bytes) (m : Message) : Prop where
  fits : f.length ≤ opts.maxMessageSize
  parsed : parse f = .ok m
  head : ∃ tok, tokenizeHead f = .ok (m.body, tok) ∧
    tokenize f = .ok ([], { tok with body := m.body }) ∧
    (contentLength tok.headers = .ok (some m.body.length) ∨
      opts.stream = false ∧ contentLength tok.headers = .ok none)

/-- What one decode from a valid decoder with settings `opts` and buffer `buf` promises of the
decoder `d'` it ends in and its result `r`. -/
structure Decoded (opts : DecoderOptions) (buf : Bytes) (d' : Decoder) (r : Outcome Message) :
    Prop where
  valid : Valid d'
  sameOpts : d'.opts = opts
  waiting : ∀ e, r = .error e → e.isIncomplete = true → d'.buffered ≤ opts.maxMessageSize
  framed : ∀ m, r = .ok m → ∃ skipped f rest, buf = skipped ++ f ++ rest ∧
    (∀ c ∈ skipped, c = 13 ∨ c = 10) ∧ Frame opts f m
  /-- On datagrams, every decode consumes the whole buffer. -/
  emptied : opts.stream = false → d'.buf = []

/-- The decoders that writes, decodes, feeds and resets lead to from a fresh one. -/
inductive Reachable (opts : DecoderOptions) : Decoder → Prop
  | new : Reachable opts (Decoder.new opts)
  | write {d : Decoder} (p : Bytes) : Reachable opts d → Reachable opts (d.write p)
  | decode {d : Decoder} : Reachable opts d → Reachable opts d.decode.1
  | feed {d : Decoder} (p : Bytes) : Reachable opts d → Reachable opts (d.feed p).1
  | reset {d : Decoder} : Reachable opts d → Reachable opts d.reset

section Fields

variable (d : Decoder) (level : Log.Level) (msg : String) (attrs : List (String × Log.Value))
  (e : Fault) (n : Nat) (m : Message)

@[simp] theorem log_opts : (d.log level msg attrs).opts = d.opts := by
  unfold log; split <;> (try split) <;> rfl
@[simp] theorem log_state : (d.log level msg attrs).state = d.state := by
  unfold log; split <;> (try split) <;> rfl
@[simp] theorem log_buf : (d.log level msg attrs).buf = d.buf := by
  unfold log; split <;> (try split) <;> rfl
@[simp] theorem log_headLen : (d.log level msg attrs).headLen = d.headLen := by
  unfold log; split <;> (try split) <;> rfl
@[simp] theorem log_bodyLen : (d.log level msg attrs).bodyLen = d.bodyLen := by
  unfold log; split <;> (try split) <;> rfl

@[simp] theorem drop_snd : (d.drop e n).2 = .error e := rfl
@[simp] theorem drop_opts : (d.drop e n).1.opts = d.opts := by simp [drop, restart]
@[simp] theorem drop_state : (d.drop e n).1.state = .idle := rfl
@[simp] theorem drop_buf : (d.drop e n).1.buf = d.buf.drop n := by simp [drop, restart]
@[simp] theorem drop_headLen : (d.drop e n).1.headLen = 0 := rfl
@[simp] theorem drop_bodyLen : (d.drop e n).1.bodyLen = 0 := rfl

@[simp] theorem frame_snd : (d.frame m).2 = .ok m := rfl
@[simp] theorem frame_opts : (d.frame m).1.opts = d.opts := by simp [frame, restart]
@[simp] theorem frame_state : (d.frame m).1.state = .idle := by simp [frame, restart]
@[simp] theorem frame_buf :
    (d.frame m).1.buf = d.buf.drop (if d.opts.stream then d.headLen + d.bodyLen else d.buf.length) := by
  simp [frame, restart]
@[simp] theorem frame_headLen : (d.frame m).1.headLen = 0 := by simp [frame, restart]
@[simp] theorem frame_bodyLen : (d.frame m).1.bodyLen = 0 := by simp [frame, restart]

end Fields

theorem Valid.of_idle {d : Decoder} (idle : d.state = .idle) (noHead : d.headLen = 0)
    (noBody : d.bodyLen = 0) : Valid d where
  idle _ := ⟨noHead, noBody⟩
  head waiting := by rw [idle] at waiting; cases waiting
  body waiting := by rw [idle] at waiting; cases waiting

theorem Decoded.drop {opts : DecoderOptions} {buf : Bytes} {d : Decoder} {e : Fault} {n : Nat}
    (same : d.opts = opts) (hard : e.isIncomplete = false)
    (whole : opts.stream = false → d.buf.length ≤ n) :
    Decoded opts buf (d.drop e n).1 (d.drop e n).2 where
  valid := .of_idle (by simp) (by simp) (by simp)
  sameOpts := by simp [same]
  waiting e' failed waits := by
    simp only [drop_snd, Except.error.injEq] at failed
    subst failed
    rw [hard] at waits
    cases waits
  framed m' decoded := by cases decoded
  emptied datagram := by simpa using whole datagram

theorem StartsFrame.append {buf : Bytes} (starts : StartsFrame buf) (p : Bytes) :
    StartsFrame (buf ++ p) := by
  obtain ⟨c, rest, rfl, notCr, notLf⟩ := starts
  exact ⟨c, rest ++ p, rfl, notCr, notLf⟩

theorem skipEmptyLines_of_startsFrame {buf : Bytes} (starts : StartsFrame buf) :
    skipEmptyLines buf = buf := by
  obtain ⟨c, rest, rfl, notCr, notLf⟩ := starts
  rw [skipEmptyLines]
  all_goals simp [notCr, notLf]

theorem startsFrame_drop_keepAlive {buf : Bytes} (left : buf.drop (keepAliveLen buf) ≠ []) :
    StartsFrame (buf.drop (keepAliveLen buf)) := by
  unfold keepAliveLen at left ⊢
  rw [Grammar.drop_length_takeWhile] at left ⊢
  obtain ⟨c, rest, split⟩ := List.exists_cons_of_ne_nil left
  have stops := List.head_dropWhile_not (fun c => c == 13 || c == 10) left
  simp only [split, List.head_cons, Bool.or_eq_false_iff, beq_eq_false_iff_ne] at stops
  exact ⟨c, rest, split, stops.1, stops.2⟩

theorem keepAlive_take {buf : Bytes} : ∀ c ∈ buf.take (keepAliveLen buf), c = 13 ∨ c = 10 := by
  intro c member
  unfold keepAliveLen at member
  rw [Grammar.take_length_takeWhile] at member
  have := List.all_eq_true.1 List.all_takeWhile c member
  simpa using this

theorem frameSize_incomplete {d : Decoder} {e : Fault} (sized : d.frameSize = .error e)
    (waits : e.isIncomplete = true) :
    d.opts.stream = true ∧ d.buf.length ≤ d.opts.maxMessageSize := by
  simp only [frameSize] at sized
  split at sized
  · rename_i e₀ _
    by_cases waits₀ : e₀.isIncomplete = true
    · by_cases large : d.buf.length > d.opts.maxMessageSize
      · simp only [waits₀, large, Bool.not_true, Bool.false_eq_true, if_false, if_true] at sized
        cases sized
        cases waits
      · by_cases stream : d.opts.stream = true
        · exact ⟨stream, by omega⟩
        · simp only [waits₀, large, stream, Bool.not_true, Bool.not_false, Bool.false_eq_true,
            if_false, if_true] at sized
          cases sized
          cases waits
    · simp only [waits₀, Bool.not_false, if_true] at sized
      cases sized
      exact absurd waits waits₀
  · rename_i rest tok _
    cases lengthRead : contentLength tok.headers with
    | error e' =>
      simp only [lengthRead, Outcome.error_bind, Except.error.injEq] at sized
      have hard := Decoder.contentLength_hard tok.headers e' lengthRead
      rw [sized, waits] at hard
      cases hard
    | ok length =>
      have tooLarge : ∀ t, (Fault.detail .messageTooLarge t).isIncomplete = false := fun _ => rfl
      cases length with
      | some n =>
        simp only [lengthRead, Outcome.ok_bind, Outcome.pure_eq] at sized
        split at sized
        · simp only [Outcome.throw_eq, Outcome.error_bind, Except.error.injEq] at sized
          rw [← sized, tooLarge] at waits
          cases waits
        · cases sized
      | none =>
        simp only [lengthRead, Outcome.ok_bind] at sized
        split at sized
        · simp only [Outcome.throw_eq, Outcome.error_bind, Except.error.injEq] at sized
          rw [← sized] at waits
          cases waits
        · simp only [Outcome.pure_eq, Outcome.ok_bind] at sized
          split at sized
          · simp only [Outcome.throw_eq, Outcome.error_bind, Except.error.injEq] at sized
            rw [← sized, tooLarge] at waits
            cases waits
          · cases sized

theorem frameSize_framed {d : Decoder} {h b : Nat} (sized : d.frameSize = .ok (h, b))
    (starts : StartsFrame d.buf) : Framed d.opts d.buf h b := by
  simp only [frameSize] at sized
  split at sized
  · repeat' split at sized
    all_goals simp at sized
  · rename_i rest tok headCut
    cases lengthRead : contentLength tok.headers with
    | error e' => simp [lengthRead] at sized
    | ok length =>
      cases length with
      | some n =>
        simp only [lengthRead, Outcome.ok_bind, Outcome.pure_eq] at sized
        split at sized
        · simp at sized
        · simp only [Except.ok.injEq, Prod.mk.injEq] at sized
          obtain ⟨rfl, rfl⟩ := sized
          exact ⟨starts, ⟨rest, tok, headCut, rfl, .inl lengthRead⟩, by omega⟩
      | none =>
        simp only [lengthRead, Outcome.ok_bind] at sized
        split at sized
        · simp at sized
        · rename_i datagram
          simp only [Outcome.pure_eq, Outcome.ok_bind] at sized
          split at sized
          · simp at sized
          · simp only [Except.ok.injEq, Prod.mk.injEq] at sized
            obtain ⟨rfl, rfl⟩ := sized
            exact ⟨starts, ⟨rest, tok, headCut, rfl, .inr ⟨by simpa using datagram, lengthRead, rfl⟩⟩,
              by omega⟩

theorem StartsFrame.take {buf : Bytes} (starts : StartsFrame buf) {n : Nat} (positive : 0 < n) :
    StartsFrame (buf.take n) := by
  obtain ⟨c, rest, rfl, notCr, notLf⟩ := starts
  obtain ⟨k, rfl⟩ : ∃ k, n = k + 1 := ⟨n - 1, by omega⟩
  exact ⟨c, rest.take k, rfl, notCr, notLf⟩

theorem ofToken_body {t : Token} {m : Message} (read : ofToken t = .ok m) : m.body = t.body := by
  unfold ofToken at read
  split at read
  · rename_i st _
    cases start : StartLine.ofToken st with
    | error e => simp [start] at read
    | ok line =>
      cases fields : t.headers.mapM Header.ofLine with
      | error e => simp [start, fields] at read
      | ok hs =>
        simp only [start, fields, Outcome.ok_bind, Outcome.pure_eq, Except.ok.injEq] at read
        rw [← read]
  · simp at read

theorem Framed.take {opts : DecoderOptions} {buf : Bytes} {h b : Nat} (framed : Framed opts buf h b)
    (room : h + b ≤ buf.length) :
    ∃ body tok, body.length = b ∧ tokenizeHead (buf.take (h + b)) = .ok (body, tok) ∧
      tokenize (buf.take (h + b)) = .ok ([], { tok with body := body }) ∧
      (contentLength tok.headers = .ok (some b) ∨
        opts.stream = false ∧ contentLength tok.headers = .ok none) := by
  obtain ⟨rest, tok, headCut, consumed, lengthRead⟩ := framed.head
  obtain ⟨head, filled, split⟩ := tokenizeHead_suffix headCut
  have headLength : h = head.length := by
    rw [← consumed, split, List.length_append]
    omega
  have frameIs : buf.take (h + b) = head ++ rest.take b := by
    rw [split, headLength, List.take_append, List.take_of_length_le (by omega)]
    simp
  have bodyLength : (rest.take b).length = b := by
    rw [split, List.length_append, headLength] at room
    simp only [List.length_take]
    omega
  rw [split] at headCut
  have frameCut : tokenizeHead (buf.take (h + b)) = .ok (rest.take b, tok) := by
    rw [frameIs]
    exact tokenizeHead_append headCut
  have starts : StartsFrame (buf.take (h + b)) := by
    refine framed.starts.take ?_
    have := List.length_pos_iff.2 filled
    omega
  refine ⟨rest.take b, tok, bodyLength, frameCut, ?_, ?_⟩
  · simp only [tokenize, skipEmptyLines_of_startsFrame starts, frameCut, Outcome.ok_bind]
    rfl
  · rcases lengthRead with known | ⟨datagram, none, -⟩
    · exact .inl known
    · exact .inr ⟨datagram, none⟩

theorem decodeBody_decoded {opts : DecoderOptions} {buf : Bytes} {d : Decoder}
    (sameOpts : d.opts = opts) (sameBuf : d.buf = buf) (body : d.state = .body)
    (framed : Framed d.opts d.buf d.headLen d.bodyLen) :
    Decoded opts buf d.decodeBody.1 d.decodeBody.2 := by
  subst sameOpts sameBuf
  unfold decodeBody
  dsimp only
  split
  · rename_i short
    split
    · rename_i stream
      refine ⟨⟨fun idle => ?_, fun head => ?_, fun _ => ⟨stream, framed⟩⟩, rfl, ?_, ?_, ?_⟩
      · rw [body] at idle; cases idle
      · rw [body] at head; cases head
      · intro e _ _
        have := framed.fits
        simp only [buffered]
        omega
      · intro m decoded; cases decoded
      · intro datagram; rw [stream] at datagram; cases datagram
    · exact .drop rfl rfl fun _ => Nat.le_refl _
  · rename_i room
    obtain ⟨frameBody, tok, bodyLength, frameCut, cut, lengthRead⟩ := framed.take (by omega)
    split
    · rename_i m read
      refine ⟨.of_idle (by simp) (by simp) (by simp), by simp, ?_, ?_, ?_⟩
      · intro e failed; cases failed
      · intro m' decoded
        simp only [frame_snd, Except.ok.injEq] at decoded
        subst decoded
        have bodyIs : m.body = frameBody := by
          unfold parse at read
          rw [cut, Outcome.ok_bind] at read
          exact ofToken_body read
        refine ⟨[], d.buf.take (d.headLen + d.bodyLen), d.buf.drop (d.headLen + d.bodyLen),
          by simp, by simp, ⟨?_, read, tok, ?_, ?_, ?_⟩⟩
        · simp only [List.length_take]
          have := framed.fits
          omega
        · rw [bodyIs]; exact frameCut
        · rw [bodyIs]; exact cut
        · rw [bodyIs, bodyLength]; exact lengthRead
      · intro datagram
        simp [datagram]
    · rename_i e read
      exact .drop rfl (Message.parse_hard cut e read) fun datagram => by simp [datagram]

theorem decodeHead_decoded {d : Decoder} (head : d.state = .head) (starts : StartsFrame d.buf) :
    Decoded d.opts d.buf d.decodeHead.1 d.decodeHead.2 := by
  unfold decodeHead
  split
  · rename_i e sized
    split
    · rename_i waits
      obtain ⟨stream, bound⟩ := frameSize_incomplete sized waits
      refine ⟨⟨fun idle => ?_, fun _ => ⟨stream, starts⟩, fun body => ?_⟩, rfl, ?_, ?_, ?_⟩
      · rw [head] at idle; cases idle
      · rw [head] at body; cases body
      · intro _ _ _
        exact bound
      · intro m decoded; cases decoded
      · intro datagram; rw [stream] at datagram; cases datagram
    · rename_i hard
      exact .drop rfl (by simpa using hard) fun _ => Nat.le_refl _
  · rename_i h b sized
    have framed := frameSize_framed sized starts
    exact decodeBody_decoded (by simp) (by simp) (by simp) (by simpa using framed)

theorem Decoded.skip {opts : DecoderOptions} {buf : Bytes} {d' : Decoder} {r : Outcome Message}
    (decoded : Decoded opts (buf.drop (keepAliveLen buf)) d' r) : Decoded opts buf d' r where
  valid := decoded.valid
  sameOpts := decoded.sameOpts
  waiting := decoded.waiting
  framed m read := by
    obtain ⟨skipped, f, rest, split, keep, frame⟩ := decoded.framed m read
    refine ⟨buf.take (keepAliveLen buf) ++ skipped, f, rest, ?_, ?_, frame⟩
    · calc buf = buf.take (keepAliveLen buf) ++ buf.drop (keepAliveLen buf) :=
            (List.take_append_drop _ _).symm
        _ = _ := by rw [split]; simp
    · intro c member
      rcases List.mem_append.1 member with early | late
      · exact keepAlive_take c early
      · exact keep c late
  emptied := decoded.emptied

theorem decodeIdle_eq (d : Decoder) : ∃ d₁ : Decoder,
    d.decodeIdle = (if d₁.buf.isEmpty then (d₁, .error (.detail .incomplete (lit "no data")))
      else { d₁ with state := .head }.decodeHead) ∧
    d₁.buf = d.buf.drop (keepAliveLen d.buf) ∧ d₁.opts = d.opts ∧ d₁.state = d.state ∧
    d₁.headLen = d.headLen ∧ d₁.bodyLen = d.bodyLen := by
  unfold decodeIdle
  by_cases skip : keepAliveLen d.buf > 0
  · simp only [skip, if_true]
    exact ⟨_, rfl, by simp, by simp, by simp, by simp, by simp⟩
  · simp only [skip, if_false]
    have none : keepAliveLen d.buf = 0 := by omega
    exact ⟨d, rfl, by simp [none], rfl, rfl, rfl, rfl⟩

theorem decodeIdle_decoded {d : Decoder} (valid : Valid d) (idle : d.state = .idle) :
    Decoded d.opts d.buf d.decodeIdle.1 d.decodeIdle.2 := by
  obtain ⟨d₁, eq, buf₁, opts₁, state₁, headLen₁, bodyLen₁⟩ := decodeIdle_eq d
  rw [eq]
  split
  · rename_i empty
    obtain ⟨noHead, noBody⟩ := valid.idle idle
    simp only [List.isEmpty_iff] at empty
    refine ⟨.of_idle (by rw [state₁, idle]) (by rw [headLen₁, noHead]) (by rw [bodyLen₁, noBody]),
      opts₁, ?_, ?_, fun _ => empty⟩
    · intro _ _ _
      simp [buffered, empty]
    · intro m decoded; cases decoded
  · rename_i left
    have starts : StartsFrame d₁.buf := by
      rw [buf₁] at left ⊢
      exact startsFrame_drop_keepAlive (by simpa using left)
    have decoded := decodeHead_decoded (d := { d₁ with state := .head }) rfl starts
    rw [← opts₁]
    refine Decoded.skip ?_
    simpa [buf₁] using decoded

/-- One decode from a valid decoder. -/
theorem Valid.decode {d : Decoder} (valid : Valid d) :
    Decoded d.opts d.buf d.decode.1 d.decode.2 := by
  unfold Decoder.decode
  cases state : d.state with
  | idle => exact decodeIdle_decoded valid state
  | head => exact decodeHead_decoded state (valid.head state).2
  | body => exact decodeBody_decoded rfl rfl state (valid.body state).2

theorem Framed.append {opts : DecoderOptions} {buf : Bytes} {h b : Nat}
    (framed : Framed opts buf h b) (stream : opts.stream = true) (p : Bytes) :
    Framed opts (buf ++ p) h b := by
  obtain ⟨rest, tok, headCut, consumed, lengthRead⟩ := framed.head
  obtain ⟨head, -, split⟩ := tokenizeHead_suffix headCut
  rw [split] at headCut
  have known : contentLength tok.headers = .ok (some b) := by
    rcases lengthRead with known | ⟨datagram, -, -⟩
    · exact known
    · rw [stream] at datagram; cases datagram
  refine ⟨framed.starts.append p, ⟨rest ++ p, tok, ?_, ?_, .inl known⟩, framed.fits⟩
  · rw [split, List.append_assoc]
    exact tokenizeHead_append headCut
  · simp only [List.length_append] at consumed ⊢
    omega

theorem Valid.write {d : Decoder} (valid : Valid d) (p : Bytes) : Valid (d.write p) where
  idle idle := valid.idle idle
  head head := ⟨(valid.head head).1, (valid.head head).2.append p⟩
  body body := ⟨(valid.body body).1, (valid.body body).2.append (valid.body body).1 p⟩

theorem Valid.reset (d : Decoder) : Valid d.reset := .of_idle rfl rfl rfl

theorem feedGo_opts (d : Decoder) (valid : Valid d) (n : Nat) (msgs : List Message)
    (errs : List Fault) : (feed.go n d msgs errs).1.opts = d.opts := by
  induction n generalizing d msgs errs with
  | zero => rfl
  | succ n ih =>
    have decoded := valid.decode
    unfold feed.go
    split
    · rename_i d' m found
      rw [found] at decoded
      rw [ih d' decoded.valid, decoded.sameOpts]
    · rename_i d' e found
      rw [found] at decoded
      split
      · exact decoded.sameOpts
      · rw [ih d' decoded.valid, decoded.sameOpts]

/-- A feed's rounds of decoding keep the decoder valid. -/
theorem Valid.feedGo {d : Decoder} (valid : Valid d) (n : Nat) (msgs : List Message)
    (errs : List Fault) : Valid (feed.go n d msgs errs).1 := by
  induction n generalizing d msgs errs with
  | zero => exact valid
  | succ n ih =>
    have decoded := valid.decode
    unfold feed.go
    split
    · rename_i d' m found
      rw [found] at decoded
      exact ih decoded.valid _ _
    · rename_i d' e found
      rw [found] at decoded
      split
      · exact decoded.valid
      · exact ih decoded.valid _ _

theorem Valid.feed {d : Decoder} (valid : Valid d) (p : Bytes) : Valid (d.feed p).1 := by
  unfold Decoder.feed
  exact (valid.write p).feedGo _ _ _

theorem Reachable.valid {opts : DecoderOptions} {d : Decoder} (reach : Reachable opts d) :
    Valid d := by
  induction reach with
  | new => exact .of_idle rfl rfl rfl
  | write p _ ih => exact ih.write p
  | decode _ ih => exact ih.decode.valid
  | feed p _ ih => exact ih.feed p
  | reset _ _ => exact Valid.reset _

theorem Reachable.opts_eq {opts : DecoderOptions} {d : Decoder} (reach : Reachable opts d) :
    d.opts = opts := by
  induction reach with
  | new => rfl
  | write p _ ih => exact ih
  | decode reach ih => rw [reach.valid.decode.sameOpts, ih]
  | feed p reach ih =>
    unfold Decoder.feed
    rw [feedGo_opts _ (reach.valid.write p)]
    exact ih
  | reset _ ih => exact ih

theorem Valid.idle_of_datagram {d : Decoder} (valid : Valid d) (datagram : d.opts.stream = false) :
    d.state = .idle := by
  cases state : d.state with
  | idle => rfl
  | head => rw [(valid.head state).1] at datagram; cases datagram
  | body => rw [(valid.body state).1] at datagram; cases datagram

theorem decode_of_empty {d : Decoder} (idle : d.state = .idle) (empty : d.buf = []) :
    d.decode = (d, .error (.detail .incomplete (lit "no data"))) := by
  unfold Decoder.decode decodeIdle
  simp [idle, empty, keepAliveLen]

theorem feedGo_of_empty {d : Decoder} (idle : d.state = .idle) (empty : d.buf = []) (n : Nat)
    (msgs : List Message) (errs : List Fault) :
    feed.go n d msgs errs = (d, msgs.reverse, errs.reverse) := by
  cases n with
  | zero => rfl
  | succ n =>
    unfold feed.go
    rw [decode_of_empty idle empty]
    rfl

theorem Valid.feed_datagram {d : Decoder} (valid : Valid d) (datagram : d.opts.stream = false)
    (p : Bytes) : (d.feed p).1.buf = [] ∧ (d.feed p).1.state = .idle ∧ (d.feed p).2.1.length ≤ 1 := by
  have written := valid.write p
  have decoded := written.decode
  have datagram' : (d.write p).opts.stream = false := datagram
  unfold Decoder.feed feed.go
  dsimp only
  split
  · rename_i d' m found
    rw [found] at decoded
    have empty := decoded.emptied datagram'
    have idle := decoded.valid.idle_of_datagram (by rw [decoded.sameOpts]; exact datagram')
    rw [feedGo_of_empty idle empty]
    exact ⟨empty, idle, by simp⟩
  · rename_i d' e found
    rw [found] at decoded
    have empty := decoded.emptied datagram'
    have idle := decoded.valid.idle_of_datagram (by rw [decoded.sameOpts]; exact datagram')
    split
    · exact ⟨empty, idle, by simp⟩
    · rw [feedGo_of_empty idle empty]
      exact ⟨empty, idle, by simp⟩

/-- Every decoder reached by writes, decodes, feeds and resets, with `M` the size limit (65535
when none is given): idle means nothing framed; `head` means a stream and a buffer that starts
with an octet that is no keep-alive; `body` means a stream and a head of `headLen ≥ 1` octets
framed at the front of the buffer, whose first Content-Length is `bodyLen`, within `M`; a
decode that waits for input leaves at most `M` octets buffered; a decoded message is read from a
frame of at most `M` octets of the buffer; and on datagrams a feed empties the buffer, ends idle
and hands out at most one message. -/
theorem reachable_decoder_bounds {stream : Bool} {maxSize : Int} {level : Option Log.Level}
    {d : Decoder} (reach : Reachable (DecoderOptions.make stream maxSize level) d) :
    let M := if maxSize ≤ 0 then 65535 else maxSize.toNat
    (d.state = .idle → d.headLen = 0 ∧ d.bodyLen = 0) ∧
    (d.state = .head → stream = true ∧ ∃ c rest, d.buf = c :: rest ∧ c ≠ 13 ∧ c ≠ 10) ∧
    (d.state = .body → stream = true ∧ 1 ≤ d.headLen ∧ d.headLen + d.bodyLen ≤ M ∧
      ∃ rest tok, tokenizeHead d.buf = .ok (rest, tok) ∧ d.buf.length - rest.length = d.headLen ∧
        contentLength tok.headers = .ok (some d.bodyLen)) ∧
    (∀ e, d.decode.2 = .error e → e.isIncomplete = true → d.decode.1.buffered ≤ M) ∧
    (∀ m, d.decode.2 = .ok m →
      ∃ skipped f rest, d.buf = skipped ++ f ++ rest ∧ f.length ≤ M ∧ parse f = .ok m) ∧
    (stream = false → ∀ p, (d.feed p).1.buffered = 0 ∧ (d.feed p).1.state = .idle ∧
      (d.feed p).2.1.length ≤ 1) := by
  intro M
  have valid := reach.valid
  have limit : d.opts.maxMessageSize = M := by rw [reach.opts_eq]; rfl
  have streamIs : d.opts.stream = stream := by rw [reach.opts_eq]; rfl
  have decoded := valid.decode
  refine ⟨valid.idle, fun head => ?_, fun body => ?_, fun e failed waits => ?_, fun m read => ?_,
    fun datagram p => ?_⟩
  · obtain ⟨onStream, starts⟩ := valid.head head
    exact ⟨streamIs ▸ onStream, starts⟩
  · obtain ⟨onStream, framed⟩ := valid.body body
    obtain ⟨rest, tok, headCut, consumed, lengthRead⟩ := framed.head
    obtain ⟨head, filled, split⟩ := tokenizeHead_suffix headCut
    have known : contentLength tok.headers = .ok (some d.bodyLen) := by
      rcases lengthRead with known | ⟨datagram, -, -⟩
      · exact known
      · rw [onStream] at datagram; cases datagram
    have nonempty : 1 ≤ d.headLen := by
      rw [← consumed, split, List.length_append]
      have := List.length_pos_iff.2 filled
      omega
    exact ⟨streamIs ▸ onStream, nonempty, limit ▸ framed.fits, rest, tok, headCut, consumed, known⟩
  · rw [← limit]
    exact decoded.waiting e failed waits
  · obtain ⟨skipped, f, rest, split, -, frame⟩ := decoded.framed m read
    exact ⟨skipped, f, rest, split, limit ▸ frame.fits, frame.parsed⟩
  · obtain ⟨empty, idle, single⟩ := valid.feed_datagram (streamIs.trans datagram) p
    exact ⟨by simp [buffered, empty], idle, single⟩

/-- The bounds at a stream decoder that has framed a head and waits for the rest of its body. -/
theorem reachable_decoder_bounds_waiting_body :
    let d := ((Decoder.new (DecoderOptions.make true 0 none)).write
      (lit "SIP/2.0 200 OK\r\nContent-Length: 2\r\n\r\na")).decode.1
    Reachable (DecoderOptions.make true 0 none) d ∧
    let M := if (0 : Int) ≤ 0 then 65535 else (0 : Int).toNat
    (d.state = .idle → d.headLen = 0 ∧ d.bodyLen = 0) ∧
    (d.state = .head → true = true ∧ ∃ c rest, d.buf = c :: rest ∧ c ≠ 13 ∧ c ≠ 10) ∧
    (d.state = .body → true = true ∧ 1 ≤ d.headLen ∧ d.headLen + d.bodyLen ≤ M ∧
      ∃ rest tok, tokenizeHead d.buf = .ok (rest, tok) ∧ d.buf.length - rest.length = d.headLen ∧
        contentLength tok.headers = .ok (some d.bodyLen)) ∧
    (∀ e, d.decode.2 = .error e → e.isIncomplete = true → d.decode.1.buffered ≤ M) ∧
    (∀ m, d.decode.2 = .ok m →
      ∃ skipped f rest, d.buf = skipped ++ f ++ rest ∧ f.length ≤ M ∧ parse f = .ok m) ∧
    (true = false → ∀ p, (d.feed p).1.buffered = 0 ∧ (d.feed p).1.state = .idle ∧
      (d.feed p).2.1.length ≤ 1) :=
  ⟨.decode (.write _ .new), reachable_decoder_bounds (.decode (.write _ .new))⟩

end SipCodec.Decoder
