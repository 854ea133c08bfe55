import Mathlib
import SipCodec.Proofs.Decoder.Progress

/-! The decoder's counters and log record exactly what its decodes returned, and every octet written
is skipped, consumed, discarded or still buffered. A run is read as a transcript of events whose
accounts add up to the decoder's books. -/

namespace SipCodec

namespace DecoderMetrics

@[simp] theorem recordError_keepAliveBytes (m : DecoderMetrics) (reason : String) :
    (m.recordError reason).keepAliveBytes = m.keepAliveBytes := by
  unfold recordError; split <;> rfl

@[simp] theorem recordError_requests (m : DecoderMetrics) (reason : String) :
    (m.recordError reason).requests = m.requests := by
  unfold recordError; split <;> rfl

@[simp] theorem recordError_responses (m : DecoderMetrics) (reason : String) :
    (m.recordError reason).responses = m.responses := by
  unfold recordError; split <;> rfl

/-- The number of frames dropped for a reason, zero for a reason never counted. -/
def count (m : DecoderMetrics) (reason : String) : Nat :=
  ((m.errors.find? (·.1 == reason)).map (·.2)).getD 0

theorem find?_bumped (es : List (String × Nat)) (reason r : String) :
    (es.map fun p => if p.1 == reason then (p.1, p.2 + 1) else (p.1, p.2)).find? (·.1 == r) =
      (es.find? (·.1 == r)).map fun p => if p.1 == reason then (p.1, p.2 + 1) else (p.1, p.2) := by
  rw [List.find?_map]
  congr 2
  funext p
  by_cases same : p.1 = reason <;> simp [same]

theorem count_recordError (m : DecoderMetrics) (reason r : String) :
    (m.recordError reason).count r = m.count r + if reason == r then 1 else 0 := by
  unfold recordError count
  split
  · rename_i seen
    rw [find?_bumped]
    cases found : m.errors.find? (·.1 == r) with
    | some p =>
      have named : p.1 = r := by simpa using List.find?_some found
      by_cases same : reason = r
      · simp [named, same]
      · have other : p.1 ≠ reason := fun h => same (h ▸ named)
        simp [other, same]
    | none =>
      have other : reason ≠ r := by
        rintro rfl
        obtain ⟨p, member, hit⟩ := List.any_eq_true.1 seen
        exact absurd hit (by simpa using List.find?_eq_none.1 found p member)
      simp [other]
  · rename_i unseen
    rw [List.find?_append]
    cases found : m.errors.find? (·.1 == r) with
    | some p =>
      have named : p.1 = r := by simpa using List.find?_some found
      have other : reason ≠ r := by
        rintro rfl
        exact unseen (List.any_eq_true.2 ⟨p, List.mem_of_find?_eq_some found, by simp [named]⟩)
      simp [other]
    | none =>
      by_cases same : reason = r <;> simp [same]

end DecoderMetrics

namespace DecoderOptions

/-- Whether the log keeps the records of a level. -/
def keeps (opts : DecoderOptions) (level : Log.Level) : Bool :=
  match opts.logLevel with
  | some least => decide (least.value ≤ level.value)
  | none => false

end DecoderOptions

namespace Decoder

open Message

/-! ### What the counters and the frame-dropped records gain -/

/-- The records of dropped frames among the records kept. -/
def droppedRecords (rs : List Log.Record) : List Log.Record := rs.filter (·.msg == "frame dropped")

/-- The record a frame dropped with a failure leaves, showing the octets the drop consumed. -/
def dropRecord (e : Fault) (data : Bytes) : Log.Record :=
  ⟨.warn, "frame dropped", [("error", .scalar (.text e.message)), ("data", Log.bytesValue data)]⟩

/-- From `d` to `d'` the counters and the log gained `skipped` keep-alive octets, the messages
`handed`, the hard failures `failed`, and the frame-dropped records `logged`. -/
structure Adds (d d' : Decoder) (skipped : Nat) (handed : List Message) (failed : List Fault)
    (logged : List Log.Record) : Prop where
  keepAlive : d'.metrics.keepAliveBytes = d.metrics.keepAliveBytes + skipped
  requests : d'.metrics.requests = d.metrics.requests + (handed.filter Message.isRequest).length
  responses : d'.metrics.responses = d.metrics.responses + (handed.filter fun m => !m.isRequest).length
  errors : ∀ r, d'.metrics.count r = d.metrics.count r + (failed.filter fun e => e.reason == r).length
  records : droppedRecords d'.records = droppedRecords d.records ++ logged

namespace Adds

variable {d₁ d₂ d₃ : Decoder} {s₁ s₂ : Nat} {h₁ h₂ : List Message} {f₁ f₂ : List Fault}
  {l₁ l₂ : List Log.Record}

theorem refl (d : Decoder) : Adds d d 0 [] [] [] := ⟨rfl, rfl, rfl, fun _ => rfl, by simp⟩

theorem trans (first : Adds d₁ d₂ s₁ h₁ f₁ l₁) (second : Adds d₂ d₃ s₂ h₂ f₂ l₂) :
    Adds d₁ d₃ (s₁ + s₂) (h₁ ++ h₂) (f₁ ++ f₂) (l₁ ++ l₂) where
  keepAlive := by rw [second.keepAlive, first.keepAlive]; omega
  requests := by rw [second.requests, first.requests, List.filter_append, List.length_append]; omega
  responses := by
    rw [second.responses, first.responses, List.filter_append, List.length_append]; omega
  errors r := by
    rw [second.errors, first.errors, List.filter_append, List.length_append]; omega
  records := by rw [second.records, first.records, List.append_assoc]

theorem of_same (metrics : d₂.metrics = d₁.metrics) (records : d₂.records = d₁.records) :
    Adds d₁ d₂ 0 [] [] [] :=
  ⟨by simp [metrics], by simp [metrics], by simp [metrics], fun r => by simp [metrics],
    by simp [records]⟩

theorem congr_right (adds : Adds d₁ d₂ s₁ h₁ f₁ l₁) (metrics : d₃.metrics = d₂.metrics)
    (records : d₃.records = d₂.records) : Adds d₁ d₃ s₁ h₁ f₁ l₁ := by
  simpa using adds.trans (of_same metrics records)

end Adds

section Steps

variable (d : Decoder)

@[simp] theorem log_metrics (level : Log.Level) (msg : String) (attrs : List (String × Log.Value)) :
    (d.log level msg attrs).metrics = d.metrics := by
  unfold log; split <;> (try split) <;> rfl

theorem log_records (level : Log.Level) (msg : String) (attrs : List (String × Log.Value)) :
    (d.log level msg attrs).records =
      d.records ++ if d.opts.keeps level then [⟨level, msg, attrs⟩] else [] := by
  unfold log DecoderOptions.keeps
  cases kept : d.opts.logLevel with
  | none => simp
  | some least => by_cases le : least.value ≤ level.value <;> simp [le]

theorem adds_log_other (level : Log.Level) (msg : String) (other : (msg == "frame dropped") = false)
    (attrs : List (String × Log.Value)) : Adds d (d.log level msg attrs) 0 [] [] [] where
  keepAlive := by simp
  requests := by simp
  responses := by simp
  errors r := by simp
  records := by
    rw [log_records]
    split <;> simp [droppedRecords, other]

theorem skipKeepAlives_buf : (skipKeepAlives d).buf = d.buf.drop (keepAliveLen d.buf) := by
  by_cases skips : keepAliveLen d.buf > 0
  · simp [skipKeepAlives, skips]
  · simp [skipKeepAlives, show keepAliveLen d.buf = 0 by omega]

@[simp] theorem skipKeepAlives_opts : (skipKeepAlives d).opts = d.opts := by
  by_cases skips : keepAliveLen d.buf > 0 <;> simp [skipKeepAlives, skips]

@[simp] theorem write_opts (p : Bytes) : (d.write p).opts = d.opts := rfl

@[simp] theorem reset_opts : d.reset.opts = d.opts := rfl

theorem adds_skip : Adds d (skipKeepAlives d) (keepAliveLen d.buf) [] [] [] := by
  by_cases skips : keepAliveLen d.buf > 0
  · refine ⟨?_, ?_, ?_, fun r => ?_, ?_⟩ <;>
      simp [skipKeepAlives, skips, log_records, droppedRecords, DecoderMetrics.count]
  · simpa [skipKeepAlives, show keepAliveLen d.buf = 0 by omega] using Adds.refl d

theorem adds_enterBody (h b : Nat) : Adds d (d.enterBody h b) 0 [] [] [] := by
  refine ⟨?_, ?_, ?_, fun r => ?_, ?_⟩ <;> simp [enterBody, log_records, droppedRecords]

theorem adds_frame (m : Message) : Adds d (d.frame m).1 0 [m] [] [] := by
  unfold frame
  dsimp only
  have counted : Adds d ((({ d with metrics := if m.isRequest then
        { d.metrics with requests := d.metrics.requests + 1 }
        else { d.metrics with responses := d.metrics.responses + 1 } } : Decoder).restart
        (d.buf.drop (if d.opts.stream then d.headLen + d.bodyLen else d.buf.length))))
        0 [m] [] [] := by
    by_cases request : m.isRequest = true
    · exact ⟨by simp [restart, request], by simp [restart, request], by simp [restart, request],
        fun r => by simp [restart, request, DecoderMetrics.count], by simp [restart]⟩
    · have response : m.isRequest = false := by simpa using request
      exact ⟨by simp [restart, response], by simp [restart, response],
        by simp [restart, response], fun r => by simp [restart, response, DecoderMetrics.count],
        by simp [restart]⟩
  simpa using counted.trans (adds_log_other _ .debug "message decoded" (by decide)
    [("message", .group m.logAttrs)])

theorem adds_drop (e : Fault) (n : Nat) :
    Adds d (d.drop e n).1 0 [] [e]
      (if d.opts.keeps .warn then [dropRecord e (d.buf.take n)] else []) := by
  refine ⟨by simp [drop, restart], by simp [drop, restart], by simp [drop, restart],
    fun r => ?_, ?_⟩
  · simp only [drop, restart, log_metrics, DecoderMetrics.count_recordError, List.filter_cons,
      List.filter_nil]
    by_cases same : e.reason == r <;> simp [same]
  · simp only [drop, restart, log_records, droppedRecords, List.filter_append]
    split <;> simp [dropRecord]

end Steps

/-! ### What one decode did -/

/-- What one decode did with its buffer: it skipped the keep-alive octets `skipped`, consumed
`taken` for its result, and returned `result`. -/
structure Account where
  skipped : Bytes
  taken : Bytes
  result : Outcome Message

namespace Account

/-- The message the decode handed out, if any. -/
def handed (a : Account) : List Message :=
  match a.result with
  | .ok m => [m]
  | .error _ => []

/-- The failure of the frame the decode dropped, if any. -/
def failed (a : Account) : List Fault :=
  match a.result with
  | .ok _ => []
  | .error e => if e.isIncomplete then [] else [e]

/-- The record the dropped frame leaves, if any. -/
def logged (a : Account) : List Log.Record := a.failed.map fun e => dropRecord e a.taken

/-- Whether the decode waited for more input. -/
def waits (a : Account) : Bool :=
  match a.result with
  | .ok _ => false
  | .error e => e.isIncomplete

/-- The octets consumed for a message handed out, with the rest of its datagram. -/
def framedOctets (a : Account) : Nat := if a.handed.isEmpty then 0 else a.taken.length

/-- The octets consumed by a dropped frame. -/
def droppedOctets (a : Account) : Nat := if a.failed.isEmpty then 0 else a.taken.length

theorem taken_length {a : Account} (waiting : a.waits = true → a.taken = []) :
    a.taken.length = a.framedOctets + a.droppedOctets := by
  unfold framedOctets droppedOctets handed failed
  cases result : a.result with
  | ok m => simp
  | error e =>
    by_cases incomplete : e.isIncomplete = true
    · have nothing := waiting (by simp [waits, result, incomplete])
      simp [nothing]
    · simp [incomplete]

end Account

/-- A decode from `d` that ended with `out` went as the account `a` tells: it returned
`a.result`; the buffer was the keep-alive octets `a.skipped`, then the octets `a.taken`
consumed for the result, then what is left; a decode that waits consumed nothing, and one that
hands out a message read it from the front of what it consumed, which on a stream is all it
consumed (on datagrams the rest of the datagram goes with it); and the counters and the
frame-dropped records gained what the account says. -/
structure Settles (d : Decoder) (out : Decoder × Outcome Message) (a : Account) : Prop where
  result : out.2 = a.result
  sameOpts : out.1.opts = d.opts
  split : d.buf = a.skipped ++ a.taken ++ out.1.buf
  keepAlive : ∀ c ∈ a.skipped, c = 13 ∨ c = 10
  waits : a.waits = true → a.taken = []
  framed : ∀ m, a.result = .ok m → ∃ f rest, a.taken = f ++ rest ∧ parse f = .ok m ∧
    (d.opts.stream = true → rest = [])
  adds : Adds d out.1 a.skipped.length a.handed a.failed
    (if d.opts.keeps .warn then a.logged else [])

/-- One decode from `d`, as the account `a` tells. -/
def Accounted (d : Decoder) (a : Account) : Prop := Settles d d.decode a

section Settling

variable {d : Decoder}

theorem settles_wait {e : Fault} (waits : e.isIncomplete = true) :
    Settles d (d, .error e) ⟨[], [], .error e⟩ where
  result := rfl
  sameOpts := rfl
  split := rfl
  keepAlive := by simp
  waits _ := rfl
  framed m read := by cases read
  adds := by simpa [Account.handed, Account.failed, Account.logged, waits] using Adds.refl d

theorem settles_drop {e : Fault} (hard : e.isIncomplete = false) (n : Nat) :
    Settles d (d.drop e n) ⟨[], d.buf.take n, .error e⟩ where
  result := rfl
  sameOpts := by simp
  split := by simp
  keepAlive := by simp
  waits waits := by simp [Account.waits, hard] at waits
  framed m read := by cases read
  adds := by
    have dropped := adds_drop d e n
    simp only [Account.handed, Account.failed, Account.logged, hard, Bool.false_eq_true, if_false,
      List.map_cons, List.map_nil, List.length_nil]
    split <;> simpa [*] using dropped

theorem settles_frame {m : Message} (read : parse (d.buf.take (d.headLen + d.bodyLen)) = .ok m) :
    Settles d (d.frame m)
      ⟨[], d.buf.take (if d.opts.stream then d.headLen + d.bodyLen else d.buf.length), .ok m⟩ where
  result := rfl
  sameOpts := by simp
  split := by simp
  keepAlive := by simp
  waits waits := by simp [Account.waits] at waits
  framed m' read' := by
    obtain rfl : m = m' := by simpa using read'
    by_cases stream : d.opts.stream = true
    · exact ⟨d.buf.take (d.headLen + d.bodyLen), [], by simp [stream], read, fun _ => rfl⟩
    · refine ⟨d.buf.take (d.headLen + d.bodyLen), d.buf.drop (d.headLen + d.bodyLen), ?_, read,
        fun onStream => absurd onStream stream⟩
      simp [stream]
  adds := by
    simpa [Account.handed, Account.failed, Account.logged] using adds_frame d m

theorem Settles.unique {out : Decoder × Outcome Message} {a b : Account} (first : Settles d out a)
    (second : Settles d out b) : a = b := by
  have skippedLength : a.skipped.length = b.skipped.length := by
    have counted := first.adds.keepAlive.symm.trans second.adds.keepAlive
    omega
  have split := first.split.symm.trans second.split
  rw [List.append_assoc, List.append_assoc] at split
  obtain ⟨skipped, rest⟩ := List.append_inj split skippedLength
  have taken := List.append_cancel_right rest
  have result := first.result.symm.trans second.result
  cases a
  cases b
  simp only at skipped taken result
  rw [skipped, taken, result]

theorem Settles.prepend {d₁ : Decoder} {out : Decoder × Outcome Message} {s t : Bytes}
    {r : Outcome Message} (rest : Settles d₁ out ⟨[], t, r⟩) (front : d.buf = s ++ d₁.buf)
    (keep : ∀ c ∈ s, c = 13 ∨ c = 10) (opts : d₁.opts = d.opts)
    (skipped : Adds d d₁ s.length [] [] []) : Settles d out ⟨s, t, r⟩ where
  result := rest.result
  sameOpts := rest.sameOpts.trans opts
  split := by rw [front, rest.split]; simp
  keepAlive := keep
  waits := rest.waits
  framed m read := by rw [← opts]; exact rest.framed m read
  adds := by
    have both := skipped.trans rest.adds
    rw [opts] at both
    simp only [List.length_nil, Nat.add_zero, List.nil_append] at both
    exact both

theorem decodeBody_settles (framed : Framed d.opts d.buf d.headLen d.bodyLen) :
    ∃ t, Settles d d.decodeBody ⟨[], t, d.decodeBody.2⟩ := by
  unfold decodeBody
  dsimp only
  split
  · split
    · exact ⟨[], settles_wait rfl⟩
    · exact ⟨_, settles_drop rfl _⟩
  · rename_i room
    obtain ⟨_, _, _, _, cut, _⟩ := framed.take (by omega)
    cases read : parse (d.buf.take (d.headLen + d.bodyLen)) with
    | ok m => exact ⟨_, settles_frame read⟩
    | error e => exact ⟨_, settles_drop (Message.parse_hard cut e read) _⟩

theorem decodeHead_settles (starts : StartsFrame d.buf) :
    ∃ t, Settles d d.decodeHead ⟨[], t, d.decodeHead.2⟩ := by
  cases sized : d.frameSize with
  | error e =>
    rw [decodeHead_of_failed sized]
    by_cases waits : e.isIncomplete = true
    · rw [if_pos waits]
      exact ⟨[], settles_wait waits⟩
    · rw [if_neg waits]
      exact ⟨_, settles_drop (by simpa using waits) _⟩
  | ok sizes =>
    obtain ⟨h, b⟩ := sizes
    have framed := frameSize_framed sized starts
    rw [decodeHead_of_framed sized]
    obtain ⟨t, body⟩ := decodeBody_settles (d := d.enterBody h b) (by simpa using framed)
    exact ⟨t, body.prepend (by simp) (by simp) (by simp) (by simpa using adds_enterBody d h b)⟩

theorem decodeIdle_settles (d : Decoder) : ∃ a, Settles d d.decodeIdle a := by
  rw [decodeIdle_eq_skip]
  have front : d.buf = d.buf.take (keepAliveLen d.buf) ++ (skipKeepAlives d).buf := by
    rw [skipKeepAlives_buf, List.take_append_drop]
  have counted : (d.buf.take (keepAliveLen d.buf)).length = keepAliveLen d.buf := by
    unfold keepAliveLen
    rw [Grammar.take_length_takeWhile]
  have skipped := adds_skip d
  rw [← counted] at skipped
  split
  · exact ⟨_, (settles_wait rfl).prepend front keepAlive_take (by simp) skipped⟩
  · rename_i left
    have starts : StartsFrame (skipKeepAlives d).buf := by
      rw [skipKeepAlives_buf] at left ⊢
      exact startsFrame_drop_keepAlive (by simpa using left)
    obtain ⟨t, head⟩ := decodeHead_settles (d := { skipKeepAlives d with state := .head }) starts
    exact ⟨_, head.prepend front keepAlive_take (by simp) (skipped.congr_right rfl rfl)⟩

/-- Every decode from a valid decoder is accounted for. -/
theorem Valid.accounted (valid : Valid d) : ∃ a, Accounted d a := by
  unfold Accounted Decoder.decode
  cases state : d.state with
  | idle => exact decodeIdle_settles d
  | head =>
    obtain ⟨t, head⟩ := decodeHead_settles (valid.head state).2
    exact ⟨_, head⟩
  | body =>
    obtain ⟨t, body⟩ := decodeBody_settles (valid.body state).2
    exact ⟨_, body⟩

end Settling

/-! ### Runs of calls -/

/-- The rounds of decodes of a feed from `d`, each as its account tells: every round but the
last goes on, and the last waits for more input, leaving `d'`. -/
inductive Rounds : Decoder → List Account → Decoder → Prop
  | last {d : Decoder} {a : Account} : Accounted d a → a.waits = true → Rounds d [a] d.decode.1
  | next {d d' : Decoder} {a : Account} {as : List Account} :
      Accounted d a → a.waits = false → Rounds d.decode.1 as d' → Rounds d (a :: as) d'

theorem Feeds.rounds {d d' : Decoder} {k : Nat} {msgs : List Message} {errs : List Fault}
    (run : Feeds d k d' msgs errs) (valid : Valid d) : ∃ as, Rounds d as d' := by
  induction run with
  | waits failed waits =>
    obtain ⟨a, accounted⟩ := valid.accounted
    have result := accounted.result
    rw [failed] at result
    exact ⟨[a], .last accounted (by simp [Account.waits, ← result, waits])⟩
  | message read _ ih =>
    obtain ⟨a, accounted⟩ := valid.accounted
    have result := accounted.result
    rw [read] at result
    obtain ⟨as, rounds⟩ := ih valid.decode.valid
    exact ⟨a :: as, .next accounted (by simp [Account.waits, ← result]) rounds⟩
  | drops failed hard _ ih =>
    obtain ⟨a, accounted⟩ := valid.accounted
    have result := accounted.result
    rw [failed] at result
    obtain ⟨as, rounds⟩ := ih valid.decode.valid
    exact ⟨a :: as, .next accounted (by simp [Account.waits, ← result, hard]) rounds⟩

/-- A call on a decoder. -/
inductive Call where
  | write (p : Bytes)
  | decode
  | feed (p : Bytes)
  | reset

namespace Call

/-- The decoder after the call. -/
def apply : Call → Decoder → Decoder
  | .write p, d => d.write p
  | .decode, d => d.decode.1
  | .feed p, d => (d.feed p).1
  | .reset, d => d.reset

/-- The octets the call writes. -/
def input : Call → Bytes
  | .write p => p
  | .feed p => p
  | _ => []

end Call

/-- The decoder after a run of calls. -/
def runCalls (d : Decoder) : List Call → Decoder
  | [] => d
  | c :: cs => runCalls (c.apply d) cs

/-- What a call did with octets: a write added them, a decode (of a decode call or a feed)
went as its account tells, or a reset discarded the buffer. -/
inductive Event where
  | wrote (p : Bytes)
  | decoded (a : Account)
  | discarded (buf : Bytes)

namespace Event

/-- The octets that left the buffer in the event. -/
def output : Event → Bytes
  | .wrote _ => []
  | .decoded a => a.skipped ++ a.taken
  | .discarded b => b

def account? : Event → Option Account
  | .decoded a => some a
  | _ => none

def discarded? : Event → Option Bytes
  | .discarded b => some b
  | _ => none

end Event

/-- The events of a run of calls from `d`: a write adds its octets, a decode goes as its
account tells, a feed adds its octets and then goes through its rounds of decodes, and a reset
discards the buffer. -/
inductive Transcript : Decoder → List Call → List Event → Prop
  | nil (d : Decoder) : Transcript d [] []
  | write {d : Decoder} {p : Bytes} {calls : List Call} {events : List Event} :
      Transcript (d.write p) calls events → Transcript d (.write p :: calls) (.wrote p :: events)
  | decode {d : Decoder} {a : Account} {calls : List Call} {events : List Event} :
      Accounted d a → Transcript d.decode.1 calls events →
      Transcript d (.decode :: calls) (.decoded a :: events)
  | feed {d : Decoder} {p : Bytes} {as : List Account} {calls : List Call} {events : List Event} :
      Rounds (d.write p) as (d.feed p).1 → Transcript (d.feed p).1 calls events →
      Transcript d (.feed p :: calls) (.wrote p :: as.map .decoded ++ events)
  | reset {d : Decoder} {calls : List Call} {events : List Event} :
      Transcript d.reset calls events → Transcript d (.reset :: calls) (.discarded d.buf :: events)

/-- Every run of calls from a valid decoder has its transcript. -/
theorem exists_transcript (calls : List Call) :
    ∀ {d : Decoder}, Valid d → ∃ events, Transcript d calls events := by
  induction calls with
  | nil => exact fun {d} _ => ⟨[], .nil d⟩
  | cons call calls ih =>
    intro d valid
    cases call with
    | write p =>
      obtain ⟨events, rest⟩ := ih (valid.write p)
      exact ⟨_, .write rest⟩
    | decode =>
      obtain ⟨a, accounted⟩ := valid.accounted
      obtain ⟨events, rest⟩ := ih valid.decode.valid
      exact ⟨_, .decode accounted rest⟩
    | feed p =>
      have written := valid.write p
      obtain ⟨k, ms, es, -, run, -⟩ :=
        feedGo_feeds ((d.write p).buf.length + 1) (d.write p) [] [] written (by simp [buffered])
      rw [← show (d.feed p).1 = (feed.go ((d.write p).buf.length + 1) (d.write p) [] []).1 by
        rw [feed_eq]] at run
      obtain ⟨as, rounds⟩ := run.rounds written
      obtain ⟨events, rest⟩ := ih (valid.feed p)
      exact ⟨_, .feed rounds rest⟩
    | reset =>
      obtain ⟨events, rest⟩ := ih (Valid.reset d)
      exact ⟨_, .reset rest⟩

theorem gated_append (keep : Bool) (l₁ l₂ : List Log.Record) :
    ((if keep then l₁ else []) ++ if keep then l₂ else []) = if keep then l₁ ++ l₂ else [] := by
  cases keep <;> simp

section Books

variable {d d' : Decoder} {as : List Account} {calls : List Call} {events : List Event}

theorem Rounds.sameOpts (rounds : Rounds d as d') : d'.opts = d.opts := by
  induction rounds with
  | last accounted _ => exact accounted.sameOpts
  | next accounted _ _ ih => exact ih.trans accounted.sameOpts

theorem Rounds.split (rounds : Rounds d as d') :
    d.buf = as.flatMap (fun a => a.skipped ++ a.taken) ++ d'.buf := by
  induction rounds with
  | last accounted _ => simpa using accounted.split
  | next accounted _ _ ih => rw [accounted.split, ih]; simp

theorem Rounds.waits (rounds : Rounds d as d') : ∀ a ∈ as, a.waits = true → a.taken = [] := by
  induction rounds with
  | last accounted _ => simpa using accounted.waits
  | next accounted _ _ ih =>
    intro a member
    rcases List.mem_cons.1 member with rfl | later
    · exact accounted.waits
    · exact ih a later

theorem Rounds.adds (rounds : Rounds d as d') :
    Adds d d' (as.map fun a => a.skipped.length).sum (as.flatMap Account.handed)
      (as.flatMap Account.failed) (if d.opts.keeps .warn then as.flatMap Account.logged else []) := by
  induction rounds with
  | last accounted _ => simpa using accounted.adds
  | next accounted _ _ ih =>
    have both := accounted.adds.trans ih
    rw [accounted.sameOpts, gated_append] at both
    simpa using both

/-- The decodes of a run, in order. -/
def decodes (events : List Event) : List Account := events.filterMap Event.account?

/-- The octets the resets of a run discarded, reset by reset. -/
def discards (events : List Event) : List Bytes := events.filterMap Event.discarded?

section Events

variable {p buf : Bytes} {a : Account} {es es' : List Event}

@[simp] theorem decodes_nil : decodes [] = [] := rfl
@[simp] theorem decodes_wrote : decodes (.wrote p :: es) = decodes es := rfl
@[simp] theorem decodes_decoded : decodes (.decoded a :: es) = a :: decodes es := rfl
@[simp] theorem decodes_discarded : decodes (.discarded buf :: es) = decodes es := rfl
@[simp] theorem decodes_append : decodes (es ++ es') = decodes es ++ decodes es' :=
  List.filterMap_append
@[simp] theorem decodes_map_decoded (as : List Account) : decodes (as.map .decoded) = as := by
  induction as <;> simp_all

@[simp] theorem discards_nil : discards [] = [] := rfl
@[simp] theorem discards_wrote : discards (.wrote p :: es) = discards es := rfl
@[simp] theorem discards_decoded : discards (.decoded a :: es) = discards es := rfl
@[simp] theorem discards_discarded : discards (.discarded buf :: es) = buf :: discards es := rfl
@[simp] theorem discards_append : discards (es ++ es') = discards es ++ discards es' :=
  List.filterMap_append
@[simp] theorem discards_map_decoded (as : List Account) : discards (as.map .decoded) = [] := by
  induction as <;> simp_all

end Events

theorem length_output (events : List Event) :
    (events.flatMap Event.output).length =
      ((decodes events).map fun a => a.skipped.length + a.taken.length).sum +
      ((discards events).map List.length).sum := by
  induction events with
  | nil => rfl
  | cons event events ih =>
    cases event <;> simp [Event.output, ih] <;> omega

theorem sum_taken {as : List Account} (waiting : ∀ a ∈ as, a.waits = true → a.taken = []) :
    (as.map fun a => a.skipped.length + a.taken.length).sum =
      (as.map fun a => a.skipped.length).sum + (as.map Account.framedOctets).sum +
      (as.map Account.droppedOctets).sum := by
  induction as with
  | nil => rfl
  | cons a as ih =>
    have split := Account.taken_length (waiting a (by simp))
    have rest := ih fun b member => waiting b (by simp [member])
    simp only [List.map_cons, List.sum_cons]
    omega

namespace Transcript

/-- Octets leave the buffer in the order they were written: the input of a run, after what
was buffered, is what left the buffer followed by what is buffered at the end. -/
theorem flow (run : Transcript d calls events) :
    d.buf ++ calls.flatMap Call.input = events.flatMap Event.output ++ (runCalls d calls).buf := by
  induction run with
  | nil d => simp [runCalls]
  | @write d p calls events _ ih =>
    simp only [Call.input, Event.output, runCalls, Call.apply, List.flatMap_cons, List.nil_append]
    rw [← ih]
    simp [Decoder.write]
  | @decode d a calls events accounted _ ih =>
    simp only [Call.input, Event.output, runCalls, Call.apply, List.flatMap_cons, List.nil_append]
    rw [accounted.split, List.append_assoc, List.append_assoc, ih]
    simp
  | @feed d p as calls events rounds _ ih =>
    simp only [Call.input, Event.output, runCalls, Call.apply, List.flatMap_cons, List.nil_append,
      List.flatMap_append]
    rw [← List.append_assoc, show d.buf ++ p = (d.write p).buf from rfl, rounds.split,
      List.append_assoc, ih]
    simp [List.flatMap_map, Event.output]
  | @reset d calls events _ ih =>
    simp only [Call.input, Event.output, runCalls, Call.apply, List.flatMap_cons, List.nil_append]
    rw [List.append_assoc, ← ih]
    simp [Decoder.reset]

theorem waits (run : Transcript d calls events) :
    ∀ a ∈ decodes events, a.waits = true → a.taken = [] := by
  induction run with
  | nil d => simp
  | write _ ih => simpa using ih
  | decode accounted _ ih =>
    intro a member
    rcases List.mem_cons.1 (by simpa using member) with rfl | later
    · exact accounted.waits
    · exact ih a later
  | feed rounds _ ih =>
    intro a member
    rcases List.mem_append.1 (by simpa using member) with early | later
    · exact rounds.waits a early
    · exact ih a later
  | reset _ ih => simpa using ih

theorem adds (run : Transcript d calls events) :
    Adds d (runCalls d calls) ((decodes events).map fun a => a.skipped.length).sum
      ((decodes events).flatMap Account.handed) ((decodes events).flatMap Account.failed)
      (if d.opts.keeps .warn then (decodes events).flatMap Account.logged else []) := by
  induction run with
  | nil d => simpa [runCalls] using Adds.refl d
  | @write d p calls events _ ih =>
    -- the gate is rewritten with `rw`, which also rewrites the decision inside it
    rw [write_opts] at ih
    have both := (Adds.of_same rfl rfl : Adds d (d.write p) 0 [] [] []).trans ih
    simpa [runCalls, Call.apply] using both
  | @decode d a calls events accounted _ ih =>
    rw [accounted.sameOpts] at ih
    have both := accounted.adds.trans ih
    rw [gated_append] at both
    simpa [runCalls, Call.apply] using both
  | @feed d p as calls events rounds _ ih =>
    have gathered := rounds.adds
    rw [rounds.sameOpts, write_opts] at ih
    rw [write_opts] at gathered
    have both := ((Adds.of_same rfl rfl : Adds d (d.write p) 0 [] [] []).trans gathered).trans ih
    simp only [List.nil_append, Nat.zero_add] at both
    rw [gated_append] at both
    simpa [runCalls, Call.apply] using both
  | @reset d calls events _ ih =>
    rw [reset_opts] at ih
    have both := (Adds.of_same rfl rfl : Adds d d.reset 0 [] [] []).trans ih
    simpa [runCalls, Call.apply] using both

end Transcript

end Books

/-- The books of a decoder balance over every run of write, decode, feed and reset calls from
a fresh decoder. The counters count the messages handed out, by kind, and the frames dropped,
by the reason of their failure. Every octet written was skipped as a keep-alive, consumed by a
frame handed out (with the rest of its datagram) or by a frame dropped, discarded by a reset,
or is still buffered. And when the log keeps warnings, it holds one frame-dropped record per
dropped frame, in order, showing exactly the octets that drop consumed; a log that keeps only
errors holds none. -/
theorem decoder_books_balance (opts : DecoderOptions) (calls : List Call) :
    ∃ events, Transcript (Decoder.new opts) calls events ∧
      let d := runCalls (Decoder.new opts) calls
      d.metrics.requests =
        (((decodes events).flatMap Account.handed).filter Message.isRequest).length ∧
      d.metrics.responses =
        (((decodes events).flatMap Account.handed).filter fun m => !m.isRequest).length ∧
      (∀ r, d.metrics.count r =
        (((decodes events).flatMap Account.failed).filter fun e => e.reason == r).length) ∧
      (calls.flatMap Call.input).length = d.metrics.keepAliveBytes +
        ((decodes events).map Account.framedOctets).sum +
        ((decodes events).map Account.droppedOctets).sum +
        ((discards events).map List.length).sum + d.buffered ∧
      droppedRecords d.records =
        if opts.keeps .warn then (decodes events).flatMap Account.logged else [] := by
  have fresh : Valid (Decoder.new opts) := .of_idle rfl rfl rfl
  obtain ⟨events, run⟩ := exists_transcript calls fresh
  refine ⟨events, run, ?_⟩
  dsimp only
  have books := run.adds
  rw [show (Decoder.new opts).opts = opts from rfl] at books
  have flow := congrArg List.length run.flow
  have taken := sum_taken run.waits
  have empty : (Decoder.new opts).metrics = .empty := rfl
  refine ⟨?_, ?_, fun r => ?_, ?_, ?_⟩
  · simpa [empty, DecoderMetrics.empty] using books.requests
  · simpa [empty, DecoderMetrics.empty] using books.responses
  · simpa [empty, DecoderMetrics.empty, DecoderMetrics.count] using books.errors r
  · -- every octet written left the buffer in some event or is still there
    have start : (Decoder.new opts).buf = [] := rfl
    simp only [List.length_append, length_output, taken, start, List.length_nil] at flow
    simp only [buffered, books.keepAlive, empty, DecoderMetrics.empty]
    omega
  · have records := books.records
    rw [show (Decoder.new opts).records = [] from rfl] at records
    simpa [droppedRecords] using records

/-- A log that keeps only errors misses dropped frames: a datagram of garbage is dropped and
counted under its reason, and no record of the drop is kept. -/
theorem error_log_misses_dropped_frame :
    let d := ((Decoder.new (DecoderOptions.make false 0 (some .error))).feed
      (lit "garbage\r\n\r\n")).1
    d.metrics.count "tokenize" = 1 ∧ d.buffered = 0 ∧ droppedRecords d.records = [] := by
  decide +kernel

end Decoder

end SipCodec
