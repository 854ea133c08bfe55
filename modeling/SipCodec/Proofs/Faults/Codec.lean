import SipCodec.Proofs.Faults.Typed
import SipCodec.Proofs.Grammar.Lookup
import SipCodec.Proofs.Message.HeadCut

/-! No input drives the codec into an unexpected error: cutting, reading and decoding messages fail
only with the failures they mean to report. -/

namespace SipCodec

/-! ### Header lines -/

theorem Header.lineFault_plain (s : Bytes) : (Header.lineFault s).has .unexpected = false := by
  unfold Header.lineFault
  dsimp only
  split
  · rfl
  · split
    · split <;> rfl
    · rfl

theorem Header.tokenizeLine_expected (s : Bytes) : Expected (Header.tokenizeLine s) := by
  unfold Header.tokenizeLine
  split
  · exact Expected.error rfl
  · split
    · exact Expected.error (Header.lineFault_plain s)
    · exact Expected.ok _

theorem Header.ofLine_expected (tok : Header.LineToken) : Expected (Header.ofLine tok) := by
  unfold Header.ofLine
  split
  · exact Expected.error rfl
  · exact Expected.ok _

theorem Header.parse_expected (s : Bytes) : Expected (Header.parse s) := by
  unfold Header.parse
  refine Expected.bind (Header.tokenizeLine_expected _) fun ⟨rest, tok⟩ => ?_
  dsimp -zeta only
  extract_lets finishing
  exact Expected.guard rfl fun _ => Header.ofLine_expected tok

/-! ### Start lines -/

theorem StartLine.cutLine_expected (s : Bytes) : Expected (StartLine.cutLine s) := by
  unfold StartLine.cutLine
  split
  · exact Expected.ok _
  · split <;> exact Expected.error rfl

theorem StartLine.tokenizeRequest_expected (s : Bytes) :
    Expected (StartLine.tokenizeRequest s) := by
  unfold StartLine.tokenizeRequest
  refine Expected.bind (StartLine.cutLine_expected _) fun ⟨_, _⟩ => ?_
  refine Expected.bind (Method.tokenize_expected _) fun ⟨_, _⟩ => ?_
  dsimp only
  split
  · refine Expected.bind (Expected.mapError_wrapIn (Uri.tokenize_expected _) (by decide))
      fun ⟨_, _⟩ => ?_
    dsimp only
    split
    · refine Expected.bind (Version.tokenWith_expected _ _) fun ⟨_, _⟩ => ?_
      dsimp only
      split
      · exact Expected.bind (Expected.throw rfl) fun _ => Expected.pure _
      · exact Expected.pure _
    · exact Expected.throw rfl
  · exact Expected.throw rfl

theorem StartLine.tokenizeStatus_expected (s : Bytes) :
    Expected (StartLine.tokenizeStatus s) := by
  unfold StartLine.tokenizeStatus
  refine Expected.bind (StartLine.cutLine_expected _) fun ⟨_, _⟩ => ?_
  refine Expected.bind (Version.tokenWith_expected _ _) fun ⟨_, _⟩ => ?_
  dsimp only
  split
  · refine Expected.bind (Status.tokenize_expected _) fun ⟨_, _⟩ => ?_
    dsimp only
    split
    · exact Expected.bind (Expected.pure _) fun _ => Expected.pure _
    · split
      · exact Expected.bind (Expected.pure _) fun _ => Expected.pure _
      · exact Expected.bind (Expected.throw rfl) fun _ => Expected.pure _
  · exact Expected.throw rfl

theorem StartLine.ofToken_expected (t : StartLine.Token) : Expected (StartLine.ofToken t) := by
  cases t with
  | request t =>
    exact Expected.bind (Method.ofToken_expected _) fun _ =>
      Expected.bind (Uri.ofToken_expected _) fun _ =>
        Expected.bind (Version.ofToken_expected _) fun _ => Expected.pure _
  | status t =>
    refine Expected.bind (Version.ofToken_expected _) fun _ =>
      Expected.bind (Status.ofToken_expected _) fun _ => ?_
    extract_lets finishing
    exact Expected.guard rfl fun _ => Expected.pure _

/-! ### Messages -/

theorem Message.tokenizeFields_expected (s : Bytes) : Expected (Message.tokenizeFields s) := by
  unfold Message.tokenizeFields
  suffices loop : ∀ fuel rest acc, Expected (Message.tokenizeFields.go fuel rest acc) from
    loop _ _ _
  intro fuel
  induction fuel with
  | zero => exact fun _ _ => Expected.ok _
  | succ fuel ih =>
    intro rest acc
    unfold Message.tokenizeFields.go
    split
    · exact Expected.error rfl
    · exact Expected.error rfl
    · exact Expected.ok _
    · exact Expected.ok _
    · exact Expected.bind (Header.tokenizeLine_expected _) fun ⟨_, _⟩ => ih _ _

theorem Message.tokenizeHead_expected (s : Bytes) : Expected (Message.tokenizeHead s) := by
  unfold Message.tokenizeHead
  extract_lets finishing
  have fields : ∀ x, Expected (finishing x) := by
    rintro ⟨_, _⟩
    exact Expected.bind (Message.tokenizeFields_expected _) fun _ => Expected.pure _
  split
  · exact Expected.bind (Expected.pure _) fields
  · rename_i e status
    split
    · exact Expected.bind (Expected.throw (StartLine.tokenizeStatus_expected s e status)) fields
    · exact Expected.bind (StartLine.tokenizeRequest_expected s) fun ⟨_, _⟩ =>
        Expected.bind (Expected.pure _) fields

theorem Message.tokenize_expected (s : Bytes) : Expected (Message.tokenize s) :=
  Expected.bind (Message.tokenizeHead_expected _) fun _ => Expected.pure _

theorem Message.tokenize_start {s rest : Bytes} {tok : Message.Token}
    (cut : Message.tokenize s = .ok (rest, tok)) : tok.start.isSome := by
  unfold Message.tokenize at cut
  cases head : Message.tokenizeHead (Message.skipEmptyLines s) with
  | error e =>
    rw [head] at cut
    cases cut
  | ok p =>
    obtain ⟨after, headTok⟩ := p
    rw [head] at cut
    cases cut
    obtain ⟨r, start, fields, -, -, rfl⟩ := Message.tokenizeHead_eq_ok_iff.1 head
    rfl

theorem Message.ofToken_expected {t : Message.Token} (started : t.start.isSome) :
    Expected (Message.ofToken t) := by
  unfold Message.ofToken
  split
  · exact Expected.bind (StartLine.ofToken_expected _) fun _ =>
      Expected.bind (Expected.mapM Header.ofLine_expected _) fun _ => Expected.pure _
  · rename_i missing
    obtain ⟨st, present⟩ := Option.isSome_iff_exists.1 started
    exact (missing st present).elim

theorem Message.parse_expected (s : Bytes) : Expected (Message.parse s) := by
  unfold Message.parse
  refine Expected.bindOk (Message.tokenize_expected s) fun ⟨rest, tok⟩ cut => ?_
  exact Message.ofToken_expected (Message.tokenize_start cut)

/-! ### The decoder -/

theorem Decoder.contentLength_expected (lines : List Header.LineToken) :
    Expected (Decoder.contentLength lines) := by
  unfold Decoder.contentLength
  split
  · exact Expected.ok _
  · rename_i l found
    cases read : Header.ofLine l with
    | error e => exact Expected.error (Header.ofLine_expected l e read)
    | ok h =>
      -- the field's class types it as a length, so the branch for another type is never taken
      have named := List.find?_some found
      simp only [Outcome.ok_bind, Decoder.typed?_of_contentLength named read]
      cases conv : Scan.parseUint32 h.value with
      | error e => exact Expected.error (Scan.parseUint32_expected h.value e conv)
      | ok n => exact Expected.ok _

theorem Decoder.frameSize_expected (d : Decoder) : Expected d.frameSize := by
  unfold Decoder.frameSize
  extract_lets max
  split
  · rename_i e cut
    have plain := Message.tokenizeHead_expected d.buf e cut
    extract_lets incomplete checkStream checkSize
    refine Expected.guard plain fun _ => ?_
    unfold checkSize
    refine Expected.guard rfl fun _ => ?_
    unfold checkStream
    exact Expected.guard rfl fun _ => Expected.throw plain
  · extract_lets headLen checkSize
    have checking : ∀ b, Expected (checkSize b) := by
      intro b
      unfold checkSize
      extract_lets framed
      exact Expected.guard rfl fun _ => Expected.pure _
    refine Expected.bind (Decoder.contentLength_expected _) fun length => ?_
    split
    · exact Expected.bind (Expected.pure _) checking
    · split
      · exact Expected.bind (Expected.throw rfl) checking
      · exact Expected.bind (Expected.pure _) checking

theorem Decoder.drop_expected (d : Decoder) {e : Fault} (plain : e.has .unexpected = false)
    (n : Nat) : Expected (d.drop e n).2 :=
  Expected.error plain

theorem Decoder.decodeBody_expected (d : Decoder) : Expected d.decodeBody.2 := by
  unfold Decoder.decodeBody
  extract_lets size
  split
  · split
    · exact Expected.error rfl
    · exact d.drop_expected rfl _
  · split
    · exact Expected.ok _
    · rename_i e failed
      exact d.drop_expected (Message.parse_expected _ e failed) _

theorem Decoder.decodeHead_expected (d : Decoder) : Expected d.decodeHead.2 := by
  unfold Decoder.decodeHead
  split
  · rename_i e failed
    have plain := d.frameSize_expected e failed
    split
    · exact Expected.error plain
    · exact d.drop_expected plain _
  · exact Decoder.decodeBody_expected _

theorem Decoder.decodeIdle_expected (d : Decoder) : Expected d.decodeIdle.2 := by
  unfold Decoder.decodeIdle
  extract_lets n skipped
  split
  · exact Expected.error rfl
  · exact Decoder.decodeHead_expected _

theorem Decoder.decode_expected (d : Decoder) : Expected d.decode.2 := by
  unfold Decoder.decode
  split
  · exact d.decodeIdle_expected
  · exact d.decodeHead_expected
  · exact d.decodeBody_expected

theorem Fault.anyHas_eq_false {k : Kind} {fs : List Fault} (each : ∀ f ∈ fs, f.has k = false) :
    Fault.anyHas k fs = false := by
  induction fs with
  | nil => rfl
  | cons f fs ih =>
    rw [Fault.anyHas, each f List.mem_cons_self,
      ih fun g member => each g (List.mem_cons_of_mem f member)]
    rfl

theorem Fault.join_has_eq_false {k : Kind} {fs : List Fault} (each : ∀ f ∈ fs, f.has k = false)
    {joined : Fault} (join : Fault.join fs = some joined) : joined.has k = false := by
  match fs, join with
  | [f], rfl => exact each f List.mem_cons_self
  | f :: g :: more, rfl => exact Fault.anyHas_eq_false each

theorem Decoder.feed_go_plain (fuel : Nat) (d : Decoder) (msgs : List Message) (errs : List Fault)
    (each : ∀ e ∈ errs, e.has .unexpected = false) :
    ∀ e ∈ (Decoder.feed.go fuel d msgs errs).2.2, e.has .unexpected = false := by
  -- each round adds the failure of one decode, which is plain whatever the decoder's state
  induction fuel generalizing d msgs errs with
  | zero => simpa [Decoder.feed.go] using each
  | succ fuel ih =>
    unfold Decoder.feed.go
    split
    · exact ih _ _ _ each
    · rename_i d' e decoded
      have plain : e.has .unexpected = false := d.decode_expected e (by rw [decoded])
      split
      · simpa using each
      · refine ih _ _ _ fun f member => ?_
        rcases List.mem_cons.1 member with rfl | earlier
        · exact plain
        · exact each f earlier

/-- Feeding octets reports, if anything, a plain failure. -/
theorem Decoder.feed_expected (d : Decoder) (p : Bytes) {f : Fault}
    (failed : (d.feed p).2.2 = some f) : f.has .unexpected = false := by
  unfold Decoder.feed at failed
  exact Fault.join_has_eq_false (Decoder.feed_go_plain _ _ _ _ fun _ none => by cases none) failed

/-! ### The codec as a whole -/

/-- The codec never fails unexpectedly. Every node that a reader requires of a grammar match is
in it, also the host and the user that are looked up inside a server's parts; cutting and reading
messages, header lines, URIs and the typed header values fail only with plain failures; and a
decoder, in whatever state, reports only plain failures when it decodes or is fed. -/
theorem codec_never_unexpected :
    (Grammar.Finds Grammar.messageHeader "header-name" ∧ Grammar.Finds Grammar.uriHeader "hname" ∧
      Grammar.Finds Grammar.uriParameter "pname" ∧ Grammar.Finds Grammar.genericParam "gen-name" ∧
      Grammar.Finds Grammar.userinfo "user" ∧ Grammar.Finds Grammar.hostport "host" ∧
      Grammar.Finds Grammar.server "hostport" ∧
      Grammar.Finds Grammar.sipVersion "major" ∧ Grammar.Finds Grammar.sipVersion "minor" ∧
      Grammar.Finds Grammar.sentVersion "major" ∧ Grammar.Finds Grammar.sentVersion "minor") ∧
    (∀ s n, Grammar.matchRule Grammar.server s = .ok n →
      ∃ m, n.find? "hostport" = some m ∧ (m.find? "host").isSome) ∧
    (∀ s n m, Grammar.matchRule Grammar.server s = .ok n → n.find? "userinfo" = some m →
      (m.find? "user").isSome) ∧
    (∀ s, Expected (Message.tokenize s) ∧ Expected (Message.tokenizeHead s) ∧
      Expected (Message.parse s) ∧ Expected (Header.parse s) ∧ Expected (Uri.parse s)) ∧
    (∀ name s r, TypedHeader.parse? name s = some r → Expected r) ∧
    (∀ d : Decoder, Expected d.decode.2) ∧
    (∀ (d : Decoder) p f, (d.feed p).2.2 = some f → f.has .unexpected = false) := by
  refine ⟨⟨Grammar.messageHeader_finds_name, Grammar.uriHeader_finds_name,
      Grammar.uriParameter_finds_name, Grammar.genericParam_finds_name,
      Grammar.userinfo_finds_user, Grammar.hostport_finds_host, Grammar.server_finds_hostport,
      Grammar.sipVersion_finds_digits.1, Grammar.sipVersion_finds_digits.2,
      Grammar.sentVersion_finds_digits.1, Grammar.sentVersion_finds_digits.2⟩,
    fun _ _ matched => Grammar.server_finds_host matched,
    fun _ _ _ matched found => Grammar.server_userinfo_finds_user matched found,
    fun s => ⟨Message.tokenize_expected s, Message.tokenizeHead_expected s,
      Message.parse_expected s, Header.parse_expected s, Uri.parse_expected s⟩,
    fun _ _ _ read => TypedHeader.parse?_expected read,
    Decoder.decode_expected, fun d p _ failed => Decoder.feed_expected d p failed⟩

/-- The statement above on concrete inputs: a server `a:b@h:5` with a user and a port, the
`Content-Length` value `42`, and a stream that starts with a line that is no start line. -/
theorem codec_never_unexpected_on_samples :
    (∃ n, Grammar.matchRule Grammar.server [97, 58, 98, 64, 104, 58, 53] = .ok n ∧
      (∃ m, n.find? "hostport" = some m ∧ (m.find? "host").isSome) ∧
      ∃ m, n.find? "userinfo" = some m ∧ (m.find? "user").isSome) ∧
    Expected (TypedHeader.contentLength <$> Scan.parseUint32 [52, 50]) ∧
    ∃ f, ((Decoder.new ⟨true, 100, none⟩).feed [120, 13, 10, 13, 10]).2.2 = some f ∧
      f.has .unexpected = false := by
  have facts : (Grammar.matchRule Grammar.server [97, 58, 98, 64, 104, 58, 53]).isOk = true ∧
      ((Grammar.matchRule Grammar.server [97, 58, 98, 64, 104, 58, 53]).toOption.bind
        (·.find? "userinfo")).isSome = true ∧
      ((Decoder.new ⟨true, 100, none⟩).feed [120, 13, 10, 13, 10]).2.2.isSome = true := by
    decide +kernel
  obtain ⟨serverOk, userPresent, fed⟩ := facts
  cases matched : Grammar.matchRule Grammar.server [97, 58, 98, 64, 104, 58, 53] with
  | error e =>
    rw [matched] at serverOk
    cases serverOk
  | ok n =>
    rw [matched] at userPresent
    obtain ⟨m, found⟩ := Option.isSome_iff_exists.1 userPresent
    obtain ⟨f, failed⟩ := Option.isSome_iff_exists.1 fed
    have never := codec_never_unexpected
    exact ⟨⟨n, rfl, never.2.1 _ n matched, m, found, never.2.2.1 _ n m matched found⟩,
      never.2.2.2.2.1 "Content-Length" [52, 50] _ rfl, f, failed,
      never.2.2.2.2.2.2 _ _ f failed⟩

end SipCodec
