import SipCodec.Message.Decoder

/-! Only cutting a head can report missing input; reading a cut head and its Content-Length fail,
when they fail, for another reason. -/

namespace SipCodec

namespace Outcome

variable {α β : Type}

@[simp] theorem ok_bind (a : α) (f : α → Outcome β) : (Except.ok a : Outcome α) >>= f = f a := rfl

@[simp] theorem error_bind (e : Fault) (f : α → Outcome β) :
    (Except.error e : Outcome α) >>= f = .error e := rfl

@[simp] theorem throw_eq (e : Fault) : (throw e : Outcome α) = .error e := rfl

@[simp] theorem pure_eq (a : α) : (pure a : Outcome α) = .ok a := rfl

end Outcome

/-- An outcome whose failure, if any, does not ask for more input. -/
def Hard {α : Type} (r : Outcome α) : Prop := ∀ e, r = .error e → e.isIncomplete = false

namespace Hard

variable {α β : Type}

theorem ok (a : α) : Hard (.ok a : Outcome α) := by
  intro e failed
  cases failed

theorem error {e : Fault} (hard : e.isIncomplete = false) : Hard (.error e : Outcome α) := by
  intro e' failed
  cases failed
  exact hard

theorem bind {x : Outcome α} {f : α → Outcome β} (first : Hard x) (next : ∀ a, Hard (f a)) :
    Hard (x >>= f) := by
  intro e failed
  cases x with
  | error e' =>
    cases failed
    exact first e rfl
  | ok a => exact next a e failed

theorem pure (a : α) : Hard (pure a : Outcome α) := ok a

theorem throw_bind {e : Fault} (hard : e.isIncomplete = false) (f : α → Outcome β) :
    Hard (throw e >>= f) :=
  error hard

theorem map {x : Outcome α} (hard : Hard x) (f : α → β) : Hard (f <$> x) := by
  intro e failed
  cases x with
  | error e' =>
    cases failed
    exact hard e rfl
  | ok a => cases failed

theorem mapM {f : α → Outcome β} (each : ∀ a, Hard (f a)) (xs : List α) : Hard (xs.mapM f) := by
  induction xs with
  | nil => exact ok _
  | cons x xs ih =>
    rw [List.mapM_cons]
    exact bind (each x) fun b => bind ih fun bs => ok _

end Hard

theorem Numeral.decimal_hard (bits : Nat) (s : Bytes) : Hard (Numeral.decimal bits s) := by
  unfold Numeral.decimal
  split
  · exact Hard.ok _
  · exact Hard.error (by rfl)

theorem Scan.value_hard {α β : Type} (s : Bytes) (cut : Scan.Cut α) (read : α → Outcome β)
    (cuts : ∀ t, Hard (cut t)) (reads : ∀ a, Hard (read a)) : Hard (Scan.value s cut read) := by
  unfold Scan.value
  refine Hard.bind (cuts _) fun ⟨rest, tok⟩ => ?_
  dsimp only
  split
  · exact Hard.error (by rfl)
  · exact reads tok

theorem Scan.parseUint32_hard (s : Bytes) : Hard (Scan.parseUint32 s) := by
  refine Scan.value_hard s _ _ (fun t => ?_) (Numeral.decimal_hard 32)
  unfold Scan.number
  dsimp only
  split
  · exact Hard.error (by rfl)
  · exact Hard.ok _

theorem Header.ofLine_hard (tok : Header.LineToken) : Hard (Header.ofLine tok) := by
  unfold Header.ofLine
  split
  · exact Hard.error (by rfl)
  · exact Hard.ok _

theorem Decoder.canonic_contentLength :
    HeaderName.canonic (lit "Content-Length") = lit "Content-Length" := by
  decide +kernel

theorem Decoder.isKnown_contentLength : HeaderName.isKnown (lit "Content-Length") = true := by
  decide +kernel

/-- A line the decoder picks by the name Content-Length reads as a known field of that name,
which its class types as a length. -/
theorem Decoder.typed?_of_contentLength {l : Header.LineToken} {h : Header}
    (named : (HeaderName.canonic l.name == lit "Content-Length") = true)
    (read : Header.ofLine l = .ok h) :
    h.typed? = some (TypedHeader.contentLength <$> Scan.parseUint32 h.value) := by
  have canonical : HeaderName.canonic l.name = lit "Content-Length" := by simpa using named
  have text : Bytes.asciiText (lit "Content-Length") = "Content-Length" := by decide +kernel
  unfold Header.ofLine at read
  split at read
  · cases read
  · cases read
    simp only [Header.typed?, Header.make, canonical, Decoder.isKnown_contentLength, if_true,
      Header.isKnown, text]
    rfl

theorem Decoder.contentLength_hard (lines : List Header.LineToken) :
    Hard (Decoder.contentLength lines) := by
  unfold Decoder.contentLength
  split
  · exact Hard.ok _
  · rename_i l found
    cases read : Header.ofLine l with
    | error e => exact Hard.error (Header.ofLine_hard l e read)
    | ok h =>
      have named := List.find?_some found
      simp only [Outcome.ok_bind, Decoder.typed?_of_contentLength named read]
      cases conv : Scan.parseUint32 h.value with
      | error e => exact Hard.error (Scan.parseUint32_hard h.value e conv)
      | ok n => exact Hard.ok _

theorem Method.ofToken_hard (tok : Bytes) : Hard (Method.ofToken tok) := by
  unfold Method.ofToken
  split
  · exact Hard.error (by rfl)
  · split <;> exact Hard.ok _

theorem Version.ofToken_hard (t : Version.Token) : Hard (Version.ofToken t) :=
  Hard.bind (Numeral.decimal_hard 8 _) fun _ => Hard.bind (Numeral.decimal_hard 8 _) fun _ => Hard.ok _

theorem Status.ofToken_hard (tok : Bytes) : Hard (Status.ofToken tok) := by
  refine Hard.bind (Numeral.decimal_hard 16 tok) fun code => ?_
  split
  · exact Hard.error (by rfl)
  · exact Hard.ok _

theorem Scheme.ofToken_hard (tok : Bytes) : Hard (Scheme.ofToken tok) := by
  unfold Scheme.ofToken
  split
  · exact Hard.ok _
  · exact Hard.error (by rfl)

theorem Userinfo.unescape_hard (s : Bytes) : Hard (Userinfo.unescape s) := by
  unfold Userinfo.unescape Percent.decodeStrict
  split
  · exact Hard.ok _
  · rename_i f failed
    split at failed
    · cases failed
    · cases failed
      unfold Fault.wrapIn
      split <;> exact Hard.error (by rfl)

theorem Userinfo.ofToken_hard (tok : Userinfo.Token) : Hard (Userinfo.ofToken tok) := by
  refine Hard.bind (Userinfo.unescape_hard _) fun user => ?_
  split
  · exact Hard.ok _
  · exact Hard.bind (Userinfo.unescape_hard _) fun _ => Hard.ok _

theorem HostPort.ofToken_hard (tok : HostPort.Token) : Hard (HostPort.ofToken tok) := by
  simp only [HostPort.ofToken]
  split
  · exact Hard.throw_bind (by rfl) _
  · split
    · exact Hard.throw_bind (by rfl) _
    · split
      · exact Hard.pure _
      · exact Hard.bind (Numeral.decimal_hard 16 _) fun _ => Hard.pure _

theorem Param.checkValue_hard (k : ParamKind) (v : Bytes) : Hard (Param.checkValue k v) := by
  have bad : ∀ t, Hard (.error (.detail .parse t) : Outcome Unit) := fun t => Hard.error rfl
  unfold Param.checkValue
  repeat' split
  all_goals first | exact Hard.ok _ | exact bad _

theorem Param.ofToken_hard (tok : Param.Token) : Hard (Param.ofToken tok) := by
  refine Hard.bind (Userinfo.unescape_hard _) fun name => ?_
  dsimp only
  split
  · exact Hard.ok _
  · split
    · split
      · exact Hard.ok _
      · exact Hard.error (by rfl)
    · exact Hard.bind (Userinfo.unescape_hard _) fun v =>
        Hard.bind (Param.checkValue_hard _ v) fun _ => Hard.ok _

theorem Uri.ofToken_hard (tok : Uri.Token) : Hard (Uri.ofToken tok) := by
  rcases scheme : tok.scheme with _ | s <;> rcases userinfo : tok.userinfo with _ | a <;>
    rcases hostPort : tok.hostPort with _ | hp <;>
    simp only [Uri.ofToken, scheme, userinfo, hostPort] <;>
    refine Hard.bind ?_ fun _ => Hard.bind ?_ fun _ => Hard.bind ?_ fun _ => ?_ <;>
    first
      | exact Hard.map (Scheme.ofToken_hard _) _
      | exact Hard.map (Userinfo.ofToken_hard _) _
      | exact HostPort.ofToken_hard _
      | exact Hard.pure _
      | split
        · exact Hard.throw_bind (by rfl) _
        · exact Hard.bind (Hard.mapM Param.ofToken_hard _) fun _ => Hard.pure _

theorem StartLine.ofToken_hard (t : StartLine.Token) : Hard (StartLine.ofToken t) := by
  cases t with
  | request t =>
    exact Hard.bind (Method.ofToken_hard _) fun _ => Hard.bind (Uri.ofToken_hard _) fun _ =>
      Hard.bind (Version.ofToken_hard _) fun _ => Hard.ok _
  | status t =>
    refine Hard.bind (Version.ofToken_hard _) fun _ => Hard.bind (Status.ofToken_hard _) fun _ => ?_
    split
    · exact Hard.error (by rfl)
    · exact Hard.ok _

theorem Message.ofToken_hard (t : Message.Token) : Hard (Message.ofToken t) := by
  unfold Message.ofToken
  split
  · exact Hard.bind (StartLine.ofToken_hard _) fun _ =>
      Hard.bind (Hard.mapM Header.ofLine_hard _) fun _ => Hard.ok _
  · exact Hard.error (by rfl)

theorem Message.parse_hard {f rest : Bytes} {tok : Message.Token}
    (cut : Message.tokenize f = .ok (rest, tok)) : Hard (Message.parse f) := by
  unfold Message.parse
  rw [cut]
  exact Message.ofToken_hard tok

end SipCodec
