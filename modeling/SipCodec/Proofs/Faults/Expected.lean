import SipCodec.Proofs.Message.HardFaults

/-! Failures the codec means to report (`Expected`), carried through binds, maps and loops, for the
readers of numbers, scalars and URIs. -/

namespace SipCodec

namespace Fault

theorem wrapIn_plain {k : Kind} {c : Fault} (plainKind : k ≠ .unexpected)
    (plain : c.has .unexpected = false) : (wrapIn k c).has .unexpected = false := by
  unfold wrapIn
  split
  · exact plain
  · simp only [has, plain, Bool.or_false]
    cases k <;> first | rfl | exact absurd rfl plainKind

end Fault

/-- An outcome whose failure, if any, is not an unexpected error. -/
def Expected {α : Type} (r : Outcome α) : Prop := ∀ e, r = .error e → e.has .unexpected = false

namespace Expected

variable {α β : Type}

theorem ok (a : α) : Expected (.ok a : Outcome α) := by
  intro e failed
  cases failed

theorem error {e : Fault} (plain : e.has .unexpected = false) : Expected (.error e : Outcome α) := by
  intro e' failed
  cases failed
  exact plain

theorem pure (a : α) : Expected (pure a : Outcome α) := ok a

theorem throw {e : Fault} (plain : e.has .unexpected = false) : Expected (throw e : Outcome α) :=
  error plain

theorem bind {x : Outcome α} {f : α → Outcome β} (first : Expected x) (next : ∀ a, Expected (f a)) :
    Expected (x >>= f) := by
  intro e failed
  cases x with
  | error e' =>
    cases failed
    exact first e rfl
  | ok a => exact next a e failed

theorem bindOk {x : Outcome α} {f : α → Outcome β} (first : Expected x)
    (next : ∀ a, x = .ok a → Expected (f a)) : Expected (x >>= f) := by
  intro e failed
  cases x with
  | error e' =>
    cases failed
    exact first e rfl
  | ok a => exact next a rfl e failed

theorem guard {c : Prop} [Decidable c] {e : Fault} {k : Unit → Outcome α}
    (plain : e.has .unexpected = false) (next : ∀ u, Expected (k u)) :
    Expected (if c then MonadExcept.throw e >>= k else k ()) := by
  split
  · exact bind (throw plain) next
  · exact next ()

theorem map {x : Outcome α} (expected : Expected x) (f : α → β) : Expected (f <$> x) := by
  intro e failed
  cases x with
  | error e' =>
    cases failed
    exact expected e rfl
  | ok a => cases failed

theorem mapM {f : α → Outcome β} (each : ∀ a, Expected (f a)) (xs : List α) :
    Expected (xs.mapM f) := by
  induction xs with
  | nil => exact ok _
  | cons x xs ih =>
    rw [List.mapM_cons]
    exact bind (each x) fun b => bind ih fun bs => ok _

theorem foldlM {f : β → α → Outcome β} (each : ∀ b a, Expected (f b a)) (xs : List α) (init : β) :
    Expected (xs.foldlM f init) := by
  induction xs generalizing init with
  | nil => exact pure _
  | cons x xs ih =>
    rw [List.foldlM_cons]
    exact bind (each init x) ih

theorem mapError_wrapIn {x : Outcome α} (expected : Expected x) {k : Kind}
    (plainKind : k ≠ .unexpected) : Expected (x.mapError (Fault.wrapIn k)) := by
  intro e failed
  cases x with
  | ok a => cases failed
  | error e' =>
    cases failed
    exact Fault.wrapIn_plain plainKind (expected e' rfl)

end Expected

theorem Numeral.decimal_expected (bits : Nat) (s : Bytes) : Expected (Numeral.decimal bits s) := by
  unfold Numeral.decimal
  split
  · exact Expected.ok _
  · exact Expected.error rfl

theorem Userinfo.unescape_expected (s : Bytes) : Expected (Userinfo.unescape s) := by
  unfold Userinfo.unescape Percent.decodeStrict
  split
  · exact Expected.ok _
  · rename_i f failed
    split at failed
    · cases failed
    · cases failed
      exact Expected.error (Fault.wrapIn_plain (by decide) rfl)

/-! ### Scanning -/

namespace Scan

variable {α β : Type}

theorem value_expected (s : Bytes) {cut : Cut α} {read : α → Outcome β}
    (cuts : ∀ t, Expected (cut t)) (reads : ∀ a, Expected (read a)) :
    Expected (value s cut read) := by
  unfold value
  refine Expected.bind (cuts _) fun ⟨rest, tok⟩ => ?_
  dsimp only
  split
  · exact Expected.error rfl
  · exact reads tok

theorem list_expected {item : Cut α} (items : ∀ t, Expected (item t)) (s : Bytes) :
    Expected (list item s) := by
  unfold list
  suffices loop : ∀ fuel rest acc, Expected (list.go item fuel rest acc) from loop _ _ _
  intro fuel
  induction fuel with
  | zero => intro rest acc; exact Expected.ok _
  | succ fuel ih =>
    intro rest acc
    refine Expected.bind (items rest) fun ⟨rest', tok⟩ => ?_
    dsimp only
    split
    · exact ih _ _
    · exact Expected.pure _

theorem optList_expected {item : Cut α} (items : ∀ t, Expected (item t)) (s : Bytes) :
    Expected (optList item s) := by
  unfold optList
  split
  · exact Expected.ok _
  · exact list_expected items s

theorem token_expected (s : Bytes) : Expected (token s) := by
  unfold token
  split
  · exact Expected.ok _
  · exact Expected.error rfl

theorem number_expected (s : Bytes) : Expected (number s) := by
  unfold number
  dsimp only
  split
  · exact Expected.error rfl
  · exact Expected.ok _

theorem parseUint32_expected (s : Bytes) : Expected (parseUint32 s) :=
  value_expected s number_expected (Numeral.decimal_expected 32)

end Scan

/-! ### Scalars -/

theorem Method.tokenize_expected (s : Bytes) : Expected (Method.tokenize s) := by
  unfold Method.tokenize
  split
  · exact Expected.ok _
  · exact Expected.error rfl

theorem Method.ofToken_expected (tok : Bytes) : Expected (Method.ofToken tok) := by
  unfold Method.ofToken
  split
  · exact Expected.error rfl
  · split <;> exact Expected.ok _

theorem Scheme.ofToken_expected (tok : Bytes) : Expected (Scheme.ofToken tok) := by
  unfold Scheme.ofToken
  split
  · exact Expected.ok _
  · exact Expected.error rfl

theorem Status.tokenize_expected (s : Bytes) : Expected (Status.tokenize s) := by
  unfold Status.tokenize
  dsimp only
  split
  all_goals
    split
    · exact Expected.ok _
    · exact Expected.error rfl

theorem Status.ofToken_expected (tok : Bytes) : Expected (Status.ofToken tok) := by
  refine Expected.bind (Numeral.decimal_expected 16 tok) fun code => ?_
  split
  · exact Expected.error rfl
  · exact Expected.ok _

theorem Transport.tokenize_expected (s : Bytes) : Expected (Transport.tokenize s) := by
  unfold Transport.tokenize
  split
  · exact Expected.ok _
  · exact Expected.error rfl

theorem Transport.ofToken_expected (tok : Bytes) : Expected (Transport.ofToken tok) := by
  unfold Transport.ofToken
  split
  · exact Expected.ok _
  · exact Expected.error rfl

theorem Version.tokenWith_expected (rule : Grammar.Rule) (s : Bytes) :
    Expected (Version.tokenWith rule s) := by
  unfold Version.tokenWith
  split
  · exact Expected.error rfl
  · exact Expected.ok _

theorem Version.ofToken_expected (t : Version.Token) : Expected (Version.ofToken t) :=
  Expected.bind (Numeral.decimal_expected 8 _) fun _ =>
    Expected.bind (Numeral.decimal_expected 8 _) fun _ => Expected.ok _

/-! ### URIs -/

theorem Userinfo.ofToken_expected (tok : Userinfo.Token) : Expected (Userinfo.ofToken tok) := by
  refine Expected.bind (Userinfo.unescape_expected _) fun user => ?_
  split
  · exact Expected.ok _
  · exact Expected.bind (Userinfo.unescape_expected _) fun _ => Expected.ok _

theorem HostPort.ofToken_expected (tok : HostPort.Token) : Expected (HostPort.ofToken tok) := by
  simp only [HostPort.ofToken]
  split
  · exact Expected.error rfl
  · split
    · exact Expected.error rfl
    · split
      · exact Expected.pure _
      · exact Expected.bind (Numeral.decimal_expected 16 _) fun _ => Expected.pure _

theorem Param.tokenize_expected (s : Bytes) : Expected (Param.tokenize s) := by
  unfold Param.tokenize
  split
  · exact Expected.error rfl
  · exact Expected.ok _

theorem Param.checkValue_expected (k : ParamKind) (v : Bytes) :
    Expected (Param.checkValue k v) := by
  have bad : ∀ t, Expected (.error (.detail .parse t) : Outcome Unit) := fun t => Expected.error rfl
  unfold Param.checkValue
  repeat' split
  all_goals first | exact Expected.ok _ | exact bad _

theorem Param.ofToken_expected (tok : Param.Token) : Expected (Param.ofToken tok) := by
  refine Expected.bind (Userinfo.unescape_expected _) fun name => ?_
  dsimp only
  split
  · exact Expected.ok _
  · split
    · split
      · exact Expected.ok _
      · exact Expected.error rfl
    · exact Expected.bind (Userinfo.unescape_expected _) fun v =>
        Expected.bind (Param.checkValue_expected _ v) fun _ => Expected.ok _

theorem Params.tokenize_expected (s : Bytes) : Expected (Params.tokenize s) := by
  unfold Params.tokenize
  suffices loop : ∀ fuel rest acc, Expected (Params.tokenize.go fuel rest acc) from loop _ _ _
  intro fuel
  induction fuel with
  | zero => intro rest acc; exact Expected.ok _
  | succ fuel ih =>
    intro rest acc
    unfold Params.tokenize.go
    split
    · exact Expected.ok _
    · exact Expected.bind (Param.tokenize_expected rest) fun _ => ih _ _

theorem Params.tokenizeUri_expected (s : Bytes) : Expected (Params.tokenizeUri s) := by
  unfold Params.tokenizeUri
  suffices loop : ∀ fuel rest acc, Expected (Params.tokenizeUri.go fuel rest acc) from loop _ _ _
  intro fuel
  induction fuel with
  | zero => intro rest acc; exact Expected.ok _
  | succ fuel ih =>
    intro rest acc
    unfold Params.tokenizeUri.go
    split
    · exact Expected.ok _
    · split
      · exact Expected.error rfl
      · exact ih _ _

theorem Params.ofTokens_expected (toks : List Param.Token) : Expected (Params.ofTokens toks) :=
  Expected.mapM Param.ofToken_expected toks

theorem Uri.cutServer_expected (s : Bytes) : Expected (Uri.cutServer s) := by
  unfold Uri.cutServer
  split
  · exact Expected.error rfl
  · dsimp only
    split
    · exact Expected.error rfl
    · exact Expected.ok _

theorem Uri.tokenizeHeaders_expected (s : Bytes) : Expected (Uri.tokenizeHeaders s) := by
  unfold Uri.tokenizeHeaders
  suffices loop : ∀ fuel rest acc, Expected (Uri.tokenizeHeaders.go fuel rest acc) from
    loop _ _ _
  intro fuel
  induction fuel with
  | zero => intro rest acc; exact Expected.ok _
  | succ fuel ih =>
    intro rest acc
    unfold Uri.tokenizeHeaders.go
    split
    · exact Expected.error rfl
    · dsimp only
      split
      · exact ih _ _
      · exact Expected.ok _

theorem Uri.tokenizeWith_expected (withParams : Bool) (s : Bytes) :
    Expected (Uri.tokenizeWith withParams s) := by
  unfold Uri.tokenizeWith
  -- the scheme is looked for as a pure step; what follows does not depend on how
  split
  rename_i scheme rest _
  extract_lets finish afterServer
  have finishing : ∀ parts, Expected (finish parts) := by
    rintro ⟨userinfo, hostPort, path, rest⟩
    dsimp only [finish]
    split
    · exact Expected.pure _
    · refine Expected.bind (Params.tokenizeUri_expected rest) fun ⟨rest, params⟩ => ?_
      dsimp only
      split
      · exact Expected.bind (Uri.tokenizeHeaders_expected _) fun _ => Expected.pure _
      · exact Expected.pure _
  have serving : ∀ parts, Expected (afterServer parts) := by
    rintro ⟨userinfo, hostPort, rest⟩
    dsimp only [afterServer]
    split
    · exact Expected.bind (Expected.pure _) finishing
    · exact Expected.bind (Expected.pure _) finishing
  split
  · split
    · exact Expected.bind (Uri.cutServer_expected rest) fun ⟨u, hp, r⟩ =>
        Expected.bind (Expected.pure _) serving
    · exact Expected.bind (Expected.pure _) serving
  · split
    · exact Expected.bind (Expected.pure _) finishing
    · exact Expected.bind (Expected.throw rfl) finishing

theorem Uri.tokenize_expected (s : Bytes) : Expected (Uri.tokenize s) :=
  Uri.tokenizeWith_expected true s

theorem Uri.tokenizeNoParams_expected (s : Bytes) : Expected (Uri.tokenizeNoParams s) :=
  Uri.tokenizeWith_expected false s

theorem Uri.ofToken_expected (tok : Uri.Token) : Expected (Uri.ofToken tok) := by
  unfold Uri.ofToken
  -- scheme, user part and host are read one after another, each only when it is there; each
  -- step goes on at a join point, taken from the innermost out
  extract_lets path headers afterScheme
  have schemeRead : ∀ scheme, Expected (afterScheme scheme) := by
    intro scheme
    dsimp -zeta only [afterScheme]
    extract_lets afterUser
    have userRead : ∀ userinfo, Expected (afterUser userinfo) := by
      intro userinfo
      dsimp -zeta only [afterUser]
      extract_lets afterHost
      have hostRead : ∀ hostPort, Expected (afterHost hostPort) := by
        intro hostPort
        dsimp -zeta only [afterHost]
        extract_lets afterCheck
        have checked : ∀ u, Expected (afterCheck u) := fun _ =>
          Expected.bind (Params.ofTokens_expected _) fun _ => Expected.pure _
        split
        · exact Expected.bind (Expected.throw rfl) checked
        · exact checked ()
      split
      · exact Expected.bind (HostPort.ofToken_expected _) hostRead
      · exact Expected.bind (Expected.pure _) hostRead
    split
    · exact Expected.bind (Expected.map (Userinfo.ofToken_expected _) _) userRead
    · exact Expected.bind (Expected.pure _) userRead
  split
  · exact Expected.bind (Expected.map (Scheme.ofToken_expected _) _) schemeRead
  · exact Expected.bind (Expected.pure _) schemeRead

theorem Uri.parse_expected (s : Bytes) : Expected (Uri.parse s) := by
  unfold Uri.parse
  refine Expected.bind (Uri.tokenize_expected s) fun ⟨rest, tok⟩ => ?_
  dsimp only
  split
  · exact Expected.throw rfl
  · exact Uri.ofToken_expected tok

/-! ### URIs with parameters -/

namespace UriWithParams

theorem tokenize_expected (s : Bytes) : Expected (tokenize s) := by
  unfold tokenize
  extract_lets rest afterUri
  have finishing : ∀ cut, Expected (afterUri cut) := by
    rintro ⟨rest, uri⟩
    exact Expected.bind (Params.tokenize_expected rest) fun _ => Expected.pure _
  clear_value rest
  split
  · refine Expected.bind (Uri.tokenize_expected _) fun ⟨r, uri⟩ => ?_
    dsimp only
    split
    · exact Expected.bind (Expected.pure _) finishing
    · exact Expected.bind (Expected.throw rfl) finishing
  · exact Expected.bind (Uri.tokenizeNoParams_expected _) finishing

theorem ofToken_expected (tok : Token) : Expected (ofToken tok) :=
  Expected.bind (Uri.ofToken_expected _) fun _ =>
    Expected.bind (Params.ofTokens_expected _) fun _ => Expected.pure _

theorem parse_expected (s : Bytes) : Expected (parse s) := by
  unfold parse
  refine Expected.bind (tokenize_expected s) fun ⟨rest, tok⟩ => ?_
  dsimp only
  split
  · exact Expected.throw rfl
  · exact ofToken_expected tok

theorem tokenizeList_expected (s : Bytes) : Expected (tokenizeList s) := by
  unfold tokenizeList
  suffices loop : ∀ fuel rest acc, Expected (tokenizeList.go fuel rest acc) from loop _ _ _
  intro fuel
  induction fuel with
  | zero => intro rest acc; exact Expected.ok _
  | succ fuel ih =>
    intro rest acc
    refine Expected.bind (tokenize_expected rest) fun ⟨rest', tok⟩ => ?_
    dsimp only
    split
    · exact ih _ _
    · split
      · exact Expected.throw rfl
      · exact Expected.pure _

theorem parseList_expected (s : Bytes) : Expected (parseList s) :=
  Expected.bind (tokenizeList_expected s) fun toks => Expected.mapM ofToken_expected toks

end UriWithParams

end SipCodec
