import SipCodec.Proofs.Faults.Expected

/-! The typed readers of header values fail only with the failures they mean to report. -/

namespace SipCodec

/-! ### Authentication parameters -/

theorem AuthParam.tokenize_expected (s : Bytes) : Expected (AuthParam.tokenize s) := by
  unfold AuthParam.tokenize
  split
  · split
    · split
      · split
        · exact Expected.pure _
        · exact Expected.throw rfl
      · dsimp only
        split
        · exact Expected.throw rfl
        · exact Expected.pure _
    · exact Expected.throw rfl
  · exact Expected.throw rfl

theorem AuthToken.tokenize_expected (s : Bytes) : Expected (AuthToken.tokenize s) := by
  unfold AuthToken.tokenize
  split
  · split
    · exact Expected.pure _
    · split
      · exact Expected.bind (Scan.list_expected AuthParam.tokenize_expected _) fun _ =>
          Expected.pure _
      · exact Expected.throw rfl
  · exact Expected.throw rfl

theorem checkRequired_expected (seen : List Bytes) (names : List String) :
    Expected (checkRequired seen names) := by
  unfold checkRequired
  dsimp only
  split
  · exact Expected.ok _
  · exact Expected.error rfl

theorem readBool_expected (name v : Bytes) : Expected (readBool name v) := by
  unfold readBool
  split
  · exact Expected.ok _
  · split
    · exact Expected.ok _
    · exact Expected.error rfl

theorem readNonceCount_expected (v : Bytes) : Expected (readNonceCount v) := by
  unfold readNonceCount
  split
  · exact Expected.ok _
  · exact Expected.error rfl

/-! ### Challenges, credentials and authentication info -/

theorem Challenge.take_expected (acc : Challenge × List Bytes) (tok : AuthParam.Token) :
    Expected (Challenge.take acc tok) := by
  obtain ⟨c, seen⟩ := acc
  unfold Challenge.take
  dsimp -zeta only
  extract_lets name afterField
  have finishing : ∀ c', Expected (afterField c') := by
    intro c'
    dsimp only [afterField]
    split <;> exact Expected.pure _
  repeat' split
  all_goals first
    | exact Expected.bind (Expected.pure _) finishing
    | exact Expected.bind (readBool_expected _ _) fun _ => Expected.bind (Expected.pure _) finishing

theorem Challenge.ofToken_expected (tok : AuthToken) : Expected (Challenge.ofToken tok) := by
  unfold Challenge.ofToken
  split
  · exact Expected.pure _
  · refine Expected.bind (Expected.foldlM Challenge.take_expected _ _) fun ⟨c, seen⟩ => ?_
    exact Expected.bind (checkRequired_expected _ _) fun _ => Expected.pure _

theorem Challenge.parse_expected (s : Bytes) : Expected (Challenge.parse s) :=
  Scan.value_expected s AuthToken.tokenize_expected Challenge.ofToken_expected

theorem AuthInfo.take_expected (a : AuthInfo) (tok : AuthParam.Token) :
    Expected (AuthInfo.take a tok) := by
  unfold AuthInfo.take
  dsimp -zeta only
  extract_lets name
  repeat' split
  all_goals first
    | exact Expected.pure _
    | exact Expected.bind (readNonceCount_expected _) fun _ => Expected.pure _

theorem AuthInfo.parse_expected (s : Bytes) : Expected (AuthInfo.parse s) :=
  Scan.value_expected s (Scan.list_expected AuthParam.tokenize_expected) fun toks =>
    Expected.foldlM AuthInfo.take_expected toks _

theorem Credentials.Fields.take_expected (f : Credentials.Fields) (tok : AuthParam.Token) :
    Expected (f.take tok) := by
  unfold Credentials.Fields.take
  dsimp -zeta only
  extract_lets name c afterField
  have finishing : ∀ f', Expected (afterField f') := by
    intro f'
    dsimp only [afterField]
    split <;> exact Expected.pure _
  repeat' split
  all_goals first
    | exact Expected.bind (Expected.pure _) finishing
    | exact Expected.bind (Expected.throw (Fault.wrapIn_plain (by decide)
        (Uri.parse_expected _ _ ‹_›))) finishing

theorem Credentials.ofToken_expected (tok : AuthToken) : Expected (Credentials.ofToken tok) := by
  unfold Credentials.ofToken
  split
  · exact Expected.pure _
  · refine Expected.bind (Expected.foldlM Credentials.Fields.take_expected _ _) fun f => ?_
    refine Expected.bind (checkRequired_expected _ _) fun _ => ?_
    split
    · exact Expected.bind (checkRequired_expected _ _) fun _ =>
        Expected.bind (readNonceCount_expected _) fun _ => Expected.pure _
    · split
      · exact Expected.throw rfl
      · exact Expected.pure _

theorem Credentials.parse_expected (s : Bytes) : Expected (Credentials.parse s) :=
  Scan.value_expected s AuthToken.tokenize_expected Credentials.ofToken_expected

/-! ### Addresses -/

theorem NameAddr.tokenize_expected (s : Bytes) : Expected (NameAddr.tokenize s) := by
  unfold NameAddr.tokenize
  extract_lets rest afterDisplay r d
  have finishing : ∀ x, Expected (afterDisplay x) := by
    rintro ⟨display, rest'⟩
    dsimp -zeta only [afterDisplay]
    extract_lets afterUri
    have closing : ∀ y, Expected (afterUri y) := by
      rintro ⟨_, _⟩
      exact Expected.bind (Params.tokenize_expected _) fun _ => Expected.pure _
    split
    · refine Expected.bind (Uri.tokenize_expected _) fun ⟨_, _⟩ => ?_
      dsimp only
      split
      · exact Expected.bind (Expected.pure _) closing
      · exact Expected.bind (Expected.throw rfl) closing
    · exact Expected.bind (Uri.tokenizeNoParams_expected _) closing
  clear_value d r rest
  split
  · split
    · exact Expected.bind (Expected.throw rfl) finishing
    · extract_lets r' named
      split
      · exact Expected.bind (Expected.throw rfl) fun _ => Expected.bind (Expected.pure _) finishing
      · exact Expected.bind (Expected.pure _) finishing
  · split <;> exact Expected.bind (Expected.pure _) finishing

theorem NameAddr.ofToken_expected (tok : NameAddr.Token) : Expected (NameAddr.ofToken tok) := by
  unfold NameAddr.ofToken
  extract_lets afterDisplay
  have finishing : ∀ d, Expected (afterDisplay d) := fun _ =>
    Expected.bind (Uri.ofToken_expected _) fun _ =>
      Expected.bind (Params.ofTokens_expected _) fun _ => Expected.pure _
  split
  · split
    · exact Expected.bind (Expected.pure _) finishing
    · exact Expected.bind (Expected.throw rfl) finishing
  · exact Expected.bind (Expected.pure _) finishing

theorem NameAddr.parse_expected (s : Bytes) : Expected (NameAddr.parse s) :=
  Scan.value_expected s NameAddr.tokenize_expected NameAddr.ofToken_expected

theorem NameAddr.parseList_expected (s : Bytes) : Expected (NameAddr.parseList s) :=
  Scan.value_expected s (Scan.list_expected NameAddr.tokenize_expected) fun toks =>
    Expected.mapM NameAddr.ofToken_expected toks

theorem Contact.parse_expected (s : Bytes) : Expected (Contact.parse s) := by
  refine Scan.value_expected s ?_ ?_
  · intro t
    unfold Contact.tokenize
    split
    · exact Expected.ok _
    · exact Expected.bind (Scan.list_expected NameAddr.tokenize_expected _) fun _ => Expected.pure _
  · rintro (_ | toks)
    · exact Expected.pure _
    · exact Expected.bind (Expected.mapM NameAddr.ofToken_expected toks) fun _ => Expected.pure _

/-! ### Via hops -/

theorem ViaHop.tokenize_expected (s : Bytes) : Expected (ViaHop.tokenize s) := by
  unfold ViaHop.tokenize
  refine Expected.bind (Version.tokenWith_expected _ _) fun ⟨_, rest⟩ => ?_
  dsimp only
  split
  · refine Expected.bind (Transport.tokenize_expected _) fun ⟨_, rest⟩ => ?_
    dsimp only
    split
    · refine Expected.bind (Uri.tokenizeNoParams_expected _) fun ⟨_, _⟩ => ?_
      dsimp only
      split
      · exact Expected.bind (Expected.throw rfl) fun _ =>
          Expected.bind (Params.tokenize_expected _) fun _ => Expected.pure _
      · exact Expected.bind (Params.tokenize_expected _) fun _ => Expected.pure _
    · exact Expected.throw rfl
  · exact Expected.throw rfl

theorem ViaHop.ofToken_expected (tok : ViaHop.Token) : Expected (ViaHop.ofToken tok) :=
  Expected.bind (Version.ofToken_expected _) fun _ =>
    Expected.bind (Transport.ofToken_expected _) fun _ =>
      Expected.bind (Uri.ofToken_expected _) fun _ =>
        Expected.bind (Params.ofTokens_expected _) fun _ => Expected.pure _

theorem ViaHop.parse_expected (s : Bytes) : Expected (ViaHop.parse s) :=
  Scan.value_expected s ViaHop.tokenize_expected ViaHop.ofToken_expected

theorem ViaHop.parseList_expected (s : Bytes) : Expected (ViaHop.parseList s) :=
  Scan.value_expected s (Scan.list_expected ViaHop.tokenize_expected) fun toks =>
    Expected.mapM ViaHop.ofToken_expected toks

/-! ### Media types and tagged tokens -/

theorem MediaType.tokenize_expected (s : Bytes) : Expected (MediaType.tokenize s) := by
  unfold MediaType.tokenize
  split
  · split
    · split
      · exact Expected.bind (Params.tokenize_expected _) fun _ => Expected.pure _
      · exact Expected.throw rfl
    · exact Expected.throw rfl
  · exact Expected.throw rfl

theorem MediaType.ofToken_expected (t : MediaType.Token) : Expected (MediaType.ofToken t) :=
  Expected.bind (Params.ofTokens_expected _) fun _ => Expected.pure _

theorem MediaType.parse_expected (s : Bytes) : Expected (MediaType.parse s) :=
  Scan.value_expected s MediaType.tokenize_expected MediaType.ofToken_expected

theorem MediaType.parseList_expected (s : Bytes) : Expected (MediaType.parseList s) :=
  Scan.value_expected s (Scan.optList_expected MediaType.tokenize_expected) fun toks =>
    Expected.mapM MediaType.ofToken_expected toks

theorem Tagged.tokenizeWith_expected (what : String) (s : Bytes) :
    Expected (Tagged.tokenizeWith what s) := by
  unfold Tagged.tokenizeWith
  split
  · exact Expected.bind (Params.tokenize_expected _) fun _ => Expected.pure _
  · exact Expected.throw rfl

theorem Tagged.ofToken_expected (t : Bytes × List Param.Token) : Expected (Tagged.ofToken t) :=
  Expected.bind (Params.ofTokens_expected _) fun _ => Expected.pure _

theorem Tagged.parseWith_expected (what : String) (s : Bytes) :
    Expected (Tagged.parseWith what s) :=
  Scan.value_expected s (Tagged.tokenizeWith_expected what) Tagged.ofToken_expected

theorem Tagged.parseList_expected (s : Bytes) : Expected (Tagged.parseList s) :=
  Scan.value_expected s (Scan.optList_expected (Tagged.tokenizeWith_expected _)) fun toks =>
    Expected.mapM Tagged.ofToken_expected toks

/-! ### Words -/

theorem CallId.tokenize_expected (s : Bytes) : Expected (CallId.tokenize s) := by
  unfold CallId.tokenize
  dsimp only
  split
  · exact Expected.error rfl
  · split
    · split
      · exact Expected.error rfl
      · exact Expected.ok _
    · exact Expected.ok _

theorem CallId.parse_expected (s : Bytes) : Expected (CallId.parse s) :=
  Scan.value_expected s CallId.tokenize_expected Expected.pure

theorem CallId.parseList_expected (s : Bytes) : Expected (CallId.parseList s) :=
  Scan.value_expected s (Scan.list_expected CallId.tokenize_expected) Expected.pure

theorem MimeVersion.tokenize_expected (s : Bytes) : Expected (MimeVersion.tokenize s) := by
  unfold MimeVersion.tokenize
  dsimp only
  split
  · split
    · exact Expected.error rfl
    · split
      · exact Expected.error rfl
      · exact Expected.ok _
  · exact Expected.error rfl

theorem MimeVersion.parse_expected (s : Bytes) : Expected (MimeVersion.parse s) :=
  Scan.value_expected s MimeVersion.tokenize_expected Expected.pure

theorem Priority.parse_expected (s : Bytes) : Expected (Priority.parse s) :=
  Scan.value_expected s Scan.token_expected fun _ => Expected.pure _

theorem CSeq.tokenize_expected (s : Bytes) : Expected (CSeq.tokenize s) := by
  unfold CSeq.tokenize
  extract_lets ds afterDigits
  refine Expected.guard rfl fun _ => ?_
  dsimp only [afterDigits]
  split
  · exact Expected.bind (Method.tokenize_expected _) fun _ => Expected.pure _
  · exact Expected.throw rfl

theorem CSeq.ofToken_expected (t : Bytes × Bytes) : Expected (CSeq.ofToken t) :=
  Expected.bind (Numeral.decimal_expected _ _) fun _ =>
    Expected.bind (Method.ofToken_expected _) fun _ => Expected.pure _

theorem CSeq.parse_expected (s : Bytes) : Expected (CSeq.parse s) :=
  Scan.value_expected s CSeq.tokenize_expected CSeq.ofToken_expected

/-! ### Times -/

theorem RetryAfter.tokenize_expected (s : Bytes) : Expected (RetryAfter.tokenize s) := by
  unfold RetryAfter.tokenize
  refine Expected.bind (Scan.number_expected _) fun ⟨rest, _⟩ => ?_
  dsimp -zeta only
  extract_lets afterComment
  have finishing : ∀ x, Expected (afterComment x) := by
    rintro ⟨_, _⟩
    exact Expected.bind (Params.tokenize_expected _) fun _ => Expected.pure _
  split
  · split
    · exact Expected.bind (Expected.pure _) finishing
    · exact Expected.bind (Expected.throw rfl) finishing
  · exact Expected.bind (Expected.pure _) finishing

theorem RetryAfter.ofToken_expected (t : RetryAfter.Token) : Expected (RetryAfter.ofToken t) := by
  unfold RetryAfter.ofToken
  refine Expected.bind (Numeral.decimal_expected _ _) fun _ => ?_
  extract_lets afterComment
  have finishing : ∀ c, Expected (afterComment c) := fun _ =>
    Expected.bind (Params.ofTokens_expected _) fun _ => Expected.pure _
  split
  · split
    · exact Expected.bind (Expected.pure _) finishing
    · exact Expected.bind (Expected.throw rfl) finishing
  · exact Expected.bind (Expected.pure _) finishing

theorem RetryAfter.parse_expected (s : Bytes) : Expected (RetryAfter.parse s) :=
  Scan.value_expected s RetryAfter.tokenize_expected RetryAfter.ofToken_expected

theorem Timestamp.cutDecimal_expected (s : Bytes) : Expected (Timestamp.cutDecimal s) := by
  unfold Timestamp.cutDecimal
  dsimp only
  split
  · exact Expected.error rfl
  · split <;> exact Expected.ok _

theorem Timestamp.parse_expected (s : Bytes) : Expected (Timestamp.parse s) := by
  refine Scan.value_expected s (fun t => ?_) Expected.pure
  unfold Timestamp.tokenize
  refine Expected.bind (Timestamp.cutDecimal_expected _) fun ⟨_, _⟩ => ?_
  dsimp only
  split
  · split
    · exact Expected.bind (Timestamp.cutDecimal_expected _) fun _ => Expected.pure _
    · exact Expected.pure _
  · exact Expected.pure _

/-! ### Warnings and dates -/

theorem WarningValue.tokenize_expected (s : Bytes) : Expected (WarningValue.tokenize s) := by
  unfold WarningValue.tokenize
  extract_lets code afterCode
  refine Expected.guard rfl fun _ => ?_
  dsimp -zeta only [afterCode]
  split
  · extract_lets agent afterAgent
    refine Expected.guard rfl fun _ => ?_
    dsimp only [afterAgent]
    split
    · split
      · exact Expected.pure _
      · exact Expected.throw rfl
    · exact Expected.throw rfl
  · exact Expected.throw rfl

theorem WarningValue.ofToken_expected (t : WarningValue.Token) :
    Expected (WarningValue.ofToken t) := by
  unfold WarningValue.ofToken
  refine Expected.bind (Numeral.decimal_expected _ _) fun _ => ?_
  extract_lets afterText
  exact Expected.guard rfl fun _ => Expected.pure _

theorem WarningValue.parseList_expected (s : Bytes) : Expected (WarningValue.parseList s) :=
  Scan.value_expected s (Scan.list_expected WarningValue.tokenize_expected) fun toks =>
    Expected.mapM WarningValue.ofToken_expected toks

theorem DateValue.parse_expected (s : Bytes) : Expected (DateValue.parse s) := by
  refine Scan.value_expected s (fun t => ?_) (fun tok => ?_)
  · unfold DateValue.tokenize
    split
    · exact Expected.ok _
    · exact Expected.error rfl
  · unfold DateValue.ofToken
    split
    · exact Expected.ok _
    · exact Expected.error rfl

/-! ### Token lists and the typed headers -/

theorem TokenList.parse_expected (s : Bytes) : Expected (TokenList.parse s) :=
  Scan.value_expected s (Scan.list_expected Scan.token_expected) Expected.pure

theorem TokenList.parseOpt_expected (s : Bytes) : Expected (TokenList.parseOpt s) :=
  Scan.value_expected s (Scan.optList_expected Scan.token_expected) Expected.pure

theorem TypedHeader.methodCut_expected (s : Bytes) : Expected (TypedHeader.methodCut s) :=
  Expected.map (Method.tokenize_expected s) _

/-- Every header with a typed form is read by a reader whose failures are all expected. -/
theorem TypedHeader.parse?_expected {name : String} {s : Bytes} {r : Outcome TypedHeader}
    (read : TypedHeader.parse? name s = some r) : Expected r := by
  unfold TypedHeader.parse? at read
  split at read <;> cases read
  all_goals refine Expected.map ?_ _
  all_goals first
    | exact MediaType.parseList_expected s
    | exact MediaType.parse_expected s
    | exact Tagged.parseList_expected s
    | exact Tagged.parseWith_expected _ s
    | exact UriWithParams.parseList_expected s
    | exact Scan.value_expected s (Scan.optList_expected TypedHeader.methodCut_expected)
        fun toks => Expected.mapM Method.ofToken_expected toks
    | exact AuthInfo.parse_expected s
    | exact Credentials.parse_expected s
    | exact Challenge.parse_expected s
    | exact CallId.parse_expected s
    | exact CallId.parseList_expected s
    | exact Contact.parse_expected s
    | exact TokenList.parse_expected s
    | exact TokenList.parseOpt_expected s
    | exact Scan.parseUint32_expected s
    | exact CSeq.parse_expected s
    | exact DateValue.parse_expected s
    | exact NameAddr.parse_expected s
    | exact NameAddr.parseList_expected s
    | exact MimeVersion.parse_expected s
    | exact Priority.parse_expected s
    | exact RetryAfter.parse_expected s
    | exact Timestamp.parse_expected s
    | exact ViaHop.parseList_expected s
    | exact WarningValue.parseList_expected s

end SipCodec
