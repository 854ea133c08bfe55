import SipCodec.Proofs.Uri.Reading

/-! Writing a `Rereadable` URI the reader gave and reading it again gives the same URI. -/

namespace SipCodec

namespace Uri

open Grammar

/-- A URI whose written text is read back as itself, beyond what every URI read satisfies. -/
structure Rereadable (u : Uri) : Prop where
  /-- user, password, parameters and headers hold no text that reads as an escape -/
  user : ∀ a ∈ u.userinfo, Percent.decode a.user = a.user ∧ ∀ p ∈ a.password, Percent.decode p = p
  /-- and no parameter name or value reads as quoted -/
  params : ∀ p ∈ u.params, Percent.decode p.name = p.name ∧ Lexical.isQuoted p.name = false ∧
    ∀ v ∈ p.value, Percent.decode v = v ∧ Lexical.isQuoted v = false
  headers : ∀ h ∈ u.headers, Percent.decode h.1 = h.1 ∧ Percent.decode h.2 = h.2
  /-- a path after a host without user part holds no `@`, which would make a user part -/
  pathAt : u.userinfo = none → u.hostPort.isZero = false → 64 ∉ u.path
  /-- without a scheme, neither a user with a password nor a host with a port reads as one -/
  schemeless : u.scheme = none →
    (∀ a ∈ u.userinfo, a.user.head? ≠ some 47 ∧ (a.password ≠ none → Scheme.isKnown ⟨a.user⟩ = false)) ∧
    (u.userinfo = none → u.hostPort.port ≠ none → Scheme.isKnown ⟨u.hostPort.host.render⟩ = false)

/-- The headers of a URI as written after its parameters. -/
def headersText : List (Bytes × Bytes) → Bytes
  | [] => []
  | h :: hs => 63 :: (headerText (escapeHeader h) ++ (hs.map escapeHeader).flatMap fun x => 38 :: headerText x)

/-- A URI's server part as written: the user part and its `@`, then host and port. -/
def serverText (u : Uri) : Bytes :=
  if u.isSip && !u.hostPort.isZero then
    (match u.userinfo with
      | some a => a.render ++ [64]
      | none => []) ++ u.hostPort.render
  else []

/-- What follows a URI's server part: path, parameters and headers. -/
def tailText (u : Uri) : Bytes := u.path ++ (Params.render u.params ++ headersText u.headers)

/-- A URI's scheme as written, with its colon. -/
def schemeText : Option Scheme → Bytes
  | some s => Bytes.toLower s.name ++ [58]
  | none => []

theorem render_eq (u : Uri) : u.render = schemeText u.scheme ++ (serverText u ++ tailText u) := by
  obtain ⟨scheme, userinfo, hostPort, path, params, hs⟩ := u
  cases hs with
  | nil =>
    cases scheme <;> cases userinfo <;> simp [render, schemeText, serverText, tailText, headersText]
  | cons h hs =>
    rw [render, headersRender_cons h hs]
    cases scheme <;> cases userinfo <;> simp [schemeText, serverText, tailText, headersText]

/-- A parameter written with its escapes, as the grammar takes it back. -/
def paramToken (p : Param) : Param.Token := ⟨Param.escape p.name, p.value.map Param.escape⟩

theorem length_le_flatMap_cons {α : Type} (c : UInt8) (f : α → Bytes) (xs : List α) :
    xs.length ≤ (xs.flatMap fun x => c :: f x).length := by
  induction xs with
  | nil => simp
  | cons x xs ih =>
    simp only [List.flatMap_cons, List.length_append, List.length_cons]
    omega

theorem escape_of_unquoted {s : Bytes} (unquoted : Lexical.isQuoted s = false) :
    Param.escape s = Percent.encode Percent.isParamChar s := by
  simp [Param.escape, unquoted]

theorem paramTexts_render {ps : List Param} (named : ∀ p ∈ ps, p.name ≠ [])
    (unquoted : ∀ p ∈ ps, Lexical.isQuoted p.name = false ∧ ∀ v ∈ p.value, Lexical.isQuoted v = false) :
    ParamTexts (ps.map fun p => (Param.escape p.name, p.value.map Param.escape)) := by
  intro w member
  obtain ⟨p, inParams, rfl⟩ := List.mem_map.1 member
  obtain ⟨plainName, plainValues⟩ := unquoted p inParams
  refine ⟨?_, ?_, ?_⟩
  · rw [escape_of_unquoted plainName]
    exact escaped_encode (fun _ kept => kept) p.name
  · rw [escape_of_unquoted plainName]
    exact fun empty => named p inParams ((encode_eq_nil_iff p.name).1 empty)
  · intro v inValue
    obtain ⟨v, inValue', rfl⟩ := Option.map_eq_some_iff.1 inValue
    rw [escape_of_unquoted (plainValues v inValue')]
    exact escaped_encode (fun _ kept => kept) v

theorem tokenizeUri_render {ps : List Param} (named : ∀ p ∈ ps, p.name ≠ [])
    (unquoted : ∀ p ∈ ps, Lexical.isQuoted p.name = false ∧ ∀ v ∈ p.value, Lexical.isQuoted v = false)
    {z : Bytes} (after : AfterParam z) (notParam : z.head? ≠ some 59) :
    Params.tokenizeUri (Params.render ps ++ z) = .ok (z, ps.map paramToken) := by
  rw [paramsRender_eq, Params.tokenizeUri,
    tokenizeUri_go_written (paramTexts_render named unquoted) after notParam]
  · simp [paramToken]
  · have := length_le_flatMap_cons 59 (fun w => w.1 ++ valueText w.2)
      (ps.map fun p => (Param.escape p.name, p.value.map Param.escape))
    simp only [paramsText, List.length_append, List.length_map] at this ⊢
    omega

theorem tokenizeHeaders_render {h : Bytes × Bytes} {hs : List (Bytes × Bytes)}
    (named : ∀ x ∈ h :: hs, x.1 ≠ []) {z : Bytes} (ends : Ends z) :
    tokenizeHeaders (headerText (escapeHeader h) ++
        ((hs.map escapeHeader).flatMap fun x => 38 :: headerText x) ++ z) =
      .ok (z, (h :: hs).map escapeHeader) := by
  have written : HeaderTexts ((h :: hs).map escapeHeader) := by
    intro w member
    obtain ⟨x, inHeaders, rfl⟩ := List.mem_map.1 member
    exact ⟨escaped_encode (fun _ kept => kept) x.1,
      fun empty => named x inHeaders ((encode_eq_nil_iff x.1).1 empty),
      escaped_encode (fun _ kept => kept) x.2⟩
  have run := tokenizeHeaders_go_written written ends
    ((headerText (escapeHeader h) ++
      ((hs.map escapeHeader).flatMap fun x => 38 :: headerText x) ++ z).length + 1)
    (by
      have := length_le_flatMap_cons 38 headerText (hs.map escapeHeader)
      simp only [List.length_append, List.length_map] at this ⊢
      omega) []
  rw [tokenizeHeaders, run]
  simp

theorem at_not_mem_encode {keep : UInt8 → Bool} (outside : keep 64 = false) (s : Bytes) :
    (64 : UInt8) ∉ Percent.encode keep s := fun member => by
  rcases Percent.mem_encode member with kept | percent | hex
  · rw [outside] at kept
    cases kept
  · cases percent
  · cases hex

theorem at_not_mem_paramsHeaders {ps : List Param}
    (unquoted : ∀ p ∈ ps, Lexical.isQuoted p.name = false ∧ ∀ v ∈ p.value, Lexical.isQuoted v = false)
    (hs : List (Bytes × Bytes)) : (64 : UInt8) ∉ Params.render ps ++ headersText hs := by
  have inParams : (64 : UInt8) ∉ Params.render ps := by
    simp only [Params.render, List.mem_flatMap, not_exists, not_and]
    intro p inList
    obtain ⟨plainName, plainValues⟩ := unquoted p inList
    have nameFree := at_not_mem_encode (by decide : Percent.isParamChar 64 = false) p.name
    rw [← escape_of_unquoted plainName] at nameFree
    cases hv : p.value with
    | none => simpa [Param.render, hv] using nameFree
    | some v =>
      have valueFree := at_not_mem_encode (by decide : Percent.isParamChar 64 = false) v
      rw [← escape_of_unquoted (plainValues v hv)] at valueFree
      simp [Param.render, hv, nameFree, valueFree]
  have inHeaders : (64 : UInt8) ∉ headersText hs := by
    have free : ∀ x : Bytes × Bytes, (64 : UInt8) ∉ headerText (escapeHeader x) := fun x => by
      simp [headerText, escapeHeader, at_not_mem_encode (by decide : Percent.isHeaderChar 64 = false)]
    cases hs with
    | nil => simp [headersText]
    | cons h hs =>
      simp only [headersText, List.mem_cons, List.mem_append, List.mem_flatMap, List.mem_map,
        not_or, not_exists, not_and]
      refine ⟨by decide, free h, ?_⟩
      rintro w ⟨x, -, rfl⟩
      exact ⟨by decide, free x⟩
  simp [inParams, inHeaders]

theorem afterParam_headersText (hs : List (Bytes × Bytes)) {z : Bytes} (ends : Ends z) :
    AfterParam (headersText hs ++ z) ∧ (headersText hs ++ z).head? ≠ some 59 := by
  cases hs with
  | nil =>
    refine ⟨.inl ends, ?_⟩
    rcases ends with rfl | ⟨c, more, rfl, rfl | rfl⟩ <;> simp [headersText]
  | cons h hs => exact ⟨.inr ⟨63, _, rfl, .inr rfl⟩, by simp [headersText]⟩

theorem Rereadable.unquoted {u : Uri} (rereadable : u.Rereadable) :
    ∀ p ∈ u.params, Lexical.isQuoted p.name = false ∧ ∀ v ∈ p.value, Lexical.isQuoted v = false :=
  fun p member => ⟨(rereadable.params p member).2.1,
    fun v inValue => ((rereadable.params p member).2.2 v inValue).2⟩

theorem schemeStage_some {u : Uri} (shaped : u.Shaped) (rereadable : u.Rereadable) {sc : Scheme}
    (named : u.scheme = some sc) {z : Bytes} (ends : Ends z) :
    Scheme.tokenize (u.render ++ z) = .ok (sc.name, serverText u ++ (tailText u ++ z)) ∧
      startsWithScheme (u.render ++ z) sc.name (serverText u ++ (tailText u ++ z)) = true := by
  obtain ⟨isName, lower⟩ := shaped.scheme sc named
  have written : u.render ++ z = sc.name ++ 58 :: (serverText u ++ (tailText u ++ z)) := by
    rw [render_eq, named]
    simp [schemeText, lower]
  refine ⟨Scheme.tokenize_eq_ok_iff.2 ⟨written, isName⟩, ?_⟩
  unfold startsWithScheme
  cases known : Scheme.isKnown ⟨sc.name⟩
  · have unknown : Scheme.isKnown sc = false := known
    obtain ⟨notDigit, noPassword⟩ := shaped.unknown sc named unknown
    have notSip : u.isSip = false := by
      cases sip : u.isSip
      · rfl
      · rw [isSip, named] at sip
        rw [known_of_usesHost sip] at unknown
        cases unknown
    obtain ⟨-, -, pathNonempty⟩ := shaped.foreign notSip
    have noServer : serverText u = [] := by simp [serverText, notSip]
    -- no user part can be read over the scheme's colon: that would need a password before an `@`
    have noFront : ¬ UserFront (sc.name ++ 58 :: u.path) :=
      fun front => noPassword ((userFront_name_colon isName).1 front)
    have noUser : Grammar.userinfo (u.render ++ z) = [] := by
      have nil := userinfo_eq_nil noFront (at_not_mem_paramsHeaders rereadable.unquoted u.headers)
        ends
      rw [written, noServer, List.nil_append, tailText]
      simpa using nil
    obtain ⟨c, p, split⟩ := List.exists_cons_of_ne_nil pathNonempty
    rw [noServer, List.nil_append, tailText, split]
    simp [notDigit c (by rw [split]; rfl), matchRule_toBool_of_nil noUser]
  · rfl

theorem afterHost_tailText {u : Uri} (shaped : u.Shaped) (sip : u.isSip = true) {z : Bytes}
    (ends : Ends z) : AfterHost (tailText u ++ z) := by
  rcases shaped.sipPath sip with empty | slash
  · rw [tailText, empty, List.nil_append, paramsRender_eq, List.append_assoc]
    exact AfterParam.afterHost (afterParam_paramsText _ (afterParam_headersText u.headers ends).1)
  · obtain ⟨more, split⟩ : ∃ more, u.path = 47 :: more := by
      cases hp : u.path with
      | nil => rw [hp] at slash; cases slash
      | cons c more => rw [hp] at slash; cases slash; exact ⟨more, rfl⟩
    exact .inr ⟨47, _, by rw [tailText, split]; rfl, .inl rfl⟩

theorem userinfo_matched {a : Userinfo} (named : a.user ≠ []) (rest : Bytes) :
    (matchRule Grammar.userinfo (a.render ++ 64 :: rest)).toBool = true := by
  have password : ∀ p ∈ a.password.map (Percent.encode Percent.isPasswordChar),
      Escaped Percent.isPasswordChar p := by
    intro p member
    obtain ⟨q, -, rfl⟩ := Option.map_eq_some_iff.1 member
    exact escaped_encode (fun _ kept => kept) q
  obtain ⟨n, found, text, -⟩ := userinfo_written (escaped_encode (fun _ kept => kept) a.user)
    (fun empty => named ((encode_eq_nil_iff a.user).1 empty)) password rest
  rw [Userinfo.render_eq]
  exact matchRule_toBool_of_mem (by simp) (by rw [found]; exact List.mem_singleton_self _)
    (by rw [text]; simp)

theorem render_schemeless {u : Uri} (schemeless : u.scheme = none) :
    u.render = serverText u ++ tailText u := by
  rw [render_eq, schemeless]
  rfl

theorem isSip_schemeless {u : Uri} (schemeless : u.scheme = none) : u.isSip = true := by
  simp [isSip, schemeless, usesHost]

section Schemeless

/-! ### No scheme read where none was written

Without a scheme, a URI's text opens with its user part, its host or its path; each case shows
that the word cut before a colon, if any, is not taken as a scheme. -/

variable {u : Uri} (schemeless : u.scheme = none) {z : Bytes} {name r : Bytes}
  (cut : Scheme.tokenize (u.render ++ z) = .ok (name, r))
include schemeless cut

theorem schemeStage_path (shaped : u.Shaped) (zero : u.hostPort.isZero = true) :
    startsWithScheme (u.render ++ z) name r = false := by
  obtain ⟨first, opens, alpha⟩ := Scheme.tokenize_head cut
  obtain ⟨-, -, slash⟩ := shaped.hostless (isSip_schemeless schemeless) zero
  have noServer : serverText u = [] := by simp [serverText, zero]
  rw [render_schemeless schemeless, noServer, List.nil_append, tailText] at opens
  cases hp : u.path with
  | nil => rw [hp] at slash; cases slash
  | cons c more =>
    rw [hp] at slash opens
    simp only [List.head?_cons, Option.some.injEq, List.cons_append] at slash opens
    rw [← opens, slash] at alpha
    cases alpha

theorem schemeStage_user (shaped : u.Shaped) (rereadable : u.Rereadable)
    (zero : u.hostPort.isZero = false) {a : Userinfo} (hu : u.userinfo = some a) :
    startsWithScheme (u.render ++ z) name r = false := by
  obtain ⟨split, isName⟩ := Scheme.tokenize_eq_ok_iff.1 cut
  have sip := isSip_schemeless schemeless
  have w : u.render ++ z = Percent.encode Percent.isUserChar a.user ++
      (passwordText (a.password.map (Percent.encode Percent.isPasswordChar)) ++
        64 :: (u.hostPort.render ++ (tailText u ++ z))) := by
    rw [render_schemeless schemeless]
    simp [serverText, sip, zero, hu, Userinfo.render_eq]
  have noColon : (58 : UInt8) ∉ Percent.encode Percent.isUserChar a.user := fun member => by
    rcases Percent.mem_encode member with kept | percent | hex
    · cases kept
    · cases percent
    · cases hex
  have stop : ∀ c, (passwordText (a.password.map (Percent.encode Percent.isPasswordChar)) ++
      64 :: (u.hostPort.render ++ (tailText u ++ z))).head? = some c → Scheme.isNameChar c = false := by
    intro c opening
    cases hpw : a.password <;> simp only [hpw, Option.map_none, Option.map_some, passwordText,
      List.nil_append, List.cons_append, List.head?_cons, Option.some.injEq] at opening <;>
      subst opening <;> decide
  obtain ⟨same, rest⟩ := Scheme.eq_of_name_colon isName noColon stop (split.symm.trans w)
  have password : a.password ≠ none := fun absent => by
    simp [absent, passwordText] at rest
  have plain : Percent.encode Percent.isUserChar a.user = a.user := by
    refine Percent.encode_eq_self fun percent => ?_
    rw [← same] at percent
    exact absurd (Scheme.isNameChar_of_mem isName percent) (by decide)
  have notKnown : Scheme.isKnown ⟨name⟩ = false := by
    rw [same, plain]
    exact ((rereadable.schemeless schemeless).1 a hu).2 password
  have matched : (matchRule Grammar.userinfo (u.render ++ z)).toBool = true := by
    rw [render_schemeless schemeless]
    simpa [serverText, sip, zero, hu] using userinfo_matched (shaped.user a hu)
      (u.hostPort.render ++ (tailText u ++ z))
  unfold startsWithScheme
  cases r <;> simp [notKnown, matched]

theorem schemeStage_hostName (shaped : u.Shaped) (rereadable : u.Rereadable) (ends : Ends z)
    (zero : u.hostPort.isZero = false) (hu : u.userinfo = none) {n : Bytes}
    (hh : u.hostPort.host = .name n) : startsWithScheme (u.render ++ z) name r = false := by
  obtain ⟨split, isName⟩ := Scheme.tokenize_eq_ok_iff.1 cut
  have sip := isSip_schemeless schemeless
  have after := afterHost_tailText shaped sip ends
  obtain ⟨-, chars, -⟩ : n ≠ [] ∧ (∀ c ∈ n, isHostnameChar c = true) ∧ IpAddr.read? n = none := by
    have readable := (shaped.host zero).1
    rw [hh] at readable
    exact readable
  have w : u.render ++ z = n ++ (portText u.hostPort.port ++ (tailText u ++ z)) := by
    rw [render_schemeless schemeless]
    simp [serverText, sip, zero, hu, HostPort.render_eq, hh, Host.render]
  have noColon : (58 : UInt8) ∉ n := fun member => absurd (chars 58 member) (by decide)
  have stop : ∀ c, (portText u.hostPort.port ++ (tailText u ++ z)).head? = some c →
      Scheme.isNameChar c = false := by
    intro c opening
    cases hport : u.hostPort.port with
    | some p =>
      simp only [hport, portText, List.cons_append, List.head?_cons, Option.some.injEq] at opening
      subst opening
      decide
    | none =>
      simp only [hport, portText, List.nil_append] at opening
      rcases after.head opening with rfl | rfl | rfl | rfl | rfl <;> decide
  obtain ⟨same, rest⟩ := Scheme.eq_of_name_colon isName noColon stop (split.symm.trans w)
  cases hport : u.hostPort.port with
  | none =>
    rw [hport, portText, List.nil_append] at rest
    rcases after.head (c := 58) (by rw [rest]; rfl) with h | h | h | h | h <;> cases h
  | some p =>
    rw [hport, portText, List.cons_append, List.cons.injEq] at rest
    have notKnown : Scheme.isKnown ⟨name⟩ = false := by
      rw [same]
      simpa [hh, Host.render] using (rereadable.schemeless schemeless).2 hu (by simp [hport])
    obtain ⟨d, more, digits⟩ := List.exists_cons_of_ne_nil (Bytes.ofNat_ne_nil p)
    have digit : Octet.isDigit d = true :=
      Bytes.isDigit_of_mem_ofNat (by rw [digits]; exact List.mem_cons_self)
    rw [← rest.2, digits]
    unfold startsWithScheme
    simp [notKnown, digit]

theorem schemeStage_address (zero : u.hostPort.isZero = false) (hu : u.userinfo = none) {a : IpAddr}
    (hh : u.hostPort.host = .ip a) : startsWithScheme (u.render ++ z) name r = false := by
  obtain ⟨first, opens, alpha⟩ := Scheme.tokenize_head cut
  have w : u.render ++ z = Host.render (.ip a) ++ (portText u.hostPort.port ++ (tailText u ++ z)) := by
    rw [render_schemeless schemeless, ← hh]
    simp [serverText, isSip_schemeless schemeless, zero, hu, HostPort.render_eq]
  cases a with
  | v4 a b c d =>
    obtain ⟨e, head, digit⟩ := Host.head?_render_v4 a b c d
    have head : (u.render ++ z).head? = some e := by
      rw [w]
      simpa [Host.render, IpAddr.isV6] using Or.inl head
    rw [head, Option.some.injEq] at opens
    subst opens
    rw [Scheme.isAlpha_iff] at alpha
    simp only [Octet.isDigit, Bool.and_eq_true, decide_eq_true_eq, UInt8.le_iff_toNat_le,
      UInt8.reduceToNat] at digit
    omega
  | v6 gs zone =>
    have head : (u.render ++ z).head? = some 91 := by
      rw [w]
      simp [Host.render, IpAddr.isV6]
    rw [head, Option.some.injEq] at opens
    subst opens
    cases alpha

end Schemeless

theorem schemeStage_none {u : Uri} (shaped : u.Shaped) (rereadable : u.Rereadable)
    (schemeless : u.scheme = none) {z : Bytes} (ends : Ends z) {name r : Bytes}
    (cut : Scheme.tokenize (u.render ++ z) = .ok (name, r)) :
    startsWithScheme (u.render ++ z) name r = false := by
  cases zero : u.hostPort.isZero
  · cases hu : u.userinfo with
    | some a => exact schemeStage_user schemeless cut shaped rereadable zero hu
    | none =>
      cases hh : u.hostPort.host with
      | name n => exact schemeStage_hostName schemeless cut shaped rereadable ends zero hu hh
      | ip a => exact schemeStage_address schemeless cut zero hu hh
  · exact schemeStage_path schemeless cut shaped zero

/-- The texts of its parts that a URI is written as. -/
def written (u : Uri) : Token where
  scheme := u.scheme.map Scheme.name
  userinfo := u.userinfo.map fun a =>
    ⟨Percent.encode Percent.isUserChar a.user, a.password.map (Percent.encode Percent.isPasswordChar)⟩
  hostPort := if u.isSip && !u.hostPort.isZero then
      some ⟨u.hostPort.host.render, u.hostPort.port.map Bytes.ofNat⟩
    else none
  path := if u.path.isEmpty then none else some u.path
  params := u.params.map paramToken
  headers := u.headers.map escapeHeader

theorem extras_render {u : Uri} (shaped : u.Shaped) (rereadable : u.Rereadable) {z : Bytes}
    (ends : Ends z) :
    Params.tokenizeUri (Params.render u.params ++ (headersText u.headers ++ z)) =
      .ok (headersText u.headers ++ z, u.params.map paramToken) ∧
    ∀ more, headersText u.headers = 63 :: more →
      tokenizeHeaders (more ++ z) = .ok (z, u.headers.map escapeHeader) := by
  obtain ⟨after, notParam⟩ := afterParam_headersText u.headers ends
  refine ⟨tokenizeUri_render (fun p member => (shaped.params p member).1) rereadable.unquoted after
    notParam, ?_⟩
  intro more opens
  cases hs : u.headers with
  | nil => rw [hs] at opens; cases opens
  | cons h t =>
    rw [hs, headersText, List.cons.injEq] at opens
    rw [← opens.2]
    exact tokenizeHeaders_render (fun x member => shaped.headers x (hs ▸ member)) ends

theorem at_not_mem_hostPort_render {hp : HostPort} (readable : hp.host.Readable) :
    (64 : UInt8) ∉ hp.render := by
  obtain ⟨full, matched, text, -⟩ := hostport_written readable hp.port (y := []) (.inl (.inl rfl))
  rw [HostPort.render_eq, ← text]
  exact fun member => texts_hostport _ _ _ matched 64 member rfl

theorem cutServer_render {u : Uri} (shaped : u.Shaped) (rereadable : u.Rereadable)
    (sip : u.isSip = true) (zero : u.hostPort.isZero = false) {z : Bytes} (ends : Ends z) :
    cutServer (serverText u ++ (tailText u ++ z)) =
      .ok ((written u).userinfo, ⟨u.hostPort.host.render, u.hostPort.port.map Bytes.ofNat⟩,
        tailText u ++ z) := by
  obtain ⟨readable, -⟩ := shaped.host zero
  have after := afterHost_tailText shaped sip ends
  cases hu : u.userinfo with
  | some a =>
    have text : serverText u ++ (tailText u ++ z) =
        a.render ++ [64] ++ u.hostPort.render ++ (tailText u ++ z) := by
      simp [serverText, sip, zero, hu]
    rw [text, cutServer_user (shaped.user a hu) readable after]
    simp [written, hu]
  | none =>
    -- without a user part no `@` stands before the end of the URI, so none can be read
    have text : serverText u ++ (tailText u ++ z) = u.hostPort.render ++ (tailText u ++ z) := by
      simp [serverText, sip, zero, hu]
    have noAt : (64 : UInt8) ∉ u.hostPort.render ++ tailText u := by
      simp only [tailText, List.mem_append, not_or]
      exact ⟨at_not_mem_hostPort_render readable, rereadable.pathAt hu zero,
        by simpa using at_not_mem_paramsHeaders rereadable.unquoted u.headers⟩
    have noFront : ¬ UserFront [] := fun ⟨x, y, split, _⟩ => by simp at split
    have noUser : ∀ m ∈ Grammar.userinfo (u.hostPort.render ++ (tailText u ++ z)), hostport m.2 = [] := by
      have nil := userinfo_eq_nil noFront noAt ends
      rw [List.nil_append, List.append_assoc] at nil
      rw [nil]
      intro m member
      cases member
    rw [text, cutServer_host readable after noUser]
    simp [written, hu]

theorem head?_host_render {h : Host} (readable : h.Readable) :
    ∃ c, h.render.head? = some c ∧ c ≠ 47 := by
  cases h with
  | name n =>
    obtain ⟨nonempty, chars, -⟩ := readable
    obtain ⟨c, more, rfl⟩ := List.exists_cons_of_ne_nil nonempty
    exact ⟨c, rfl, fun same => absurd (chars c List.mem_cons_self) (by rw [same]; decide)⟩
  | ip a =>
    cases a with
    | v4 a b c d =>
      obtain ⟨e, first, digit⟩ := Host.head?_render_v4 a b c d
      refine ⟨e, by simpa [Host.render, IpAddr.isV6] using first, ?_⟩
      rintro rfl
      cases digit
    | v6 gs zone => exact ⟨91, by simp [Host.render, IpAddr.isV6], by decide⟩

theorem head?_serverText {u : Uri} (shaped : u.Shaped) (rereadable : u.Rereadable)
    (sip : u.isSip = true) (zero : u.hostPort.isZero = false) (schemeless : u.scheme = none) :
    ∃ c, (serverText u).head? = some c ∧ c ≠ 47 := by
  obtain ⟨readable, -⟩ := shaped.host zero
  cases hu : u.userinfo with
  | some a =>
    have slash := ((rereadable.schemeless schemeless).1 a hu).1
    obtain ⟨c, more, split⟩ := List.exists_cons_of_ne_nil (shaped.user a hu)
    rw [split, List.head?_cons, ne_eq, Option.some.injEq] at slash
    have first := Percent.head?_encode_cons Percent.isUserChar c more
    refine ⟨if Percent.isUserChar c then c else 37, ?_, ?_⟩
    · obtain ⟨d, rest, written⟩ := List.exists_cons_of_ne_nil
        (fun empty => List.cons_ne_nil c more ((encode_eq_nil_iff (c :: more)).1 empty))
      rw [written] at first
      simp [serverText, sip, zero, hu, Userinfo.render_eq, split, written, ← first]
    · split <;> [exact slash; decide]
  | none =>
    obtain ⟨c, first, other⟩ := head?_host_render readable
    refine ⟨c, ?_, other⟩
    obtain ⟨d, rest, written⟩ := List.exists_cons_of_ne_nil (Host.render_ne_nil readable)
    rw [written] at first
    simp [serverText, sip, zero, hu, HostPort.render_eq, written, ← first]

theorem schemeStage_render {u : Uri} (shaped : u.Shaped) (rereadable : u.Rereadable) {z : Bytes}
    (ends : Ends z) :
    schemeStage (u.render ++ z) = (u.scheme.map Scheme.name, serverText u ++ (tailText u ++ z)) := by
  unfold schemeStage
  rcases hsc : u.scheme with _ | sc
  · have text : u.render ++ z = serverText u ++ (tailText u ++ z) := by
      rw [render_schemeless hsc, List.append_assoc]
    cases cut : Scheme.tokenize (u.render ++ z) with
    | error e => simp [text]
    | ok p =>
      obtain ⟨name, r⟩ := p
      simp only [schemeStage_none shaped rereadable hsc ends cut, Bool.false_eq_true, if_false,
        Option.map_none]
      rw [text]
  · obtain ⟨cut, starts⟩ := schemeStage_some shaped rereadable hsc ends
    simp [cut, starts]

theorem extrasStage_render {u : Uri} (shaped : u.Shaped) (rereadable : u.Rereadable) {z : Bytes}
    (ends : Ends z) :
    extrasStage true ⟨(written u).scheme, (written u).userinfo, (written u).hostPort,
      (written u).path, [], []⟩ (Params.render u.params ++ (headersText u.headers ++ z)) =
        .ok (z, written u) := by
  obtain ⟨paramsCut, headersCut⟩ := extras_render shaped rereadable ends
  simp only [extrasStage, Bool.not_true, Bool.false_eq_true, if_false, bind, Except.bind, paramsCut]
  cases hs : u.headers with
  | nil =>
    rcases ends with rfl | ⟨c, more, rfl, rfl | rfl⟩ <;>
      simp [headersText, written, hs, pure, Except.pure]
  | cons h t =>
    have opened : headersText u.headers = 63 :: (headerText (escapeHeader h) ++
        (t.map escapeHeader).flatMap fun x => 38 :: headerText x) := by
      rw [hs]
      rfl
    have cutHeaders := headersCut _ opened
    rw [hs, List.append_assoc] at cutHeaders
    simp only [headersText, List.cons_append, List.append_assoc, cutHeaders]
    simp [written, hs, pure, Except.pure]

theorem pathStage_render {u : Uri} (shaped : u.Shaped) (sip : u.isSip = true) {z : Bytes}
    (ends : Ends z) :
    (if (tailText u ++ z).head? == some 47 then cutPath (tailText u ++ z) else none) =
      ((written u).path.map fun p => (p, Params.render u.params ++ (headersText u.headers ++ z))) := by
  obtain ⟨afterZ, -⟩ := afterParam_headersText u.headers ends
  have afterPath : AfterParam (Params.render u.params ++ (headersText u.headers ++ z)) := by
    rw [paramsRender_eq]
    exact afterParam_paramsText _ afterZ
  rcases shaped.sipPath sip with empty | slash
  · have notSlash : ((tailText u ++ z).head? == some 47) = false := by
      rw [tailText, empty, List.nil_append, List.append_assoc]
      cases hz : Params.render u.params ++ (headersText u.headers ++ z) with
      | nil => rfl
      | cons c more =>
        rcases afterPath.head (c := c) (by rw [hz]; rfl) with rfl | rfl | rfl | rfl <;> rfl
    simp only [notSlash, Bool.false_eq_true, if_false]
    simp [written, empty]
  · have nonempty : u.path ≠ [] := fun empty => by rw [empty] at slash; cases slash
    have cut := cutPath_written nonempty shaped.pathChars afterPath
    obtain ⟨c, more, split⟩ := List.exists_cons_of_ne_nil nonempty
    rw [split, List.head?_cons, Option.some.injEq] at slash
    simp only [tailText, List.append_assoc, cut]
    simp [written, split, slash]

theorem tailText_of_path_none {u : Uri} (none : (written u).path = none) (z : Bytes) :
    tailText u ++ z = Params.render u.params ++ (headersText u.headers ++ z) := by
  have empty : u.path = [] := by simpa [written] using none
  simp [tailText, empty]

theorem serverStage_render {u : Uri} (shaped : u.Shaped) (rereadable : u.Rereadable) {z : Bytes}
    (ends : Ends z) :
    serverStage (u.scheme.map Scheme.name) (serverText u ++ (tailText u ++ z)) =
      .ok ((written u).userinfo, (written u).hostPort, (written u).path,
        Params.render u.params ++ (headersText u.headers ++ z)) := by
  have relowered : (u.scheme.map Scheme.name).map (fun n => (⟨Bytes.toLower n⟩ : Scheme)) =
      u.scheme := by
    rcases hsc : u.scheme with _ | sc
    · rfl
    · simp [(shaped.scheme sc hsc).2]
  unfold serverStage
  rw [relowered]
  by_cases sip : u.isSip = true
  · rw [← isSip, if_pos sip]
    have path := pathStage_render shaped sip ends
    by_cases zero : u.hostPort.isZero = true
    · obtain ⟨noScheme, noUser, slash⟩ := shaped.hostless sip zero
      have noServer : serverText u = [] := by simp [serverText, zero]
      have opens : (tailText u ++ z).head? = some 47 := by
        cases hp : u.path with
        | nil => rw [hp] at slash; cases slash
        | cons c more =>
          rw [hp, List.head?_cons, Option.some.injEq] at slash
          simp [tailText, hp, slash]
      have skip : ((u.scheme.map Scheme.name).isSome ||
          (serverText u ++ (tailText u ++ z)).head? != some 47) = false := by
        simp [noScheme, noServer, opens]
      rw [skip, if_neg Bool.false_ne_true, noServer, List.nil_append]
      simp only [bind, Except.bind, pure, Except.pure]
      rw [path]
      cases hp : (written u).path
      · simp [written, noUser, zero, tailText_of_path_none hp]
      · simp [written, noUser, zero]
    · have zero : u.hostPort.isZero = false := by simpa using zero
      have read : ((u.scheme.map Scheme.name).isSome ||
          (serverText u ++ (tailText u ++ z)).head? != some 47) = true := by
        rcases hsc : u.scheme with _ | sc
        · obtain ⟨c, first, other⟩ := head?_serverText shaped rereadable sip zero hsc
          obtain ⟨d, rest, written⟩ := List.exists_cons_of_ne_nil
            (fun empty : serverText u = [] => by rw [empty] at first; cases first)
          rw [written] at first ⊢
          simp only [List.head?_cons, Option.some.injEq] at first
          simp [first, other]
        · simp
      rw [if_pos read, cutServer_render shaped rereadable sip zero ends]
      simp only [bind, Except.bind, pure, Except.pure]
      rw [path]
      cases hp : (written u).path
      · simp [written, sip, zero, tailText_of_path_none hp]
      · simp [written, sip, zero]
  · have notSip : u.isSip = false := by simpa using sip
    obtain ⟨noUser, empty, nonempty⟩ := shaped.foreign notSip
    have noServer : serverText u = [] := by simp [serverText, notSip]
    obtain ⟨afterZ, -⟩ := afterParam_headersText u.headers ends
    have afterPath : AfterParam (Params.render u.params ++ (headersText u.headers ++ z)) := by
      rw [paramsRender_eq]
      exact afterParam_paramsText _ afterZ
    have cut := cutPath_written nonempty shaped.pathChars afterPath
    rw [← isSip, if_neg sip, noServer, List.nil_append, tailText]
    simp only [List.append_assoc]
    rw [cut]
    simp [written, noUser, notSip, nonempty, pure, Except.pure]

/-- A URI's text is cut back into the texts it was written from, up to what ends it. -/
theorem tokenize_render {u : Uri} (shaped : u.Shaped) (rereadable : u.Rereadable) {z : Bytes}
    (ends : Ends z) : tokenize (u.render ++ z) = .ok (z, written u) := by
  rw [tokenize, tokenizeWith_eq, schemeStage_render shaped rereadable ends]
  simp only [serverStage_render shaped rereadable ends, bind, Except.bind]
  exact extrasStage_render shaped rereadable ends

theorem HostPort.eq_empty_of_isZero {hp : HostPort} (zero : hp.isZero = true) : hp = HostPort.empty := by
  obtain ⟨host, port⟩ := hp
  cases host with
  | ip a => simp [HostPort.isZero, Host.isZero] at zero
  | name t =>
    simp only [HostPort.isZero, Host.isZero, Bool.and_eq_true, List.isEmpty_iff,
      Option.isNone_iff_eq_none] at zero
    obtain ⟨rfl, rfl⟩ := zero
    rfl

theorem ofToken_paramToken {p : Param} (read : ∃ tok, Param.ofToken tok = .ok p)
    (plain : Percent.decode p.name = p.name ∧ Lexical.isQuoted p.name = false ∧
      ∀ v ∈ p.value, Percent.decode v = v ∧ Lexical.isQuoted v = false) :
    Param.ofToken (paramToken p) = .ok p := by
  obtain ⟨tok, read⟩ := read
  obtain ⟨plainName, unquotedName, plainValues⟩ := plain
  have values : p.value.map Param.escape = p.value.map (Percent.encode Percent.isParamChar) := by
    cases hv : p.value with
    | none => rfl
    | some v => simp [escape_of_unquoted (plainValues v hv).2]
  rw [paramToken, escape_of_unquoted unquotedName, values]
  exact Param.ofToken_written read plainName fun v member => (plainValues v member).1

theorem ofTokens_paramToken {ps : List Param} (read : ∀ p ∈ ps, ∃ tok, Param.ofToken tok = .ok p)
    (plain : ∀ p ∈ ps, Percent.decode p.name = p.name ∧ Lexical.isQuoted p.name = false ∧
      ∀ v ∈ p.value, Percent.decode v = v ∧ Lexical.isQuoted v = false) :
    Params.ofTokens (ps.map paramToken) = .ok ps := by
  induction ps with
  | nil => rfl
  | cons p ps ih =>
    have first := ofToken_paramToken (read p List.mem_cons_self) (plain p List.mem_cons_self)
    have rest := ih (fun q member => read q (List.mem_cons_of_mem p member))
      (fun q member => plain q (List.mem_cons_of_mem p member))
    simp only [Params.ofTokens, List.map_cons, List.mapM_cons] at rest ⊢
    simp [first, rest, bind, Except.bind, pure, Except.pure]

/-- The texts a URI is written as read back as the URI. -/
theorem ofToken_written {u : Uri} (shaped : u.Shaped) (rereadable : u.Rereadable) :
    ofToken (written u) = .ok u := by
  have params := ofTokens_paramToken (fun p member => (shaped.params p member).2) rereadable.params
  have headers : (u.headers.map escapeHeader).map (fun h => (Percent.decode h.1, Percent.decode h.2)) =
      u.headers := by
    rw [List.map_map]
    calc u.headers.map ((fun h => (Percent.decode h.1, Percent.decode h.2)) ∘ escapeHeader)
        _ = u.headers.map id := List.map_congr_left fun h member => by
          obtain ⟨plainName, plainValue⟩ := rereadable.headers h member
          simp [escapeHeader, Percent.decode_encode, plainName, plainValue]
        _ = u.headers := List.map_id _
  have schemeRead : ∀ sc ∈ u.scheme, Scheme.ofToken sc.name = .ok sc := fun sc member =>
    Scheme.ofToken_name (shaped.scheme sc member).1 (shaped.scheme sc member).2
  have userRead : ∀ a ∈ u.userinfo, Userinfo.ofToken ⟨Percent.encode Percent.isUserChar a.user,
      a.password.map (Percent.encode Percent.isPasswordChar)⟩ = .ok a := fun a member =>
    Userinfo.ofToken_written (rereadable.user a member).1 (rereadable.user a member).2
  have hostRead : (u.isSip && !u.hostPort.isZero) = true →
      HostPort.ofToken ⟨u.hostPort.host.render, u.hostPort.port.map Bytes.ofNat⟩ = .ok u.hostPort := by
    intro server
    simp only [Bool.and_eq_true, Bool.not_eq_true'] at server
    obtain ⟨readable, fits⟩ := shaped.host server.2
    exact HostPort.ofToken_written readable fits
  have hostEmpty : (u.isSip && !u.hostPort.isZero) = false → u.hostPort = HostPort.empty := by
    intro none
    cases sip : u.isSip
    · exact (shaped.foreign sip).2.1
    · rw [sip, Bool.true_and, Bool.not_eq_false'] at none
      exact HostPort.eq_empty_of_isZero none
  have pathBack : (if u.path.isEmpty then none else some u.path).getD [] = u.path := by
    cases u.path <;> simp
  have check : (usesHost u.scheme && u.hostPort.isZero && u.path.head? != some 47) = false := by
    cases sip : usesHost u.scheme
    · rfl
    · cases zero : u.hostPort.isZero
      · rfl
      · obtain ⟨-, -, slash⟩ := shaped.hostless sip zero
        simp [slash]
  unfold ofToken
  simp only [written, pathBack]
  obtain ⟨scheme, userinfo, hostPort, path, ps, hs⟩ := u
  simp only [isSip] at params headers schemeRead userRead hostRead hostEmpty check ⊢
  by_cases server : (usesHost scheme && !hostPort.isZero) = true
  · simp only [server, if_true]
    have hostBack := hostRead server
    rcases scheme with _ | sc <;> rcases userinfo with _ | a <;>
      simp [hostBack, schemeRead, userRead, params, headers, check, Functor.map, Except.map, bind,
        Except.bind, pure, Except.pure]
  · have server : (usesHost scheme && !hostPort.isZero) = false := by simpa using server
    simp only [server, Bool.false_eq_true, if_false]
    have hostBack := hostEmpty server
    subst hostBack
    rcases scheme with _ | sc <;> rcases userinfo with _ | a <;>
      simp [schemeRead, userRead, params, headers, check, Functor.map, Except.map, bind,
        Except.bind, pure, Except.pure]

end Uri

end SipCodec