import SipCodec.Proofs.Uri.Parts

/-! What reading a URI guarantees of the URI it gives: the parts are in the shapes that writing
the URI again relies on (`Shaped`). -/

namespace SipCodec

namespace Grammar

namespace Within

variable {r' : Rule}

theorem altFirst_self (key : String) (rules : List Rule) :
    Within (Grammar.altFirst key rules) key (Grammar.altFirst key rules) := by
  intro s n rest matched m found
  obtain ⟨c, rfl, -⟩ := mem_altFirst matched
  rw [Node.find?_self] at found
  cases found
  exact ⟨s, rest, matched⟩

end Within

/-! ### Parts found inside the rules of a URI -/

/-- The text of a host as the grammar takes it: a run of host name characters, or the
characters of an IPv6 address in brackets. -/
def HostText (t : Bytes) : Prop :=
  (t ≠ [] ∧ ∀ c ∈ t, isHostnameChar c = true) ∨
    ∃ v, t = 91 :: (v ++ [93]) ∧ v ≠ [] ∧ ∀ c ∈ v, isIPv6Char c = true

theorem HostText.ne_nil {t : Bytes} (text : HostText t) : t ≠ [] := by
  rcases text with ⟨nonempty, -⟩ | ⟨v, rfl, -, -⟩
  · exact nonempty
  · simp

end Grammar

/-! ### Parts read from their texts -/

theorem Numeral.readDigits_le {base limit acc n : Nat} {s : Bytes} (start : acc ≤ limit)
    (read : Numeral.readDigits base limit acc s = .ok n) : n ≤ limit := by
  induction s generalizing acc with
  | nil =>
    cases read
    exact start
  | cons c rest ih =>
    simp only [Numeral.readDigits] at read
    split at read
    · cases read
    · split at read
      · cases read
      · split at read
        · cases read
        · exact ih (by omega) read

theorem Numeral.decimal_lt {bits n : Nat} {s : Bytes} (read : Numeral.decimal bits s = .ok n) :
    n < Nat.pow 2 bits := by
  unfold Numeral.decimal Numeral.parseUnsigned at read
  split at read
  · rename_i m parsed
    cases read
    split at parsed
    · cases parsed
    · have := Numeral.readDigits_le (Nat.zero_le _) parsed
      have positive : 0 < Nat.pow 2 bits := Nat.two_pow_pos bits
      omega
  · cases read

theorem Percent.decode_eq_nil_iff (s : Bytes) : Percent.decode s = [] ↔ s = [] := by
  constructor
  · intro empty
    cases s with
    | nil => rfl
    | cons c rest =>
      unfold Percent.decode at empty
      split at empty
      · rename_i same
        cases same
      · split at empty <;> cases empty
      · cases empty
  · rintro rfl
    rfl

theorem Userinfo.unescape_eq_decode {s v : Bytes} (read : Userinfo.unescape s = .ok v) :
    v = Percent.decode s := by
  unfold Userinfo.unescape Percent.decodeStrict at read
  by_cases escaped : Percent.wellEscaped s = true
  · simp only [escaped, if_true, Except.ok.injEq] at read
    exact read.symm
  · simp [escaped] at read

theorem Userinfo.user_of_ofToken {t : Userinfo.Token} {a : Userinfo} (read : Userinfo.ofToken t = .ok a) :
    Userinfo.unescape t.user = .ok a.user := by
  unfold Userinfo.ofToken at read
  cases hUser : Userinfo.unescape t.user with
  | error e => simp [hUser, bind, Except.bind] at read
  | ok user =>
    simp only [hUser, bind, Except.bind] at read
    cases hPassword : t.password with
    | none =>
      simp only [hPassword, pure, Except.pure, Except.ok.injEq] at read
      rw [← read]
    | some p =>
      cases hp : Userinfo.unescape p with
      | error e => simp [hPassword, hp] at read
      | ok pw =>
        simp only [hPassword, hp, pure, Except.pure, Except.ok.injEq] at read
        rw [← read]

theorem ParamKind.lit_name_ne_nil (k : ParamKind) : lit k.name ≠ [] := by
  cases k <;> simp only [ParamKind.name, lit_eq_data] <;> decide

theorem Param.name_of_ofToken {tok : Param.Token} {p : Param} (read : Param.ofToken tok = .ok p) :
    ∃ name, Userinfo.unescape tok.name = .ok name ∧
      p.name = if ParamKind.ofName name = .other then name else Bytes.toLower name := by
  unfold Param.ofToken at read
  cases hName : Userinfo.unescape tok.name with
  | error e => simp [hName, bind, Except.bind] at read
  | ok name =>
    refine ⟨name, rfl, ?_⟩
    simp only [hName, bind, Except.bind] at read
    by_cases other : ParamKind.ofName name = .other
    · simp only [other, beq_self_eq_true, if_true, pure, Except.pure, Except.ok.injEq] at read
      rw [← read, if_pos other]
    · have notOther : (ParamKind.ofName name == .other) = false := by simpa using other
      simp only [notOther, Bool.false_eq_true, if_false] at read
      rw [if_neg other]
      cases hValue : tok.value with
      | none =>
        simp only [hValue] at read
        by_cases valueless : (ParamKind.ofName name == .lr || ParamKind.ofName name == .rport) = true
        · simp only [valueless, if_true, pure, Except.pure, Except.ok.injEq] at read
          rw [← read]
        · simp [valueless, throw, throwThe, MonadExceptOf.throw] at read
      | some raw =>
        simp only [hValue] at read
        cases hRaw : Userinfo.unescape (Lexical.unquote raw) with
        | error e => simp [hRaw] at read
        | ok v =>
          cases hCheck : Param.checkValue (ParamKind.ofName name) v with
          | error e => simp [hRaw, hCheck] at read
          | ok u =>
            simp only [hRaw, hCheck, pure, Except.pure, Except.ok.injEq] at read
            rw [← read]

theorem Param.name_ne_nil_of_ofToken {tok : Param.Token} {p : Param} (read : Param.ofToken tok = .ok p)
    (named : tok.name ≠ []) : p.name ≠ [] := by
  obtain ⟨name, unescaped, same⟩ := Param.name_of_ofToken read
  rw [same]
  split
  · rw [Userinfo.unescape_eq_decode unescaped]
    exact (Percent.decode_eq_nil_iff _).not.2 named
  · rename_i special
    rw [ParamKind.toLower_of_ofName special]
    exact ParamKind.lit_name_ne_nil _

theorem Outcome.mem_mapM {α β : Type} {f : α → Outcome β} {xs : List α} {ys : List β}
    (mapped : xs.mapM f = .ok ys) {y : β} (member : y ∈ ys) : ∃ x ∈ xs, f x = .ok y := by
  induction xs generalizing ys with
  | nil =>
    cases mapped
    cases member
  | cons x xs ih =>
    rw [List.mapM_cons] at mapped
    obtain ⟨first, read, rest⟩ := Outcome.bind_eq_ok mapped
    obtain ⟨others, readRest, done⟩ := Outcome.bind_eq_ok rest
    cases done
    rcases List.mem_cons.1 member with rfl | later
    · exact ⟨x, List.mem_cons_self, read⟩
    · obtain ⟨x', inRest, read'⟩ := ih readRest later
      exact ⟨x', List.mem_cons_of_mem x inRest, read'⟩

namespace Host

theorem Readable.isZero {h : Host} (readable : h.Readable) : h.isZero = false := by
  cases h with
  | ip a => rfl
  | name n => simpa [Host.isZero] using readable.1

theorem head?_ne_of_hostnameChars {t : Bytes} (chars : ∀ c ∈ t, Grammar.isHostnameChar c = true) :
    t.head? ≠ some 91 := by
  intro same
  obtain ⟨more, rfl⟩ := List.head?_eq_some_iff.1 same
  exact absurd (chars 91 List.mem_cons_self) (by decide)

theorem ofText_readable {t : Bytes} (text : Grammar.HostText t)
    (bracketed : t.head? = some 91 → (ofText t).isIp = true) : (ofText t).Readable := by
  have noPercent : (37 : UInt8) ∉ unbracket t := by
    rcases text with ⟨-, chars⟩ | ⟨v, rfl, -, chars⟩
    · rw [unbracket_of_head (head?_ne_of_hostnameChars chars)]
      exact fun member => absurd (chars 37 member) (by decide)
    · rw [unbracket_wrap]
      exact fun member => absurd (chars 37 member) (by decide)
  rw [ofText_eq] at bracketed ⊢
  cases read : IpAddr.read? (unbracket t) with
  | some a =>
    refine ⟨IpAddr.unmap_valid (IpAddr.read?_valid read), IpAddr.unmap_unmap a, ?_⟩
    rintro gs zone same
    rcases IpAddr.unmap_cases a with kept | ⟨w, x, y, z, quad⟩
    · rw [kept] at same
      subst same
      exact IpAddr.read?_zone read noPercent
    · rw [quad] at same
      cases same
  | none =>
    rw [read] at bracketed
    rcases text with ⟨nonempty, chars⟩ | ⟨v, rfl, -, -⟩
    · rw [unbracket_of_head (head?_ne_of_hostnameChars chars)] at read
      exact ⟨nonempty, chars, read⟩
    · cases bracketed rfl

end Host

theorem HostPort.ofToken_readable {tok : HostPort.Token} {hp : HostPort}
    (read : HostPort.ofToken tok = .ok hp) (text : Grammar.HostText tok.host) :
    hp.host.Readable ∧ ∀ p ∈ hp.port, p < Nat.pow 2 16 := by
  unfold HostPort.ofToken at read
  have nonempty : tok.host.isEmpty = false := by simpa using text.ne_nil
  by_cases bad : (tok.host.head? == some 91 && !(Host.ofText tok.host).isIp) = true
  · simp [nonempty, bad, throw, throwThe, MonadExceptOf.throw, bind, Except.bind] at read
  have bracketed : tok.host.head? = some 91 → (Host.ofText tok.host).isIp = true := by
    intro open_
    simpa [open_] using bad
  simp only [nonempty, bad, Bool.false_eq_true, if_false] at read
  cases hPort : tok.port with
  | none =>
    simp only [hPort, pure, Except.pure, Except.ok.injEq] at read
    subst read
    exact ⟨Host.ofText_readable text bracketed, by simp⟩
  | some p =>
    cases hd : Numeral.decimal 16 p with
    | error e => simp [hPort, hd, bind, Except.bind] at read
    | ok n =>
      simp only [hPort, hd, bind, Except.bind, pure, Except.pure, Except.ok.injEq] at read
      subst read
      exact ⟨Host.ofText_readable text bracketed, by simpa using Numeral.decimal_lt hd⟩

namespace Uri

open Grammar

/-! ### Cutting a text into the texts of a URI's parts -/

/-- The reader's first stage: a scheme cut at the front, else no scheme and the whole text. -/
def schemeStage (s : Bytes) : Option Bytes × Bytes :=
  match Scheme.tokenize s with
  | .ok (name, r) => if startsWithScheme s name r then (some name, r) else (none, s)
  | .error _ => (none, s)

/-- The reader's second stage: the user part, host and path after the scheme. -/
def serverStage (scheme : Option Bytes) (rest : Bytes) :
    Outcome (Option Userinfo.Token × Option HostPort.Token × Option Bytes × Bytes) :=
  if usesHost (scheme.map fun n => ⟨Bytes.toLower n⟩) then do
    let (userinfo, hostPort, rest) ←
      if scheme.isSome || rest.head? != some 47 then do
        let (u, hp, r) ← cutServer rest
        pure (u, some hp, r)
      else pure (none, none, rest)
    match (if rest.head? == some 47 then cutPath rest else none) with
    | some (p, r) => pure (userinfo, hostPort, some p, r)
    | none => pure (userinfo, hostPort, none, rest)
  else
    match cutPath rest with
    | some (p, r) => pure (none, none, some p, r)
    | none => throw (.tokenizeText "empty URI")

/-- The reader's last stage: parameters and headers after the path, when they are read. -/
def extrasStage (withParams : Bool) (tok : Token) (rest : Bytes) : Outcome (Bytes × Token) := do
  if !withParams then return (rest, tok)
  let (rest, params) ← Params.tokenizeUri rest
  match rest with
  | 63 :: more =>
    let (rest, headers) ← tokenizeHeaders more
    return (rest, { tok with params, headers })
  | _ => return (rest, { tok with params })

theorem tokenizeWith_eq (w : Bool) (s : Bytes) :
    tokenizeWith w s = serverStage (schemeStage s).1 (schemeStage s).2 >>= fun x =>
      extrasStage w ⟨(schemeStage s).1, x.1, x.2.1, x.2.2.1, [], []⟩ x.2.2.2 := by
  unfold tokenizeWith
  split
  rename_i scheme rest stage
  have named : schemeStage s = (scheme, rest) := stage
  rw [named]
  unfold serverStage
  dsimp only
  split
  · split
    · cases cutServer rest with
      | error e => rfl
      | ok v =>
        obtain ⟨u, hp, r⟩ := v
        dsimp only [bind, Except.bind, pure, Except.pure]
        generalize (if (List.head? r == some 47) = true then cutPath r else none) = found
        rcases found with _ | ⟨p, r'⟩ <;> rfl
    · dsimp only [bind, Except.bind, pure, Except.pure]
      generalize (if (List.head? rest == some 47) = true then cutPath rest else none) = found
      rcases found with _ | ⟨p, r'⟩ <;> rfl
  · generalize cutPath rest = found
    rcases found with _ | ⟨p, r'⟩ <;> rfl

/-- What the reader's cutting of a text into the texts of a URI's parts guarantees of them. -/
structure Cut (s : Bytes) (tok : Token) : Prop where
  user : ∀ a ∈ tok.userinfo, a.user ≠ []
  host : ∀ hp ∈ tok.hostPort, HostText hp.host ∧
    ∀ p ∈ hp.port, p ≠ [] ∧ ∀ c ∈ p, Octet.isDigit c = true
  path : ∀ p ∈ tok.path, p ≠ [] ∧ ∀ c ∈ p, isPathChar c = true
  params : ∀ t ∈ tok.params, t.name ≠ []
  headers : ∀ h ∈ tok.headers, h.1 ≠ []
  /-- a URI that names a host but has none has neither scheme nor user part -/
  hostless : usesHost (tok.scheme.map fun n => ⟨Bytes.toLower n⟩) = true → tok.hostPort = none →
    tok.scheme = none ∧ tok.userinfo = none
  /-- the path of a URI that names a host opens with `/` -/
  sipPath : usesHost (tok.scheme.map fun n => ⟨Bytes.toLower n⟩) = true →
    ∀ p ∈ tok.path, p.head? = some 47
  /-- a URI of another scheme is its path -/
  foreign : usesHost (tok.scheme.map fun n => ⟨Bytes.toLower n⟩) = false →
    tok.userinfo = none ∧ tok.hostPort = none ∧ tok.path ≠ none
  /-- a scheme is cut at the front, and a scheme of another kind right before its path -/
  scheme : ∀ name ∈ tok.scheme, ∃ r, s = name ++ 58 :: r ∧ Scheme.tokenize s = .ok (name, r) ∧
    startsWithScheme s name r = true ∧
    (usesHost (some ⟨Bytes.toLower name⟩) = false → ∃ p rest, tok.path = some p ∧ r = p ++ rest)

/-- What reading the texts of a URI's parts gives, part by part. -/
structure Token.ReadsAs (tok : Token) (u : Uri) : Prop where
  scheme : u.scheme = tok.scheme.map fun n => ⟨Bytes.toLower n⟩
  schemeNamed : ∀ n ∈ tok.scheme, Scheme.isName n = true
  userinfo : (tok.userinfo = none → u.userinfo = none) ∧
    ∀ a ∈ tok.userinfo, ∃ ui, Userinfo.ofToken a = .ok ui ∧ u.userinfo = some ui
  hostPort : (tok.hostPort = none → u.hostPort = HostPort.empty) ∧
    ∀ hp ∈ tok.hostPort, HostPort.ofToken hp = .ok u.hostPort
  path : u.path = tok.path.getD []
  hostRequired : (usesHost u.scheme && u.hostPort.isZero && u.path.head? != some 47) = false
  params : Params.ofTokens tok.params = .ok u.params
  headers : u.headers = tok.headers.map fun h => (Percent.decode h.1, Percent.decode h.2)

/-- What the reader guarantees of every URI it gives: the facts writing a URI relies on to be
read back. -/
structure Shaped (u : Uri) : Prop where
  scheme : ∀ sc ∈ u.scheme, Scheme.isName sc.name = true ∧ Bytes.toLower sc.name = sc.name
  unknown : ∀ sc ∈ u.scheme, Scheme.isKnown sc = false →
    (∀ c, u.path.head? = some c → Octet.isDigit c = false) ∧ ¬ PasswordFront u.path
  foreign : u.isSip = false → u.userinfo = none ∧ u.hostPort = HostPort.empty ∧ u.path ≠ []
  hostless : u.isSip = true → u.hostPort.isZero = true →
    u.scheme = none ∧ u.userinfo = none ∧ u.path.head? = some 47
  host : u.hostPort.isZero = false →
    u.hostPort.host.Readable ∧ ∀ p ∈ u.hostPort.port, p < Nat.pow 2 16
  user : ∀ a ∈ u.userinfo, a.user ≠ []
  pathChars : ∀ c ∈ u.path, isPathChar c = true
  sipPath : u.isSip = true → u.path = [] ∨ u.path.head? = some 47
  params : ∀ p ∈ u.params, p.name ≠ [] ∧ ∃ tok, Param.ofToken tok = .ok p
  headers : ∀ h ∈ u.headers, h.1 ≠ []

theorem known_of_usesHost {sc : Scheme} (sipLike : usesHost (some sc) = true) :
    Scheme.isKnown sc = true := by
  simp only [usesHost, Bool.or_eq_true, beq_iff_eq] at sipLike
  rcases sipLike with rfl | rfl
  all_goals simp only [Scheme.isKnown, Scheme.sip, Scheme.sips, lit_eq_data]; decide

theorem isKnown_toLower {n : Bytes} (named : Scheme.isName n = true) :
    Scheme.isKnown ⟨Bytes.toLower n⟩ = Scheme.isKnown ⟨n⟩ := by
  simp only [Scheme.isKnown, Scheme.toLower_of_isName named, (Scheme.lowerAscii_isName named).2]

theorem matchRule_toBool_of_mem {r : Rule} {s : Bytes} {n : Node} {rest : Bytes} (input : s ≠ [])
    (matched : (n, rest) ∈ r s) (nonempty : n.text ≠ []) : (matchRule r s).toBool = true := by
  obtain ⟨⟨best, after⟩, chosen⟩ := Option.ne_none_iff_exists'.1
    (fun none => List.ne_nil_of_mem matched (longest_eq_none_iff.1 none))
  have longer := length_le_of_longest chosen matched
  have found : matchRule r s = .ok best := matchRule_eq_ok_iff.2 ⟨input, ⟨after, chosen⟩, fun empty => by
    simp only [empty, List.length_nil, Nat.le_zero, List.length_eq_zero_iff] at longer
    exact nonempty longer⟩
  rw [found]
  rfl

theorem matchRule_toBool_of_nil {r : Rule} {s : Bytes} (none : r s = []) :
    (matchRule r s).toBool = false := by
  unfold matchRule
  split
  · rfl
  · simp only [none, longest]
    rfl

theorem matchRule_userinfo_of_front {s : Bytes} (front : UserFront s) :
    (matchRule Grammar.userinfo s).toBool = true := by
  obtain ⟨x, y, rfl, user⟩ := front
  obtain ⟨n, matched, text⟩ := userinfo_of_userText user y
  exact matchRule_toBool_of_mem (by simp) matched (by simp [text])

theorem startsWithScheme_unknown {s name rest : Bytes} (starts : startsWithScheme s name rest = true)
    (unknown : Scheme.isKnown ⟨name⟩ = false) :
    (∀ c, rest.head? = some c → Octet.isDigit c = false) ∧ (matchRule Grammar.userinfo s).toBool = false := by
  unfold startsWithScheme at starts
  rw [unknown, Bool.false_or] at starts
  cases rest with
  | nil => cases starts
  | cons c more =>
    simp only [Bool.and_eq_true, Bool.not_eq_true'] at starts
    exact ⟨fun d first => by cases first; exact starts.1, starts.2⟩

namespace Token.ReadsAs

variable {s : Bytes} {tok : Token} {u : Uri}

theorem isSip_eq (reads : tok.ReadsAs u) :
    u.isSip = usesHost (tok.scheme.map fun n => ⟨Bytes.toLower n⟩) := by
  rw [isSip, reads.scheme]

theorem scheme_lower (reads : tok.ReadsAs u) :
    ∀ sc ∈ u.scheme, Scheme.isName sc.name = true ∧ Bytes.toLower sc.name = sc.name := by
  intro sc member
  rw [reads.scheme] at member
  obtain ⟨n, inTok, rfl⟩ := Option.map_eq_some_iff.1 member
  rw [Scheme.toLower_of_isName (reads.schemeNamed n inTok)]
  exact Scheme.lowerAscii_isName (reads.schemeNamed n inTok)

theorem unknown_path (reads : tok.ReadsAs u) (cut : Cut s tok) :
    ∀ sc ∈ u.scheme, Scheme.isKnown sc = false →
      (∀ c, u.path.head? = some c → Octet.isDigit c = false) ∧ ¬ PasswordFront u.path := by
  intro sc member unknown
  rw [reads.scheme] at member
  obtain ⟨n, inTok, rfl⟩ := Option.map_eq_some_iff.1 member
  have named := reads.schemeNamed n inTok
  obtain ⟨r, split, -, starts, pathCut⟩ := cut.scheme n inTok
  have foreign : usesHost (some ⟨Bytes.toLower n⟩) = false := by
    cases h : usesHost (some ⟨Bytes.toLower n⟩)
    · rfl
    · rw [known_of_usesHost h] at unknown
      cases unknown
  obtain ⟨p, more, tokPath, rfl⟩ := pathCut foreign
  have path : u.path = p := by rw [reads.path, tokPath]; rfl
  have nonempty := (cut.path p tokPath).1
  obtain ⟨digitFree, noUser⟩ :=
    startsWithScheme_unknown starts (by rwa [isKnown_toLower named] at unknown)
  rw [path]
  refine ⟨fun d first => digitFree d ?_, fun front => ?_⟩
  · rwa [List.head?_append_of_ne_nil _ nonempty]
  · obtain ⟨pw, t, rfl, escaped⟩ := front
    have userFront : UserFront (n ++ 58 :: ((pw ++ 64 :: t) ++ more)) :=
      (userFront_name_colon named).2 ⟨pw, t ++ more, by simp, escaped⟩
    rw [split, matchRule_userinfo_of_front userFront] at noUser
    cases noUser

theorem foreign_parts (reads : tok.ReadsAs u) (cut : Cut s tok) (notSip : u.isSip = false) :
    u.userinfo = none ∧ u.hostPort = HostPort.empty ∧ u.path ≠ [] := by
  rw [reads.isSip_eq] at notSip
  obtain ⟨noUser, noHost, hasPath⟩ := cut.foreign notSip
  obtain ⟨p, tokPath⟩ := Option.ne_none_iff_exists'.1 hasPath
  refine ⟨reads.userinfo.1 noUser, reads.hostPort.1 noHost, ?_⟩
  rw [reads.path, tokPath]
  exact (cut.path p tokPath).1

theorem host_readable (reads : tok.ReadsAs u) (cut : Cut s tok) :
    ∀ hp ∈ tok.hostPort, u.hostPort.host.Readable ∧ ∀ p ∈ u.hostPort.port, p < Nat.pow 2 16 :=
  fun hp member => HostPort.ofToken_readable (reads.hostPort.2 hp member) (cut.host hp member).1

theorem hostPort_eq_none (reads : tok.ReadsAs u) (cut : Cut s tok)
    (zero : u.hostPort.isZero = true) : tok.hostPort = none := by
  cases h : tok.hostPort with
  | none => rfl
  | some hp =>
    have named := (reads.host_readable cut hp h).1.isZero
    simp [HostPort.isZero, named] at zero

theorem hostless_path (reads : tok.ReadsAs u) (cut : Cut s tok) (isSip : u.isSip = true)
    (zero : u.hostPort.isZero = true) :
    u.scheme = none ∧ u.userinfo = none ∧ u.path.head? = some 47 := by
  obtain ⟨noScheme, noUser⟩ :=
    cut.hostless (reads.isSip_eq ▸ isSip) (reads.hostPort_eq_none cut zero)
  have check := reads.hostRequired
  rw [show usesHost u.scheme = true from isSip, zero] at check
  refine ⟨by rw [reads.scheme, noScheme]; rfl, reads.userinfo.1 noUser, ?_⟩
  simpa using check

theorem host_of_nonzero (reads : tok.ReadsAs u) (cut : Cut s tok)
    (nonzero : u.hostPort.isZero = false) :
    u.hostPort.host.Readable ∧ ∀ p ∈ u.hostPort.port, p < Nat.pow 2 16 := by
  cases h : tok.hostPort with
  | none =>
    rw [reads.hostPort.1 h] at nonzero
    cases nonzero
  | some hp => exact reads.host_readable cut hp h

theorem user_ne_nil (reads : tok.ReadsAs u) (cut : Cut s tok) : ∀ a ∈ u.userinfo, a.user ≠ [] := by
  intro a member
  cases h : tok.userinfo with
  | none =>
    rw [reads.userinfo.1 h] at member
    cases member
  | some t =>
    obtain ⟨ui, userRead, same⟩ := reads.userinfo.2 t h
    rw [same] at member
    cases member
    rw [Userinfo.unescape_eq_decode (Userinfo.user_of_ofToken userRead)]
    exact (Percent.decode_eq_nil_iff _).not.2 (cut.user t h)

theorem pathChars (reads : tok.ReadsAs u) (cut : Cut s tok) : ∀ c ∈ u.path, isPathChar c = true := by
  intro d member
  rw [reads.path] at member
  cases h : tok.path with
  | none =>
    rw [h] at member
    cases member
  | some p =>
    rw [h] at member
    exact (cut.path p h).2 d member

theorem sipPath (reads : tok.ReadsAs u) (cut : Cut s tok) (isSip : u.isSip = true) :
    u.path = [] ∨ u.path.head? = some 47 := by
  rw [reads.path]
  cases h : tok.path with
  | none => exact .inl rfl
  | some p => exact .inr (cut.sipPath (reads.isSip_eq ▸ isSip) p h)

theorem params_named (reads : tok.ReadsAs u) (cut : Cut s tok) :
    ∀ p ∈ u.params, p.name ≠ [] ∧ ∃ t, Param.ofToken t = .ok p := by
  intro p member
  obtain ⟨t, inToks, paramRead⟩ := Outcome.mem_mapM reads.params member
  exact ⟨Param.name_ne_nil_of_ofToken paramRead (cut.params t inToks), t, paramRead⟩

theorem headers_named (reads : tok.ReadsAs u) (cut : Cut s tok) : ∀ h ∈ u.headers, h.1 ≠ [] := by
  intro h member
  rw [reads.headers] at member
  obtain ⟨t, inToks, rfl⟩ := List.mem_map.1 member
  exact (Percent.decode_eq_nil_iff _).not.2 (cut.headers t inToks)

theorem shaped (reads : tok.ReadsAs u) (cut : Cut s tok) : u.Shaped :=
  ⟨reads.scheme_lower, reads.unknown_path cut, reads.foreign_parts cut, reads.hostless_path cut,
    reads.host_of_nonzero cut, reads.user_ne_nil cut, reads.pathChars cut, reads.sipPath cut,
    reads.params_named cut, reads.headers_named cut⟩

end Token.ReadsAs

end Uri

end SipCodec
