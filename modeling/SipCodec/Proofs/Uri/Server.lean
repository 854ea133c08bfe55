import SipCodec.Proofs.Grammar.Written
import SipCodec.Proofs.Net.AddressText
import SipCodec.Uri.Reader

/-! The server part of a URI, a user part and a host with its port: a written server part is cut
back into the texts it was written from. -/

namespace SipCodec

namespace Grammar

/-- The text of a password after its colon, nothing when there is no password. -/
def passwordText : Option Bytes → Bytes
  | some pw => 58 :: pw
  | none => []

/-- A user part before its `@`: a user name of user characters and escapes, then the password
text. -/
def UserText (x : Bytes) : Prop :=
  ∃ user, Escaped Percent.isUserChar user ∧ user ≠ [] ∧
    ∃ pw : Option Bytes, (∀ p ∈ pw, Escaped Percent.isPasswordChar p) ∧ x = user ++ passwordText pw

/-- A text that starts with a user part and its `@`. -/
def UserFront (w : Bytes) : Prop := ∃ x y, w = x ++ 64 :: y ∧ UserText x

/-- What may follow a URI: nothing, the `>` that closes it, or the blank after it in a request
line. -/
def Ends (t : Bytes) : Prop := t = [] ∨ ∃ c more, t = c :: more ∧ (c = 62 ∨ c = 32)

theorem ne_of_escaped {ok : UInt8 → Bool} {c : UInt8} (outside : ok c = false) (plain : c ≠ 37)
    (digit : Octet.isHex c = false) {t : Bytes} (written : Escaped ok t) : c ∉ t := fun member => by
  rcases written.mem member with kept | percent | hex
  · rw [outside] at kept
    cases kept
  · exact plain percent
  · rw [digit] at hex
    cases hex

theorem UserText.not_mem {x : Bytes} (user : UserText x) : 64 ∉ x ∧ 62 ∉ x ∧ 32 ∉ x := by
  obtain ⟨name, written, -, pw, password, rfl⟩ := user
  have inName := fun c (outside : Percent.isUserChar c = false) (plain : c ≠ 37)
    (digit : Octet.isHex c = false) => ne_of_escaped outside plain digit written
  cases pw with
  | none =>
    simpa [passwordText] using ⟨inName 64 (by decide) (by decide) (by decide),
      inName 62 (by decide) (by decide) (by decide), inName 32 (by decide) (by decide) (by decide)⟩
  | some p =>
    have inPassword := fun c (outside : Percent.isPasswordChar c = false) (plain : c ≠ 37)
      (digit : Octet.isHex c = false) => ne_of_escaped outside plain digit (password p rfl)
    simpa [passwordText] using ⟨⟨inName 64 (by decide) (by decide) (by decide),
      inPassword 64 (by decide) (by decide) (by decide)⟩, ⟨inName 62 (by decide) (by decide) (by decide),
      inPassword 62 (by decide) (by decide) (by decide)⟩, inName 32 (by decide) (by decide) (by decide),
      inPassword 32 (by decide) (by decide) (by decide)⟩

/-! ### The user part on written text -/

theorem userinfo_written {user : Bytes} {pw : Option Bytes}
    (written : Escaped Percent.isUserChar user) (nonempty : user ≠ [])
    (password : ∀ p ∈ pw, Escaped Percent.isPasswordChar p) (rest : Bytes) :
    ∃ n, userinfo (user ++ passwordText pw ++ 64 :: rest) = [(n, rest)] ∧
      n.text = user ++ passwordText pw ++ [64] ∧ Userinfo.Token.ofNode n = ⟨user, pw⟩ ∧
      n.find? "userinfo" = some n ∧ n.find? "hostport" = none := by
  have passwordStops : escapedStep Percent.isPasswordChar (64 :: rest) = 0 :=
    escapedStep_stop (by decide) (by decide) rest
  unfold userinfo
  cases pw with
  | none =>
    simp only [passwordText, List.append_nil]
    simp [concat_eq, chains, Grammar.optional, octet_cons (c := 58) (by decide),
      octet_cons (c := 64) (by decide), escapedRun_written (by decide) written nonempty
        (escapedStep_stop (c := 64) (by decide) (by decide) rest)]
    simp [Node.text, Userinfo.Token.ofNode, Node.find?, Node.findIn?]
  | some p =>
    have written' := password p rfl
    simp only [passwordText, List.append_assoc, List.cons_append]
    rcases p with _ | ⟨c, p⟩
    · simp [concat_eq, chains, Grammar.optional, octet_cons (c := 58) (by decide),
        octet_cons (c := 64) (by decide), escapedRun_written (by decide) written nonempty
          (escapedStep_stop (c := 58) (by decide) (by decide) (64 :: rest)),
        escapedRun_stopped passwordStops]
      simp [Node.text, Userinfo.Token.ofNode, Node.find?, Node.findIn?]
    · have first : c ≠ 64 := fun same => ne_of_escaped (c := 64) (by decide) (by decide)
        (by decide) written' (same ▸ List.mem_cons_self)
      have passwordRun : escapedRun "password" Percent.isPasswordChar (c :: (p ++ 64 :: rest)) =
          [(.mk "password" (c :: p) [], 64 :: rest)] :=
        escapedRun_written (by decide) written' (List.cons_ne_nil c p) passwordStops "password"
      simp [concat_eq, chains, Grammar.optional, octet_cons (c := 58) (by decide),
        octet_cons (c := 64) (by decide), escapedRun_written (by decide) written nonempty
          (escapedStep_stop (c := 58) (by decide) (by decide) (c :: (p ++ 64 :: rest))),
        passwordRun, first]
      simp [Node.text, Userinfo.Token.ofNode, Node.find?, Node.findIn?]

theorem userinfo_of_userText {x : Bytes} (user : UserText x) (rest : Bytes) :
    ∃ n, (n, rest) ∈ userinfo (x ++ 64 :: rest) ∧ n.text = x ++ [64] := by
  obtain ⟨name, written, nonempty, pw, password, rfl⟩ := user
  obtain ⟨n, found, text, -⟩ := userinfo_written written nonempty password rest
  exact ⟨n, by rw [found]; exact List.mem_singleton_self _, text⟩

theorem mem_userinfo {s : Bytes} {n : Node} {rest : Bytes} (matched : (n, rest) ∈ userinfo s) :
    ∃ x, UserText x ∧ s = x ++ 64 :: rest := by
  unfold userinfo at matched
  obtain ⟨nodes, chain, -⟩ := mem_concat.1 matched
  obtain ⟨user, mid, -, userMatch, ⟨pwNode, mid', -, pwMatch, ⟨atNode, after, -, atMatch, ⟨-, rfl⟩, -⟩,
    -⟩, -⟩ := chain
  obtain ⟨written, nonempty⟩ := escaped_of_mem_escapedRun userMatch
  have front := Consumes.escapedRun _ _ s user mid userMatch
  obtain ⟨rfl, -⟩ := (mem_octet_mark (by decide) (by decide)).1 atMatch
  rcases mem_optional.1 pwMatch with ⟨-, rfl⟩ | ⟨m, inner, -⟩
  · exact ⟨user.text, ⟨user.text, written, nonempty, none, by simp, by simp [passwordText]⟩, front⟩
  · obtain ⟨parts, pchain, -⟩ := mem_concat.1 inner
    obtain ⟨colon, mid2, -, colonMatch, ⟨pwOpt, mid3, -, pwOptMatch, ⟨-, rfl⟩, -⟩, -⟩ := pchain
    obtain ⟨rfl, -⟩ := (mem_octet_mark (by decide) (by decide)).1 colonMatch
    rcases mem_optional.1 pwOptMatch with ⟨-, rfl⟩ | ⟨pw, pwRun, -⟩
    · refine ⟨user.text ++ [58], ⟨user.text, written, nonempty, some [], by simp [Escaped.nil],
        by simp [passwordText]⟩, by simp [front]⟩
    · have covers := Consumes.escapedRun _ _ _ pw _ pwRun
      refine ⟨user.text ++ 58 :: pw.text, ⟨user.text, written, nonempty, some pw.text,
        by simpa using (escaped_of_mem_escapedRun pwRun).1, rfl⟩, ?_⟩
      rw [front, covers]
      simp

theorem front_of_at {w m t x rest : Bytes} (split : w ++ (m ++ t) = x ++ 64 :: rest)
    (closeFree : 62 ∉ x ∧ 32 ∉ x) (noAt : 64 ∉ m) (ends : Ends t) : ∃ y, w = x ++ 64 :: y := by
  rw [List.append_eq_append_iff] at split
  rcases split with ⟨a, rfl, later⟩ | ⟨b, rfl, first⟩
  · rw [List.append_eq_append_iff] at later
    rcases later with ⟨a', rfl, tail⟩ | ⟨b', rfl, mid⟩
    · rcases ends with rfl | ⟨c, more, rfl, mark⟩
      · simp at tail
      · rcases a' with _ | ⟨e, a'⟩
        · rcases mark with rfl | rfl <;> simp at tail
        · simp only [List.cons_append, List.cons.injEq] at tail
          obtain ⟨rfl, -⟩ := tail
          rcases mark with rfl | rfl
          · exact absurd (by simp) closeFree.1
          · exact absurd (by simp) closeFree.2
    · rcases b' with _ | ⟨e, b'⟩
      · rcases ends with rfl | ⟨c, more, rfl, rfl | rfl⟩ <;> simp at mid
      · simp only [List.cons_append, List.cons.injEq] at mid
        obtain ⟨rfl, -⟩ := mid
        exact absurd (by simp) noAt
  · rcases b with _ | ⟨e, b⟩
    · rw [List.nil_append, List.cons_eq_append_iff] at first
      rcases first with ⟨rfl, same⟩ | ⟨m', rfl, -⟩
      · rcases ends with rfl | ⟨c, more, rfl, rfl | rfl⟩ <;> simp at same
      · exact absurd (by simp) noAt
    · simp only [List.cons_append, List.cons.injEq] at first
      obtain ⟨rfl, -⟩ := first
      exact ⟨b, by simp⟩

theorem userinfo_eq_nil {w m t : Bytes} (noFront : ¬ UserFront w) (noAt : 64 ∉ m)
    (ends : Ends t) : userinfo (w ++ (m ++ t)) = [] := by
  apply List.eq_nil_iff_forall_not_mem.2
  rintro ⟨n, rest⟩ matched
  obtain ⟨x, user, split⟩ := mem_userinfo matched
  obtain ⟨y, front⟩ := front_of_at split user.not_mem.2 noAt ends
  exact noFront ⟨x, y, front, user⟩

end Grammar

/-! ### Hosts read back -/

namespace Host

/-- A host as the reader gives it: a name of host name characters that does not read as an
address, or an address in range that unmapping keeps, without a zone. -/
def Readable : Host → Prop
  | .name n => n ≠ [] ∧ (∀ c ∈ n, Grammar.isHostnameChar c = true) ∧ IpAddr.read? n = none
  | .ip a => a.Valid ∧ a.unmap = a ∧ ∀ gs zone, a = .v6 gs zone → zone = []

/-- The text inside one pair of brackets, which is what the host reader reads as an address. -/
def unbracket (s : Bytes) : Bytes :=
  match s with
  | 91 :: rest@(_ :: _) => if rest.getLast? == some 93 then rest.dropLast else s
  | _ => s

theorem ofText_eq (s : Bytes) :
    ofText s = match IpAddr.read? (unbracket s) with
      | some addr => .ip addr.unmap
      | none => .name s := rfl

theorem unbracket_of_head {s : Bytes} (open_ : s.head? ≠ some 91) : unbracket s = s := by
  unfold unbracket
  split
  · simp at open_
  · rfl

theorem unbracket_wrap (t : Bytes) : unbracket (91 :: (t ++ [93])) = t := by
  obtain ⟨c, more, split⟩ := List.exists_cons_of_ne_nil (show t ++ [93] ≠ [] by simp)
  rw [split]
  simp only [unbracket]
  rw [← split]
  simp


theorem head?_render_v4 (a b c d : UInt8) :
    ∃ e, (IpAddr.render (.v4 a b c d)).head? = some e ∧ Octet.isDigit e = true := by
  obtain ⟨e, more, split⟩ := List.exists_cons_of_ne_nil (Bytes.ofNat_ne_nil a.toNat)
  refine ⟨e, by simp [IpAddr.render, Bytes.joinWith, split], ?_⟩
  exact Bytes.isDigit_of_mem_ofNat (split ▸ List.mem_cons_self : e ∈ Bytes.ofNat a.toNat)

theorem ofText_render {h : Host} (readable : h.Readable) : ofText h.render = h := by
  cases h with
  | name n =>
    obtain ⟨nonempty, chars, notAddress⟩ := readable
    have open_ : n.head? ≠ some 91 := by
      obtain ⟨c, t, rfl⟩ := List.exists_cons_of_ne_nil nonempty
      intro same
      simp only [List.head?_cons, Option.some.injEq] at same
      subst same
      exact absurd (chars 91 List.mem_cons_self) (by decide)
    rw [ofText_eq, render, unbracket_of_head open_, notAddress]
  | ip a =>
    obtain ⟨valid, unmapped, zoneFree⟩ := readable
    cases a with
    | v4 w x y z =>
      obtain ⟨e, first, digit⟩ := head?_render_v4 w x y z
      have open_ : (IpAddr.render (.v4 w x y z)).head? ≠ some 91 := by
        rw [first]
        intro same
        simp only [Option.some.injEq] at same
        subst same
        exact absurd digit (by decide)
      simp only [render, IpAddr.isV6, Bool.false_eq_true, if_false]
      rw [ofText_eq, unbracket_of_head open_, IpAddr.read?_render valid]
      exact congrArg ip unmapped
    | v6 gs zone =>
      obtain rfl := zoneFree gs zone rfl
      simp only [render, IpAddr.isV6, if_true, List.cons_append, List.nil_append]
      rw [ofText_eq, unbracket_wrap, IpAddr.read?_render valid]
      exact congrArg ip unmapped

end Host

/-! ### Host and port on written text -/

namespace Grammar

theorem host_hostname {t z : Bytes} (nonempty : t ≠ []) (chars : ∀ c ∈ t, isHostnameChar c = true)
    (stop : ∀ c, z.head? = some c → isHostnameChar c = false) :
    host (t ++ z) = [(.mk "host" t [.mk "hostname" t []], z)] := by
  obtain ⟨c, more, rfl⟩ := List.exists_cons_of_ne_nil nonempty
  have notOpen : c ≠ 91 := fun same => absurd (chars c List.mem_cons_self) (by rw [same]; decide)
  have hostRun : run "hostname" isHostnameChar (c :: (more ++ z)) =
      [(.mk "hostname" (c :: more) [], z)] :=
    run_written chars (List.cons_ne_nil c more) stop "hostname"
  unfold host altFirst
  simp [concat_eq, chains, octet_cons (c := 91) (by decide), notOpen, hostRun, Node.text]

theorem host_bracketed {t z : Bytes} (nonempty : t ≠ []) (chars : ∀ c ∈ t, isIPv6Char c = true) :
    host (91 :: (t ++ 93 :: z)) =
      [(.mk "host" (91 :: (t ++ [93])) [.mk "IPv6reference" (91 :: (t ++ [93]))
        [.mk "[" [91] [], .mk "IPv6address" t [], .mk "]" [93] []]], z)] := by
  have stop : ∀ c, (93 :: z).head? = some c → isIPv6Char c = false := by
    intro c first
    cases first
    decide
  unfold host altFirst
  simp [concat_eq, chains, octet_cons (c := 91) (by decide), octet_cons (c := 93) (by decide),
    run_written chars nonempty stop, Node.text]


/-- The text of a port after its colon, nothing when there is none. -/
def portText : Option Nat → Bytes
  | some p => 58 :: Bytes.ofNat p
  | none => []

/-- What may follow the host and port of a URI: its path, its parameters, its headers, or its
end. -/
def AfterHost (y : Bytes) : Prop := Ends y ∨ ∃ c more, y = c :: more ∧ (c = 47 ∨ c = 59 ∨ c = 63)

theorem AfterHost.head {y : Bytes} (after : AfterHost y) {c : UInt8} (first : y.head? = some c) :
    c = 47 ∨ c = 59 ∨ c = 63 ∨ c = 62 ∨ c = 32 := by
  rcases after with (rfl | ⟨d, more, rfl, mark⟩) | ⟨d, more, rfl, mark⟩
  · cases first
  · cases first
    rcases mark with rfl | rfl <;> simp
  · cases first
    rcases mark with rfl | rfl | rfl <;> simp

private theorem hostport_of_host {s t : Bytes} {cs : List Node} {port : Option Nat} {y : Bytes}
    (hostMatch : host s = [(.mk "host" t cs, portText port ++ y)])
    (noPort : Node.findIn? "port" cs = none) (noUser : Node.findIn? "userinfo" cs = none)
    (after : AfterHost y) :
    ∃ full, (full, y) ∈ hostport s ∧ full.text = t ++ portText port ∧
      HostPort.Token.ofNode full = ⟨t, port.map Bytes.ofNat⟩ ∧ full.find? "userinfo" = none ∧
      full.find? "hostport" = some full ∧
      ∀ m ∈ hostport s, m = (full, y) ∨ m.1.text.length < full.text.length := by
  have marks := fun c (first : y.head? = some c) => after.head first
  have colonFree : octet 58 y = [] := by
    rcases y with _ | ⟨c, more⟩
    · exact octet_nil 58
    · rcases marks c rfl with rfl | rfl | rfl | rfl | rfl <;> simp [octet_cons (c := 58) (by decide)]
  have digitsStop : ∀ c, y.head? = some c → Octet.isDigit c = false := by
    intro c first
    rcases marks c first with rfl | rfl | rfl | rfl | rfl <;> decide
  cases port with
  | none =>
    simp only [portText, List.nil_append] at hostMatch ⊢
    have list : hostport s = [(.mk "hostport" t [.mk "host" t cs, .mk "[:port]" [] []], y)] := by
      unfold hostport
      simp [concat_eq, chains, hostMatch, Grammar.optional, colonFree, Node.text]
    refine ⟨_, by rw [list]; exact List.mem_singleton_self _, by simp [Node.text],
      by simp [HostPort.Token.ofNode, Node.find?, Node.findIn?, Node.text, noPort],
      by simp [Node.find?, Node.findIn?, noUser], by simp [Node.find?], ?_⟩
    intro m member
    rw [list, List.mem_singleton] at member
    exact .inl member
  | some p =>
    simp only [portText, List.cons_append] at hostMatch ⊢
    have portRun := run_written (fun c member => Bytes.isDigit_of_mem_ofNat member)
      (Bytes.ofNat_ne_nil p) digitsStop "port"
    have list : hostport s =
        [(.mk "hostport" t [.mk "host" t cs, .mk "[:port]" [] []], 58 :: (Bytes.ofNat p ++ y)),
          (.mk "hostport" (t ++ 58 :: Bytes.ofNat p) [.mk "host" t cs,
            .mk "[:port]" (58 :: Bytes.ofNat p) [.mk ":port" (58 :: Bytes.ofNat p)
              [.mk ":" [58] [], .mk "port" (Bytes.ofNat p) []]]], y)] := by
      unfold hostport
      simp [concat_eq, chains, hostMatch, Grammar.optional, octet_cons (c := 58) (by decide),
        portRun, Node.text]
    refine ⟨.mk "hostport" (t ++ 58 :: Bytes.ofNat p) [.mk "host" t cs,
        .mk "[:port]" (58 :: Bytes.ofNat p) [.mk ":port" (58 :: Bytes.ofNat p)
          [.mk ":" [58] [], .mk "port" (Bytes.ofNat p) []]]], by rw [list]; simp, by simp [Node.text],
      by simp [HostPort.Token.ofNode, Node.find?, Node.findIn?, Node.text, noPort],
      by simp [Node.find?, Node.findIn?, noUser], by simp [Node.find?], ?_⟩
    intro m member
    rw [list] at member
    simp only [List.mem_cons, List.not_mem_nil, or_false] at member
    rcases member with rfl | rfl
    · exact .inr (by simp [Node.text])
    · exact .inl rfl


theorem isHostnameChar_of_digit {c : UInt8} (digit : Octet.isDigit c = true) :
    isHostnameChar c = true := by
  simp [isHostnameChar, Octet.isAlnum, digit]

theorem hostname_render_v4 (a b c d : UInt8) :
    ∀ e ∈ IpAddr.render (.v4 a b c d), isHostnameChar e = true := by
  intro e member
  simp only [IpAddr.render, Bytes.joinWith, List.mem_append, List.mem_singleton, or_assoc] at member
  rcases member with field | rfl | field | rfl | field | rfl | field
  all_goals first
    | exact isHostnameChar_of_digit (Bytes.isDigit_of_mem_ofNat field)
    | decide

theorem isIPv6Char_of_mem_renderGroups {gs : List Nat} {c : UInt8} (member : c ∈ IpAddr.renderGroups gs) :
    isIPv6Char c = true := by
  rcases IpAddr.mem_renderGroups member with rfl | ⟨hex, -⟩
  · decide
  · simp [isIPv6Char, hex]

theorem hostport_written {h : Host} (readable : h.Readable) (port : Option Nat) {y : Bytes}
    (after : AfterHost y) :
    ∃ full, (full, y) ∈ hostport (h.render ++ portText port ++ y) ∧
      full.text = h.render ++ portText port ∧
      HostPort.Token.ofNode full = ⟨h.render, port.map Bytes.ofNat⟩ ∧ full.find? "userinfo" = none ∧
      full.find? "hostport" = some full ∧
      ∀ m ∈ hostport (h.render ++ portText port ++ y), m = (full, y) ∨
        m.1.text.length < full.text.length := by
  have stop : ∀ c, (portText port ++ y).head? = some c → isHostnameChar c = false := by
    intro c first
    cases port with
    | some p =>
      cases first
      decide
    | none =>
      rcases after.head first with rfl | rfl | rfl | rfl | rfl <;> decide
  rw [List.append_assoc]
  cases h with
  | name n =>
    obtain ⟨nonempty, chars, -⟩ := readable
    exact hostport_of_host (host_hostname nonempty chars stop) (by simp [Node.findIn?, Node.find?])
      (by simp [Node.findIn?, Node.find?]) after
  | ip a =>
    obtain ⟨valid, -, zoneFree⟩ := readable
    cases a with
    | v4 a b c d =>
      obtain ⟨e, first, -⟩ := Host.head?_render_v4 a b c d
      have nonempty : IpAddr.render (.v4 a b c d) ≠ [] := fun empty => by simp [empty] at first
      exact hostport_of_host (host_hostname nonempty (hostname_render_v4 a b c d) stop)
        (by simp [Node.findIn?, Node.find?]) (by simp [Node.findIn?, Node.find?]) after
    | v6 gs zone =>
      obtain rfl := zoneFree gs zone rfl
      have nonempty : IpAddr.renderGroups gs ≠ [] :=
        List.ne_nil_of_mem (IpAddr.colon_mem_renderGroups valid.1)
      have written : Host.render (.ip (.v6 gs [])) = 91 :: (IpAddr.renderGroups gs ++ [93]) := by
        simp [Host.render, IpAddr.isV6, IpAddr.render]
      have hostMatch : host (91 :: (IpAddr.renderGroups gs ++ [93]) ++ (portText port ++ y)) =
          [(.mk "host" (91 :: (IpAddr.renderGroups gs ++ [93])) [.mk "IPv6reference"
            (91 :: (IpAddr.renderGroups gs ++ [93])) [.mk "[" [91] [],
              .mk "IPv6address" (IpAddr.renderGroups gs) [], .mk "]" [93] []]], portText port ++ y)] := by
        rw [List.cons_append, List.append_assoc, List.singleton_append]
        exact host_bracketed nonempty fun c member => isIPv6Char_of_mem_renderGroups member
      rw [written]
      exact hostport_of_host hostMatch (by simp [Node.findIn?, Node.find?])
        (by simp [Node.findIn?, Node.find?]) after

/-! ### The server -/

theorem consumes_hostport : Consumes hostport := by
  unfold hostport host
  refine Consumes.concat ?_
  simp only [List.mem_cons, List.not_mem_nil, or_false, forall_eq_or_imp, forall_eq]
  refine ⟨Consumes.altFirst ?_, Consumes.optional (Consumes.concat ?_)⟩
  · simp only [List.mem_cons, List.not_mem_nil, or_false, forall_eq_or_imp, forall_eq]
    refine ⟨Consumes.concat ?_, Consumes.run _ _⟩
    simp only [List.mem_cons, List.not_mem_nil, or_false, forall_eq_or_imp, forall_eq]
    exact ⟨Consumes.octet _, Consumes.run _ _, Consumes.octet _⟩
  · simp only [List.mem_cons, List.not_mem_nil, or_false, forall_eq_or_imp, forall_eq]
    exact ⟨Consumes.octet _, Consumes.run _ _⟩

theorem texts_hostport : Texts hostport (· ≠ 64) := by
  have class_free : ∀ ok : UInt8 → Bool, ok 64 = false → ∀ c, ok c = true → c ≠ 64 :=
    fun ok outside c kept same => by rw [same, outside] at kept; cases kept
  have octet_free : ∀ c : UInt8, Octet.isAlpha c = false → c ≠ 64 → Texts (octet c) (· ≠ 64) :=
    fun c mark other => (Texts.octet mark).mono fun d same => same ▸ other
  unfold hostport host
  refine Texts.concat ?_
  simp only [List.mem_cons, List.not_mem_nil, or_false, forall_eq_or_imp, forall_eq]
  refine ⟨Texts.altFirst ?_, Texts.optional (Texts.concat ?_)⟩
  · simp only [List.mem_cons, List.not_mem_nil, or_false, forall_eq_or_imp, forall_eq]
    refine ⟨Texts.concat ?_, (Texts.run _ _).mono (class_free _ (by decide))⟩
    simp only [List.mem_cons, List.not_mem_nil, or_false, forall_eq_or_imp, forall_eq]
    exact ⟨octet_free 91 (by decide) (by decide), (Texts.run _ _).mono (class_free _ (by decide)),
      octet_free 93 (by decide) (by decide)⟩
  · simp only [List.mem_cons, List.not_mem_nil, or_false, forall_eq_or_imp, forall_eq]
    exact ⟨octet_free 58 (by decide) (by decide), (Texts.run _ _).mono (class_free _ (by decide))⟩


theorem hostport_before_at {s x z : Bytes} (split : s = x ++ 64 :: z) {m : Node × Bytes}
    (member : m ∈ hostport s) : m.1.text.length ≤ x.length :=
  length_le_of_avoids split (consumes_hostport s m.1 m.2 member)
    fun inside => texts_hostport s m.1 m.2 member 64 inside rfl

theorem server_user {u : Bytes} {uiNode full : Node} {t y : Bytes}
    (userMatch : userinfo (u ++ 64 :: t) = [(uiNode, t)]) (userText : uiNode.text = u ++ [64])
    (fullMatch : (full, y) ∈ hostport t)
    (longest_ : ∀ m ∈ hostport t, m = (full, y) ∨ m.1.text.length < full.text.length) :
    longest (server (u ++ 64 :: t)) =
      some (.mk "server" (uiNode.text ++ full.text) [.mk "[userinfo]" uiNode.text [uiNode], full], y) := by
  apply longest_eq_of_max
  · unfold server
    refine mem_concat.2 ⟨_, ⟨_, t, _, mem_optional.2 (.inr ⟨uiNode, by rw [userMatch]; simp, rfl⟩),
      ⟨full, y, [], fullMatch, ⟨rfl, rfl⟩, rfl⟩, rfl⟩, by simp [Node.text.eq_1]⟩
  · rintro ⟨n, after⟩ member
    unfold server at member
    obtain ⟨nodes, ⟨o, mid, more, optMatch, ⟨h, rest, none_, hpMatch, ⟨rfl, rfl⟩, rfl⟩, rfl⟩, rfl⟩ :=
      mem_concat.1 member
    rcases mem_optional.1 optMatch with ⟨rfl, rfl⟩ | ⟨u', found, rfl⟩
    · right
      have short := hostport_before_at rfl hpMatch
      simp only [Node.text.eq_1, List.flatMap_cons, List.flatMap_nil, List.append_nil,
        List.nil_append, List.length_append, userText, List.length_singleton] at short ⊢
      omega
    · rw [userMatch, List.mem_singleton, Prod.mk.injEq] at found
      obtain ⟨rfl, rfl⟩ := found
      rcases longest_ (h, after) hpMatch with same | shorter
      · left
        simp only [Prod.mk.injEq] at same
        obtain ⟨rfl, rfl⟩ := same
        simp [Node.text.eq_1]
      · right
        simp only [Node.text.eq_1, List.flatMap_cons, List.flatMap_nil, List.append_nil,
          List.length_append] at shorter ⊢
        omega

theorem server_host {t y : Bytes} {full : Node} (noUser : ∀ m ∈ userinfo t, hostport m.2 = [])
    (fullMatch : (full, y) ∈ hostport t)
    (longest_ : ∀ m ∈ hostport t, m = (full, y) ∨ m.1.text.length < full.text.length) :
    longest (server t) = some (.mk "server" full.text [.mk "[userinfo]" [] [], full], y) := by
  apply longest_eq_of_max
  · unfold server
    refine mem_concat.2 ⟨_, ⟨_, t, _, mem_optional.2 (.inl ⟨rfl, rfl⟩),
      ⟨full, y, [], fullMatch, ⟨rfl, rfl⟩, rfl⟩, rfl⟩, by simp [Node.text.eq_1]⟩
  · rintro ⟨n, after⟩ member
    unfold server at member
    obtain ⟨nodes, ⟨o, mid, more, optMatch, ⟨h, rest, none_, hpMatch, ⟨rfl, rfl⟩, rfl⟩, rfl⟩, rfl⟩ :=
      mem_concat.1 member
    rcases mem_optional.1 optMatch with ⟨rfl, rfl⟩ | ⟨u', found, rfl⟩
    · rcases longest_ (h, after) hpMatch with same | shorter
      · left
        simp only [Prod.mk.injEq] at same
        obtain ⟨rfl, rfl⟩ := same
        simp [Node.text.eq_1]
      · right
        simpa [Node.text.eq_1] using shorter
    · rw [noUser (u', mid) found] at hpMatch
      cases hpMatch

end Grammar

theorem Host.render_ne_nil {h : Host} (readable : h.Readable) : h.render ≠ [] := by
  cases h with
  | name n => exact readable.1
  | ip a =>
    cases a with
    | v4 a b c d =>
      obtain ⟨e, first, -⟩ := Host.head?_render_v4 a b c d
      simpa [Host.render, IpAddr.isV6] using fun empty : IpAddr.render (.v4 a b c d) = [] => by
        simp [empty] at first
    | v6 gs zone => simp [Host.render, IpAddr.isV6]

theorem Userinfo.render_eq (ui : Userinfo) :
    ui.render = Percent.encode Percent.isUserChar ui.user ++
      Grammar.passwordText (ui.password.map (Percent.encode Percent.isPasswordChar)) := by
  cases h : ui.password <;> simp [Userinfo.render, h, Grammar.passwordText]

theorem HostPort.render_eq (hp : HostPort) :
    hp.render = hp.host.render ++ Grammar.portText hp.port := by
  cases h : hp.port <;> simp [HostPort.render, h, Grammar.portText]

namespace Uri

open Grammar

private theorem cutServer_of_longest {s y : Bytes} {n : Node} (chosen : longest (server s) = some (n, y))
    (covers : s = n.text ++ y) (nonempty : n.text ≠ []) (colonFree : y.head? ≠ some 58) :
    cutServer s = .ok ((n.find? "userinfo").map Userinfo.Token.ofNode,
      HostPort.Token.ofNode ((n.find? "hostport").getD n), y) := by
  have matched : matchRule server s = .ok n :=
    matchRule_eq_ok_iff.2 ⟨by rw [covers]; simp [nonempty], ⟨y, chosen⟩, nonempty⟩
  have rest : s.drop n.text.length = y := by rw [covers]; simp
  unfold cutServer
  rw [matched]
  simp only [rest]
  rw [if_neg (by simpa using colonFree)]

/-- A written user part and a host the reader gives are cut as their texts. -/
theorem cutServer_user {ui : Userinfo} {hp : HostPort} (named : ui.user ≠ [])
    (readable : hp.host.Readable) {y : Bytes} (after : AfterHost y) :
    cutServer (ui.render ++ [64] ++ hp.render ++ y) =
      .ok (some ⟨Percent.encode Percent.isUserChar ui.user,
          ui.password.map (Percent.encode Percent.isPasswordChar)⟩,
        ⟨hp.host.render, hp.port.map Bytes.ofNat⟩, y) := by
  have userWritten : Escaped Percent.isUserChar (Percent.encode Percent.isUserChar ui.user) :=
    escaped_encode (fun _ kept => kept) ui.user
  have userNonempty : Percent.encode Percent.isUserChar ui.user ≠ [] :=
    fun empty => named ((encode_eq_nil_iff ui.user).1 empty)
  have pwWritten : ∀ p ∈ ui.password.map (Percent.encode Percent.isPasswordChar),
      Escaped Percent.isPasswordChar p := by
    intro p member
    obtain ⟨q, -, rfl⟩ := Option.map_eq_some_iff.1 member
    exact escaped_encode (fun _ kept => kept) q
  obtain ⟨uiNode, userMatch, userText, userTok, userFind, userNoHostport⟩ :=
    userinfo_written userWritten userNonempty pwWritten (hp.render ++ y)
  obtain ⟨full, fullMatch, fullText, fullTok, -, fullFind, fullMax⟩ :=
    hostport_written readable hp.port after
  rw [← HostPort.render_eq] at fullMatch fullText fullMax
  have chosen := server_user userMatch userText fullMatch fullMax
  have colonFree : y.head? ≠ some 58 := fun first => by
    rcases after.head first with same | same | same | same | same <;> cases same
  rw [Userinfo.render_eq, show ∀ a b c d : Bytes, a ++ b ++ [64] ++ c ++ d = a ++ b ++ 64 :: (c ++ d) by
    intro a b c d; simp]
  rw [cutServer_of_longest chosen (by simp [Node.text.eq_1, userText, fullText]) (by simp [Node.text.eq_1, userText])
    colonFree]
  simp [Node.find?.eq_1, Node.findIn?, userFind, userNoHostport, fullFind, userTok, fullTok]

/-- A host the reader gives, without a user part before it, is cut as its text when no user
part followed by a host starts the text. -/
theorem cutServer_host {hp : HostPort} (readable : hp.host.Readable) {y : Bytes}
    (after : AfterHost y) (noUser : ∀ m ∈ Grammar.userinfo (hp.render ++ y), hostport m.2 = []) :
    cutServer (hp.render ++ y) = .ok (none, ⟨hp.host.render, hp.port.map Bytes.ofNat⟩, y) := by
  obtain ⟨full, fullMatch, fullText, fullTok, fullNoUser, fullFind, fullMax⟩ :=
    hostport_written readable hp.port after
  rw [← HostPort.render_eq] at fullMatch fullText fullMax
  have chosen := server_host noUser fullMatch fullMax
  have colonFree : y.head? ≠ some 58 := fun first => by
    rcases after.head first with same | same | same | same | same <;> cases same
  have nonempty : hp.render ≠ [] := fun empty => by
    rw [HostPort.render_eq] at empty
    exact Host.render_ne_nil readable (List.append_eq_nil_iff.1 empty).1
  rw [cutServer_of_longest chosen (by simp [Node.text.eq_1, fullText])
    (by simpa [Node.text.eq_1, fullText] using nonempty) colonFree]
  simp [Node.find?.eq_1, Node.findIn?, fullNoUser, fullFind, fullTok]

end Uri

end SipCodec
