import SipCodec.Proofs.Uri.Server
import SipCodec.Proofs.Header.Names

/-! The parts of a URI after its host are cut back from their written texts, and each part's reader
gives back the value it was written from. -/

namespace SipCodec.Grammar

/-- The text of a value after its `=`, nothing when there is none. -/
def valueText : Option Bytes → Bytes
  | some v => 61 :: v
  | none => []

/-- What may follow a path or a parameter in a URI: another parameter, the headers, or the
end. -/
def AfterParam (z : Bytes) : Prop := Ends z ∨ ∃ c more, z = c :: more ∧ (c = 59 ∨ c = 63)

theorem AfterParam.head {z : Bytes} (after : AfterParam z) {c : UInt8} (first : z.head? = some c) :
    c = 59 ∨ c = 63 ∨ c = 62 ∨ c = 32 := by
  rcases after with (rfl | ⟨d, more, rfl, mark⟩) | ⟨d, more, rfl, mark⟩
  · cases first
  · cases first
    rcases mark with rfl | rfl <;> simp
  · cases first
    rcases mark with rfl | rfl <;> simp

theorem AfterParam.afterHost {z : Bytes} (after : AfterParam z) : AfterHost z := by
  rcases after with ends | ⟨c, more, rfl, mark⟩
  · exact .inl ends
  · refine .inr ⟨c, more, rfl, ?_⟩
    rcases mark with same | same
    · exact .inr (.inl same)
    · exact .inr (.inr same)

theorem escapedStep_afterParam {ok : UInt8 → Bool} (semicolon : ok 59 = false)
    (question : ok 63 = false) (close : ok 62 = false) (blank : ok 32 = false) {z : Bytes}
    (after : AfterParam z) : escapedStep ok z = 0 := by
  rcases z with _ | ⟨c, more⟩
  · exact escapedStep_nil
  · rcases after.head (c := c) rfl with rfl | rfl | rfl | rfl
    · exact escapedStep_stop semicolon (by decide) more
    · exact escapedStep_stop question (by decide) more
    · exact escapedStep_stop close (by decide) more
    · exact escapedStep_stop blank (by decide) more

theorem octet_afterParam {d : UInt8} (mark : Octet.isAlpha d = false)
    (other : d ≠ 59 ∧ d ≠ 63 ∧ d ≠ 62 ∧ d ≠ 32) {z : Bytes} (after : AfterParam z) :
    octet d z = [] := by
  rcases z with _ | ⟨c, more⟩
  · exact octet_nil d
  · rw [octet_cons mark, if_neg]
    rintro rfl
    rcases after.head (c := c) rfl with rfl | rfl | rfl | rfl
    · exact other.1 rfl
    · exact other.2.1 rfl
    · exact other.2.2.1 rfl
    · exact other.2.2.2 rfl

/-- A written URI parameter is matched whole and read as its name and value texts. -/
theorem uriParameter_written {name : Bytes} {value : Option Bytes}
    (named : Escaped Percent.isParamChar name) (nonempty : name ≠ [])
    (valued : ∀ v ∈ value, Escaped Percent.isParamChar v) {z : Bytes} (after : AfterParam z) :
    ∃ n, longest (uriParameter (59 :: (name ++ valueText value ++ z))) = some (n, z) ∧
      n.text = 59 :: (name ++ valueText value) ∧
      Param.Token.ofNode n "pname" "=pvalue" "pvalue" = ⟨name, value⟩ := by
  have stops : escapedStep Percent.isParamChar z = 0 :=
    escapedStep_afterParam (by decide) (by decide) (by decide) (by decide) after
  have noEquals : octet 61 z = [] := octet_afterParam (by decide) (by decide) after
  unfold uriParameter
  cases value with
  | none =>
    have nameRun : escapedRun "pname" Percent.isParamChar (name ++ z) = [(.mk "pname" name [], z)] :=
      escapedRun_written (by decide) named nonempty stops "pname"
    simp [valueText, concat_eq, chains, Grammar.optional, octet_cons (c := 59) (by decide),
      nameRun, noEquals, longest, Node.text.eq_1, Param.Token.ofNode, Node.find?.eq_1, Node.findIn?]
  | some v =>
    rcases v with _ | ⟨c, v⟩
    · have nameRun : escapedRun "pname" Percent.isParamChar (name ++ 61 :: z) =
          [(.mk "pname" name [], 61 :: z)] :=
        escapedRun_written (by decide) named nonempty (escapedStep_stop (by decide) (by decide) _) _
      simp [valueText, concat_eq, chains, Grammar.optional, octet_cons (c := 59) (by decide),
        octet_cons (c := 61) (by decide), nameRun, escapedRun_stopped stops, longest,
        Node.text.eq_1, Param.Token.ofNode, Node.find?.eq_1, Node.findIn?]
    · have nameRun : escapedRun "pname" Percent.isParamChar (name ++ 61 :: c :: (v ++ z)) =
          [(.mk "pname" name [], 61 :: c :: (v ++ z))] :=
        escapedRun_written (by decide) named nonempty (escapedStep_stop (by decide) (by decide) _) _
      have valueRun : escapedRun "pvalue" Percent.isParamChar (c :: (v ++ z)) =
          [(.mk "pvalue" (c :: v) [], z)] :=
        escapedRun_written (by decide) (valued _ rfl) (List.cons_ne_nil c v) stops "pvalue"
      simp [valueText, concat_eq, chains, Grammar.optional, octet_cons (c := 59) (by decide),
        octet_cons (c := 61) (by decide), nameRun, valueRun, longest,
        Node.text.eq_1, Param.Token.ofNode, Node.find?.eq_1, Node.findIn?]


/-- What may follow a URI header: another header after `&`, or the end of the URI. -/
def AfterHeader (z : Bytes) : Prop := Ends z ∨ ∃ more, z = 38 :: more

theorem uriHeader_written {name value : Bytes} (named : Escaped Percent.isHeaderChar name)
    (nonempty : name ≠ []) (valued : Escaped Percent.isHeaderChar value) {z : Bytes}
    (after : AfterHeader z) :
    ∃ n, longest (uriHeader (name ++ 61 :: (value ++ z))) = some (n, z) ∧
      n.text = name ++ 61 :: value ∧
      (((n.find? "hname").map Node.text).getD [], ((n.find? "hvalue").map Node.text).getD []) =
        (name, value) := by
  have stops : escapedStep Percent.isHeaderChar z = 0 := by
    rcases after with (rfl | ⟨c, more, rfl, rfl | rfl⟩) | ⟨more, rfl⟩
    · exact escapedStep_nil
    all_goals exact escapedStep_stop (by decide) (by decide) more
  unfold uriHeader
  rcases value with _ | ⟨c, value⟩
  · have nameRun : escapedRun "hname" Percent.isHeaderChar (name ++ 61 :: z) =
        [(.mk "hname" name [], 61 :: z)] :=
      escapedRun_written (by decide) named nonempty (escapedStep_stop (by decide) (by decide) _) _
    simp [concat_eq, chains, Grammar.optional, octet_cons (c := 61) (by decide), nameRun,
      escapedRun_stopped stops, longest, Node.text.eq_1, Node.find?.eq_1, Node.findIn?]
  · have nameRun : escapedRun "hname" Percent.isHeaderChar (name ++ 61 :: c :: (value ++ z)) =
        [(.mk "hname" name [], 61 :: c :: (value ++ z))] :=
      escapedRun_written (by decide) named nonempty (escapedStep_stop (by decide) (by decide) _) _
    have valueRun : escapedRun "hvalue" Percent.isHeaderChar (c :: (value ++ z)) =
        [(.mk "hvalue" (c :: value) [], z)] :=
      escapedRun_written (by decide) valued (List.cons_ne_nil c value) stops "hvalue"
    simp [concat_eq, chains, Grammar.optional, octet_cons (c := 61) (by decide), nameRun,
      valueRun, longest, Node.text.eq_1, Node.find?.eq_1, Node.findIn?]

end SipCodec.Grammar

namespace SipCodec.Uri

open Grammar

/-- Parameters written from their name and value texts. -/
def paramsText (ws : List (Bytes × Option Bytes)) : Bytes :=
  ws.flatMap fun w => 59 :: (w.1 ++ valueText w.2)

/-- Parameter texts that the grammar reads back: names and values of parameter characters and
escapes, names not empty. -/
def ParamTexts (ws : List (Bytes × Option Bytes)) : Prop :=
  ∀ w ∈ ws, Escaped Percent.isParamChar w.1 ∧ w.1 ≠ [] ∧ ∀ v ∈ w.2, Escaped Percent.isParamChar v

theorem afterParam_paramsText (ws : List (Bytes × Option Bytes)) {z : Bytes} (after : AfterParam z) :
    AfterParam (paramsText ws ++ z) := by
  cases ws with
  | nil => exact after
  | cons w ws => exact .inr ⟨59, w.1 ++ valueText w.2 ++ (paramsText ws ++ z), by simp [paramsText],
      .inl rfl⟩

theorem tokenizeUri_go_written {ws : List (Bytes × Option Bytes)} (written : ParamTexts ws)
    {z : Bytes} (after : AfterParam z) (notParam : z.head? ≠ some 59) (fuel : Nat)
    (enough : ws.length < fuel) (acc : List Param.Token) :
    Params.tokenizeUri.go fuel (paramsText ws ++ z) acc =
      .ok (z, acc.reverse ++ ws.map fun w => ⟨w.1, w.2⟩) := by
  induction ws generalizing fuel acc with
  | nil =>
    obtain ⟨k, rfl⟩ : ∃ k, fuel = k + 1 := ⟨fuel - 1, by simp at enough; omega⟩
    simp [Params.tokenizeUri.go, paramsText, notParam]
  | cons w ws ih =>
    obtain ⟨k, rfl⟩ : ∃ k, fuel = k + 1 := ⟨fuel - 1, by simp at enough; omega⟩
    obtain ⟨named, nonempty, valued⟩ := written w List.mem_cons_self
    obtain ⟨n, chosen, text, token⟩ :=
      uriParameter_written named nonempty valued (afterParam_paramsText ws after)
    have matched : matchRule uriParameter (59 :: (w.1 ++ valueText w.2 ++ (paramsText ws ++ z))) =
        .ok n := matchRule_eq_ok_iff.2 ⟨by simp, ⟨_, chosen⟩, by simp [text]⟩
    have rest : (59 :: (w.1 ++ valueText w.2 ++ (paramsText ws ++ z))).drop n.text.length =
        paramsText ws ++ z := by
      rw [text]
      simp
    have split : paramsText (w :: ws) ++ z = 59 :: (w.1 ++ valueText w.2 ++ (paramsText ws ++ z)) := by
      simp [paramsText]
    rw [split, Params.tokenizeUri.go]
    simp only [List.head?_cons, bne_self_eq_false, Bool.false_eq_true, if_false]
    rw [matched]
    simp only [rest, token]
    rw [ih (fun x member => written x (List.mem_cons_of_mem w member)) k (by simp at enough; omega)]
    simp

/-- A header written from its name and value texts. -/
def headerText (h : Bytes × Bytes) : Bytes := h.1 ++ 61 :: h.2

/-- Header texts that the grammar reads back: names and values of header characters and escapes,
names not empty. -/
def HeaderTexts (hs : List (Bytes × Bytes)) : Prop :=
  ∀ h ∈ hs, Escaped Percent.isHeaderChar h.1 ∧ h.1 ≠ [] ∧ Escaped Percent.isHeaderChar h.2

theorem tokenizeHeaders_go_written {h : Bytes × Bytes} {hs : List (Bytes × Bytes)}
    (written : HeaderTexts (h :: hs)) {z : Bytes} (ends : Ends z) (fuel : Nat)
    (enough : hs.length < fuel) (acc : List (Bytes × Bytes)) :
    tokenizeHeaders.go fuel (headerText h ++ (hs.flatMap fun x => 38 :: headerText x) ++ z) acc =
      .ok (z, acc.reverse ++ h :: hs) := by
  induction hs generalizing h fuel acc with
  | nil =>
    obtain ⟨k, rfl⟩ : ∃ k, fuel = k + 1 := ⟨fuel - 1, by simp at enough; omega⟩
    obtain ⟨named, nonempty, valued⟩ := written h List.mem_cons_self
    obtain ⟨n, chosen, text, token⟩ := uriHeader_written named nonempty valued (.inl ends)
    have matched : matchRule uriHeader (h.1 ++ 61 :: (h.2 ++ z)) = .ok n :=
      matchRule_eq_ok_iff.2 ⟨by simp, ⟨_, chosen⟩, by simp [text]⟩
    have rest : (h.1 ++ 61 :: (h.2 ++ z)).drop n.text.length = z := by
      rw [text]
      simp
    simp only [headerText, List.flatMap_nil, List.append_nil, List.append_assoc, List.cons_append]
    rw [tokenizeHeaders.go, matched]
    simp only [rest, token]
    rcases ends with rfl | ⟨c, more, rfl, rfl | rfl⟩ <;> simp
  | cons x hs ih =>
    obtain ⟨k, rfl⟩ : ∃ k, fuel = k + 1 := ⟨fuel - 1, by simp at enough; omega⟩
    obtain ⟨named, nonempty, valued⟩ := written h List.mem_cons_self
    obtain ⟨n, chosen, text, token⟩ := uriHeader_written named nonempty valued
      (z := (x :: hs).flatMap (fun x => 38 :: headerText x) ++ z)
      (.inr ⟨headerText x ++ (hs.flatMap (fun x => 38 :: headerText x) ++ z), by simp⟩)
    have matched : matchRule uriHeader
        (h.1 ++ 61 :: (h.2 ++ ((x :: hs).flatMap (fun x => 38 :: headerText x) ++ z))) = .ok n :=
      matchRule_eq_ok_iff.2 ⟨by simp, ⟨_, chosen⟩, by simp [text]⟩
    have split : headerText h ++ (x :: hs).flatMap (fun x => 38 :: headerText x) ++ z =
        h.1 ++ 61 :: (h.2 ++ ((x :: hs).flatMap (fun x => 38 :: headerText x) ++ z)) := by
      simp [headerText]
    have rest : (h.1 ++ 61 :: (h.2 ++ ((x :: hs).flatMap (fun x => 38 :: headerText x) ++ z))).drop
        n.text.length = 38 :: (headerText x ++ hs.flatMap (fun x => 38 :: headerText x) ++ z) := by
      rw [text]
      simp
    rw [split, tokenizeHeaders.go, matched]
    simp only [rest, token]
    rw [ih (fun y member => written y (List.mem_cons_of_mem h member)) k
      (by simp at enough; omega)]
    simp

theorem cutPath_written {p z : Bytes} (nonempty : p ≠ []) (chars : ∀ c ∈ p, isPathChar c = true)
    (after : AfterParam z) : cutPath (p ++ z) = some (p, z) := by
  have stop : ∀ c, z.head? = some c → isPathChar c = false := by
    intro c first
    rcases after.head first with rfl | rfl | rfl | rfl <;> decide
  have matched : matchRule uriPath (p ++ z) = .ok (.mk "uri-path" p []) := by
    refine matchRule_eq_ok_iff.2 ⟨by simp [nonempty], ⟨z, ?_⟩, by simpa [Node.text.eq_1] using nonempty⟩
    rw [uriPath, run_written chars nonempty stop]
    rfl
  simp [cutPath, matched, Node.text.eq_1]

theorem paramsRender_eq (ps : List Param) :
    Params.render ps = paramsText (ps.map fun p => (Param.escape p.name, p.value.map Param.escape)) := by
  induction ps with
  | nil => rfl
  | cons p ps ih =>
    cases h : p.value <;> simp [Params.render, Param.render, paramsText, valueText, h] at ih ⊢ <;> exact ih

/-- A header's name and value written with their escapes. -/
def escapeHeader (h : Bytes × Bytes) : Bytes × Bytes :=
  (Percent.encode Percent.isHeaderChar h.1, Percent.encode Percent.isHeaderChar h.2)

theorem headersRender_later (hs : List (Bytes × Bytes)) (k : Nat) :
    ((hs.zipIdx (k + 1)).flatMap fun ((name, value), i) =>
      (if i == 0 then [63] else [38]) ++ Percent.encode Percent.isHeaderChar name ++ [61] ++
        Percent.encode Percent.isHeaderChar value) =
      (hs.map escapeHeader).flatMap fun x => 38 :: headerText x := by
  induction hs generalizing k with
  | nil => rfl
  | cons h hs ih =>
    simp only [List.zipIdx_cons, List.flatMap_cons, List.map_cons]
    rw [ih (k + 1)]
    simp [headerText, escapeHeader]

theorem headersRender_cons (h : Bytes × Bytes) (hs : List (Bytes × Bytes)) :
    ((h :: hs).zipIdx.flatMap fun ((name, value), i) =>
      (if i == 0 then [63] else [38]) ++ Percent.encode Percent.isHeaderChar name ++ [61] ++
        Percent.encode Percent.isHeaderChar value) =
      63 :: (headerText (escapeHeader h) ++
        (hs.map escapeHeader).flatMap fun x => 38 :: headerText x) := by
  simp only [List.zipIdx_cons, List.flatMap_cons]
  rw [headersRender_later hs 0]
  simp [headerText, escapeHeader]

end SipCodec.Uri

namespace SipCodec

open Grammar


theorem Userinfo.unescape_encode {keep : UInt8 → Bool} (dropped : keep 37 = false) (s : Bytes) :
    Userinfo.unescape (Percent.encode keep s) = .ok (Percent.decode s) := by
  simp [Userinfo.unescape, Percent.decodeStrict, Percent.wellEscaped_encode keep dropped,
    Percent.decode_encode]

namespace ParamKind

theorem toLower_name (k : ParamKind) : Bytes.toLower (lit k.name) = lit k.name := by
  cases k <;> simp only [name, lit_eq_data] <;> decide

theorem ofName_name {k : ParamKind} (special : k ≠ .other) : ofName (lit k.name) = k := by
  cases k <;> simp only [name, ofName, lit_eq_data] <;> first | exact absurd rfl special | decide

theorem toLower_of_ofName {s : Bytes} (special : ofName s ≠ .other) :
    Bytes.toLower s = lit (ofName s).name := by
  unfold ofName at special ⊢
  cases found : ParamKind.known.find? (fun k => lit k.name == Bytes.toLower s) with
  | none => simp [found] at special
  | some k =>
    have same := List.find?_some found
    simp only [beq_iff_eq] at same
    simp [found, same]

theorem ofName_toLower {s : Bytes} (special : ofName s ≠ .other) :
    ofName (Bytes.toLower s) = ofName s ∧ Bytes.toLower (Bytes.toLower s) = Bytes.toLower s := by
  rw [toLower_of_ofName special]
  exact ⟨ofName_name special, toLower_name _⟩

end ParamKind

theorem Percent.head?_encode_ne_quote {keep : UInt8 → Bool} (dropped : keep 34 = false) (s : Bytes) :
    (Percent.encode keep s).head? ≠ some 34 := by
  cases s with
  | nil => simp [Percent.encode]
  | cons c s =>
    rw [Percent.head?_encode_cons keep c s]
    by_cases kept : keep c = true
    · simp only [kept, if_true, ne_eq, Option.some.injEq]
      rintro rfl
      rw [dropped] at kept
      cases kept
    · simp [kept]

theorem Lexical.unquote_quoted_of_head {s : Bytes} (open_ : s.head? ≠ some 34) :
    Lexical.unquote s = s ∧ Lexical.isQuoted s = false := by
  cases s with
  | nil => exact ⟨rfl, rfl⟩
  | cons c s =>
    have other : c ≠ 34 := fun same => open_ (by rw [same]; rfl)
    refine ⟨?_, Lexical.isQuoted_cons_of_ne other s⟩
    unfold Lexical.unquote
    split
    · rename_i same
      cases same
      exact absurd rfl other
    · rfl

/-- A parameter the reader gave, written without quotes and with its own escapes kept, is read
back as itself when its name and value hold no escapes. -/
theorem Param.ofToken_written {tok : Param.Token} {p : Param} (read : Param.ofToken tok = .ok p)
    (plainName : Percent.decode p.name = p.name) (plainValue : ∀ v ∈ p.value, Percent.decode v = v) :
    Param.ofToken ⟨Percent.encode Percent.isParamChar p.name,
      p.value.map (Percent.encode Percent.isParamChar)⟩ = .ok p := by
  have written : ∀ v : Bytes, Lexical.unquote (Percent.encode Percent.isParamChar v) =
      Percent.encode Percent.isParamChar v ∧
        Lexical.isQuoted (Percent.encode Percent.isParamChar v) = false :=
    fun v => Lexical.unquote_quoted_of_head (Percent.head?_encode_ne_quote (by decide) v)
  obtain ⟨name, value⟩ := p
  simp only at plainName plainValue
  unfold Param.ofToken at read ⊢
  cases hName : Userinfo.unescape tok.name with
  | error e => simp [hName, bind, Except.bind] at read
  | ok name0 =>
    simp only [hName, bind, Except.bind] at read
    rw [Userinfo.unescape_encode (by decide)]
    simp only [bind, Except.bind, plainName]
    by_cases other : ParamKind.ofName name0 = .other
    · simp only [other, beq_self_eq_true, if_true, pure, Except.pure, Except.ok.injEq,
        Param.mk.injEq] at read
      obtain ⟨rfl, -⟩ := read
      cases value with
      | none => simp [other, pure, Except.pure]
      | some v =>
        simp [other, pure, Except.pure, (written v).2, Percent.decode_encode, plainValue v rfl]
    · obtain ⟨sameKind, lowered⟩ := ParamKind.ofName_toLower other
      have notOther : (ParamKind.ofName name0 == .other) = false := by simpa using other
      simp only [notOther, Bool.false_eq_true, if_false] at read
      cases hValue : tok.value with
      | none =>
        simp only [hValue] at read
        by_cases valueless :
            (ParamKind.ofName name0 == .lr || ParamKind.ofName name0 == .rport) = true
        · simp only [valueless, if_true, pure, Except.pure, Except.ok.injEq,
            Param.mk.injEq] at read
          obtain ⟨rfl, rfl⟩ := read
          simp [sameKind, lowered, notOther, valueless, pure, Except.pure]
        · simp [valueless, throw, throwThe, MonadExceptOf.throw] at read
      | some raw =>
        simp only [hValue] at read
        cases hRaw : Userinfo.unescape (Lexical.unquote raw) with
        | error e => simp [hRaw] at read
        | ok v =>
          cases hCheck : checkValue (ParamKind.ofName name0) v with
          | error e => simp [hRaw, hCheck] at read
          | ok u =>
            simp only [hRaw, hCheck, pure, Except.pure, Except.ok.injEq, Param.mk.injEq] at read
            obtain ⟨rfl, rfl⟩ := read
            have unescaped := Userinfo.unescape_encode
              (by decide : Percent.isParamChar 37 = false) v
            rw [plainValue v rfl] at unescaped
            simp [sameKind, lowered, notOther, (written v).1, unescaped, hCheck, pure, Except.pure]

theorem Userinfo.ofToken_written {a : Userinfo} (plainUser : Percent.decode a.user = a.user)
    (plainPassword : ∀ p ∈ a.password, Percent.decode p = p) :
    Userinfo.ofToken ⟨Percent.encode Percent.isUserChar a.user,
      a.password.map (Percent.encode Percent.isPasswordChar)⟩ = .ok a := by
  obtain ⟨user, password⟩ := a
  have userRead := Userinfo.unescape_encode (by decide : Percent.isUserChar 37 = false) user
  rw [plainUser] at userRead
  cases password with
  | none => simp [Userinfo.ofToken, userRead, bind, Except.bind, pure, Except.pure]
  | some p =>
    have passwordRead := Userinfo.unescape_encode (by decide : Percent.isPasswordChar 37 = false) p
    rw [plainPassword p rfl] at passwordRead
    simp [Userinfo.ofToken, userRead, passwordRead, bind, Except.bind, pure, Except.pure]

theorem HostPort.ofToken_written {hp : HostPort} (readable : hp.host.Readable)
    (fits : ∀ p ∈ hp.port, p < Nat.pow 2 16) :
    HostPort.ofToken ⟨hp.host.render, hp.port.map Bytes.ofNat⟩ = .ok hp := by
  obtain ⟨host, port⟩ := hp
  have nonempty : host.render.isEmpty = false := by
    simpa using Host.render_ne_nil readable
  have bracketed : host.render.head? = some 91 → host.isIp = true := by
    cases host with
    | ip a => simp [Host.isIp]
    | name n =>
      obtain ⟨named, chars, -⟩ := readable
      obtain ⟨c, t, rfl⟩ := List.exists_cons_of_ne_nil named
      have open_ : c ≠ 91 := fun same => absurd (chars c List.mem_cons_self) (by rw [same]; decide)
      simp [Host.render, open_]
  cases port with
  | none =>
    simpa [HostPort.ofToken, nonempty, Host.ofText_render readable, pure, Except.pure] using bracketed
  | some p =>
    simpa [HostPort.ofToken, nonempty, Host.ofText_render readable,
      Numeral.decimal_ofNat (fits p rfl), bind, Except.bind, pure, Except.pure] using bracketed

theorem Scheme.ofToken_name {sc : Scheme} (named : Scheme.isName sc.name = true)
    (lower : Bytes.toLower sc.name = sc.name) : Scheme.ofToken sc.name = .ok sc := by
  simp [Scheme.ofToken, named, lower]

/-! ### Schemes at the front of a text -/

namespace Scheme

/-- The characters that may follow the first letter of a scheme name. -/
def isNameChar (c : UInt8) : Bool := Octet.isAlnum c || c == 43 || c == 45 || c == 46

theorem nameLen_cons (c : UInt8) (rest : Bytes) :
    nameLen (c :: rest) = if Octet.isAlpha c then 1 + (rest.takeWhile isNameChar).length else 0 :=
  rfl

theorem isNameChar_of_alpha {c : UInt8} (alpha : Octet.isAlpha c = true) : isNameChar c = true := by
  simp [isNameChar, Octet.isAlnum, alpha]

theorem isName_iff {s : Bytes} :
    isName s = true ↔ ∃ c t, s = c :: t ∧ Octet.isAlpha c = true ∧ ∀ d ∈ t, isNameChar d = true := by
  cases s with
  | nil => simp [isName]
  | cons c t =>
    have whole : (t.takeWhile isNameChar).length = t.length ↔ ∀ d ∈ t, isNameChar d = true := by
      rw [← List.takeWhile_eq_self_iff]
      exact ⟨(List.takeWhile_prefix isNameChar).eq_of_length, fun same => by rw [same]⟩
    by_cases alpha : Octet.isAlpha c = true
    · have shape : (∃ c' t', c :: t = c' :: t' ∧ Octet.isAlpha c' = true ∧
          ∀ d ∈ t', isNameChar d = true) ↔ ∀ d ∈ t, isNameChar d = true :=
        ⟨fun ⟨_, _, same, _, chars⟩ => by cases same; exact chars,
          fun chars => ⟨c, t, rfl, alpha, chars⟩⟩
      simp only [isName, nameLen_cons, alpha, if_true, List.isEmpty_cons, Bool.not_false,
        Bool.true_and, beq_iff_eq, List.length_cons]
      rw [shape, ← whole]
      omega
    · simp [isName, nameLen_cons, alpha]

theorem isNameChar_of_mem {s : Bytes} (named : isName s = true) {c : UInt8} (member : c ∈ s) :
    isNameChar c = true := by
  obtain ⟨d, t, rfl, alpha, chars⟩ := isName_iff.1 named
  rcases List.mem_cons.1 member with rfl | inner
  · exact isNameChar_of_alpha alpha
  · exact chars c inner

theorem tokenize_eq_ok_iff {s name rest : Bytes} :
    tokenize s = .ok (name, rest) ↔ s = name ++ 58 :: rest ∧ isName name = true := by
  constructor
  · intro cut
    unfold tokenize at cut
    dsimp only at cut
    split at cut
    · rename_i r after
      split at cut
      · cases cut
      · rename_i moved
        simp only [Except.ok.injEq, Prod.mk.injEq] at cut
        obtain ⟨rfl, rfl⟩ := cut
        refine ⟨by rw [← after, List.take_append_drop], ?_⟩
        cases s with
        | nil => simp [nameLen] at moved
        | cons c t =>
          by_cases alpha : Octet.isAlpha c = true
          · have taken : (c :: t).take (nameLen (c :: t)) = c :: t.takeWhile isNameChar := by
              rw [nameLen_cons, if_pos alpha, Nat.add_comm, List.take_succ_cons,
                ← List.prefix_iff_eq_take.1 (List.takeWhile_prefix isNameChar)]
            rw [taken]
            exact isName_iff.2 ⟨c, _, rfl, alpha, fun d member => List.mem_takeWhile_imp member⟩
          · simp [nameLen_cons, alpha] at moved
    · cases cut
  · rintro ⟨rfl, named⟩
    obtain ⟨c, t, rfl, alpha, chars⟩ := isName_iff.1 named
    have counted : nameLen (c :: (t ++ 58 :: rest)) = t.length + 1 := by
      have stop : isNameChar 58 = false := by decide
      rw [nameLen_cons, if_pos alpha, List.takeWhile_append_of_pos chars,
        List.takeWhile_cons_of_neg (by simp [stop])]
      simp only [List.append_nil]
      omega
    simp [tokenize, counted]

theorem tokenize_head {s name rest : Bytes} (cut : tokenize s = .ok (name, rest)) :
    ∃ c, s.head? = some c ∧ Octet.isAlpha c = true := by
  obtain ⟨rfl, named⟩ := tokenize_eq_ok_iff.1 cut
  obtain ⟨c, t, rfl, alpha, -⟩ := isName_iff.1 named
  exact ⟨c, rfl, alpha⟩

theorem eq_of_name_colon {name rest w x : Bytes} (named : isName name = true) (noColon : 58 ∉ w)
    (stop : ∀ c, x.head? = some c → isNameChar c = false) (split : name ++ 58 :: rest = w ++ x) :
    name = w ∧ x = 58 :: rest := by
  rcases List.append_eq_append_iff.1 split with ⟨a, rfl, after⟩ | ⟨c, rfl, rfl⟩
  · cases a with
    | nil => simp at after; exact ⟨by simp, after.symm⟩
    | cons d a =>
      obtain ⟨rfl, -⟩ := List.cons.inj after
      exact absurd (List.mem_append_right name List.mem_cons_self) noColon
  · -- the name runs past the word: its next character would have to stop a name
    cases c with
    | nil => simp
    | cons d c =>
      have inName : isNameChar d = true :=
        isNameChar_of_mem named (List.mem_append_right w List.mem_cons_self)
      rw [stop d rfl] at inName
      cases inName

theorem toLower_of_isName {s : Bytes} (named : isName s = true) :
    Bytes.toLower s = Bytes.lowerAscii s := by
  refine HeaderName.toLower_of_ascii fun c member => ?_
  have inName := isNameChar_of_mem named member
  simp only [isNameChar, Octet.isAlnum, Octet.isAlpha, Octet.isUpper, Octet.isLower,
    Octet.isDigit, Bool.or_eq_true, Bool.and_eq_true, decide_eq_true_eq, beq_iff_eq,
    UInt8.le_iff_toNat_le, UInt8.reduceToNat] at inName
  rw [UInt8.lt_iff_toNat_lt]
  show c.toNat < 128
  rcases inName with (((⟨-, h⟩ | ⟨-, h⟩) | ⟨-, h⟩) | rfl) | rfl | rfl
  all_goals first | omega | decide

end Scheme

theorem Octet.toLower_toLower (c : UInt8) : Octet.toLower (Octet.toLower c) = Octet.toLower c := by
  rw [← UInt8.toNat_inj]
  simp only [Grammar.toNat_toLower]
  split_ifs <;> omega

namespace Scheme

theorem isNameChar_iff (c : UInt8) : isNameChar c = true ↔
    (65 ≤ c.toNat ∧ c.toNat ≤ 90) ∨ (97 ≤ c.toNat ∧ c.toNat ≤ 122) ∨ (48 ≤ c.toNat ∧ c.toNat ≤ 57) ∨
      c.toNat = 43 ∨ c.toNat = 45 ∨ c.toNat = 46 := by
  simp only [isNameChar, Octet.isAlnum, Octet.isAlpha, Octet.isUpper, Octet.isLower,
    Octet.isDigit, Bool.or_eq_true, Bool.and_eq_true, decide_eq_true_eq, beq_iff_eq,
    UInt8.le_iff_toNat_le, UInt8.reduceToNat, ← UInt8.toNat_inj]
  omega

theorem isAlpha_iff (c : UInt8) : Octet.isAlpha c = true ↔
    (65 ≤ c.toNat ∧ c.toNat ≤ 90) ∨ (97 ≤ c.toNat ∧ c.toNat ≤ 122) := by
  simp only [Octet.isAlpha, Octet.isUpper, Octet.isLower, Bool.or_eq_true, Bool.and_eq_true,
    decide_eq_true_eq, UInt8.le_iff_toNat_le, UInt8.reduceToNat]

theorem lowerAscii_isName {s : Bytes} (named : isName s = true) :
    isName (Bytes.lowerAscii s) = true ∧ Bytes.toLower (Bytes.lowerAscii s) = Bytes.lowerAscii s := by
  obtain ⟨c, t, rfl, alpha, chars⟩ := isName_iff.1 named
  have lowered : isName (Bytes.lowerAscii (c :: t)) = true := by
    refine isName_iff.2 ⟨Octet.toLower c, t.map Octet.toLower, rfl, ?_, ?_⟩
    · rw [isAlpha_iff] at alpha ⊢
      rw [Grammar.toNat_toLower]
      split_ifs <;> omega
    · intro d member
      obtain ⟨e, inner, rfl⟩ := List.mem_map.1 member
      have inName := (isNameChar_iff e).1 (chars e inner)
      rw [isNameChar_iff, Grammar.toNat_toLower]
      split_ifs <;> omega
  refine ⟨lowered, ?_⟩
  rw [toLower_of_isName lowered, Bytes.lowerAscii, Bytes.lowerAscii, List.map_map]
  exact List.map_congr_left fun d _ => Octet.toLower_toLower d

end Scheme

namespace Percent

variable {keep : UInt8 → Bool}

theorem mem_encode {s : Bytes} {c : UInt8} (member : c ∈ encode keep s) :
    keep c = true ∨ c = 37 ∨ Octet.isHex c = true :=
  (Grammar.escaped_encode (fun _ kept => kept) s).mem member

theorem encode_eq_self {s : Bytes} (noPercent : 37 ∉ encode keep s) : encode keep s = s := by
  induction s using Percent.encode.induct with
  | case1 => rfl
  | case2 a b rest digits ih =>
    rw [encode_escape keep digits] at noPercent
    exact absurd List.mem_cons_self noPercent
  | case3 a b rest broken ih =>
    rw [encode_broken keep broken] at noPercent
    exact absurd (List.mem_append_left _ (by by_cases kept : keep 37 = true <;>
      simp [encode.escapeOne, kept])) noPercent
  | case4 c rest short ih =>
    rw [encode.eq_3 keep _ _ short] at noPercent ⊢
    by_cases kept : keep c = true
    · simp only [encode.escapeOne, kept, if_true, List.cons_append, List.nil_append,
        List.mem_cons, not_or] at noPercent ⊢
      rw [ih noPercent.2]
    · simp [encode.escapeOne, kept] at noPercent

end Percent

namespace Grammar

theorem escaped_of_chars {ok : UInt8 → Bool} {t : Bytes} (chars : ∀ c ∈ t, ok c = true) :
    Escaped ok t := by
  induction t with
  | nil => exact .nil
  | cons c t ih =>
    exact .plain (chars c List.mem_cons_self) (ih fun d member => chars d (List.mem_cons_of_mem c member))

/-- A text that opens with a password and its `@`. -/
def PasswordFront (p : Bytes) : Prop :=
  ∃ pw t, p = pw ++ 64 :: t ∧ Escaped Percent.isPasswordChar pw

theorem userFront_name_colon {name p : Bytes} (named : Scheme.isName name = true) :
    UserFront (name ++ 58 :: p) ↔ PasswordFront p := by
  constructor
  · rintro ⟨x, y, split, user, written, -, pw, password, rfl⟩
    have noColon : 58 ∉ user := ne_of_escaped (by decide) (by decide) (by decide) written
    have stop : ∀ c, (passwordText pw ++ 64 :: y).head? = some c → Scheme.isNameChar c = false := by
      intro c first
      cases pw <;> simp only [passwordText, List.cons_append, List.nil_append, List.head?_cons,
        Option.some.injEq] at first <;> subst first <;> decide
    rw [List.append_assoc] at split
    obtain ⟨-, rest⟩ := Scheme.eq_of_name_colon named noColon stop split
    cases pw with
    | none => simp [passwordText] at rest
    | some q =>
      simp only [passwordText, List.cons_append, List.cons.injEq, true_and] at rest
      exact ⟨q, y, rest.symm, password q rfl⟩
  · rintro ⟨pw, t, rfl, password⟩
    have userChars : ∀ c ∈ name, Percent.isUserChar c = true := fun c member => by
      have inName := (Scheme.isNameChar_iff c).1 (Scheme.isNameChar_of_mem named member)
      simp only [Percent.isUserChar, Percent.isUnreserved, Percent.isMark, Octet.isAlnum,
        Octet.isAlpha, Octet.isUpper, Octet.isLower, Octet.isDigit, Bool.or_eq_true,
        Bool.and_eq_true, decide_eq_true_eq, beq_iff_eq, UInt8.le_iff_toNat_le, UInt8.reduceToNat,
        ← UInt8.toNat_inj]
      omega
    obtain ⟨c, t', rfl, -, -⟩ := Scheme.isName_iff.1 named
    exact ⟨c :: t' ++ 58 :: pw, t, by simp,
      ⟨c :: t', escaped_of_chars userChars, List.cons_ne_nil c t', some pw,
        fun q same => by cases same; exact password, rfl⟩⟩

end Grammar

end SipCodec
