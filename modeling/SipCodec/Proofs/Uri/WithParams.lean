import SipCodec.Proofs.Uri.RoundTrip
import SipCodec.Uri.WithParams

/-! Writing a URI with header parameters, or a list of them, and reading it back. -/

namespace SipCodec

namespace Grammar

theorem isGenericParamChar_of_escaped {t : Bytes} (written : Escaped Percent.isParamChar t) :
    ∀ c ∈ t, isGenericParamChar c = true := by
  have hex : ∀ n < 256, Octet.isHex n.toUInt8 = true → isGenericParamChar n.toUInt8 = true := by
    decide +kernel
  intro c member
  rcases written.mem member with kept | rfl | digit
  · simp [isGenericParamChar, kept]
  · rfl
  · have generic := hex c.toNat c.toNat_lt
    simp only [Nat.toUInt8, UInt8.ofNat_toNat] at generic
    exact generic digit

/-- What may follow a header parameter as written: another one, a comma or the end. -/
def AfterGeneric (z : Bytes) : Prop := ∀ c ∈ z.head?, c = 59 ∨ c = 44

theorem AfterGeneric.plain {z : Bytes} (after : AfterGeneric z) :
    ∀ c ∈ z.head?, Octet.isWsp c = false ∧ c ≠ 13 ∧ c ≠ 34 ∧ c ≠ 61 ∧
      isGenericParamChar c = false := by
  intro c first
  rcases after c first with rfl | rfl <;> decide

theorem lws_of_head {s : Bytes} (plain : ∀ c ∈ s.head?, Octet.isWsp c = false ∧ c ≠ 13) :
    lws s = [] := by
  rcases s with _ | ⟨c, s⟩
  · simp [lws, concat_eq, chains, Grammar.optional, wsps, crlf, run_eq, Grammar.literal]
  · obtain ⟨blank, cr⟩ := plain c rfl
    have word : lit "\r\n" = [13, 10] := by
      rw [lit_eq_data]
      rfl
    have differ : Octet.toLower c ≠ Octet.toLower 13 :=
      fun same => cr ((toLower_eq_iff_of_mark (by decide) (by decide) c).1 same)
    have noCrlf : crlf (c :: s) = [] := by
      simp [crlf, Grammar.literal, word, Bytes.eqFoldAscii, Bytes.lowerAscii, differ]
    simp [lws, concat_eq, chains, Grammar.optional, wsps, run_eq, blank, noCrlf]

theorem sws_of_head {s : Bytes} (plain : ∀ c ∈ s.head?, Octet.isWsp c = false ∧ c ≠ 13) :
    sws s = [(.mk "SWS" [] [], s)] := by
  simp [sws, Grammar.optional, lws_of_head plain]

theorem quotedString_of_head {s : Bytes} (other : ∀ c ∈ s.head?, c ≠ 34) : quotedString s = [] := by
  rcases s with _ | ⟨c, s⟩
  · simp [quotedString, concat_eq, chains, octet_nil]
  · simp [quotedString, concat_eq, chains, octet_cons (c := 34) (by decide), other c rfl]

theorem generic_facts {c : UInt8} (generic : isGenericParamChar c = true) :
    Octet.isWsp c = false ∧ c ≠ 13 ∧ c ≠ 34 ∧ c ≠ 61 := by
  have blank : Octet.isWsp c = false := by
    cases h : Octet.isWsp c
    · rfl
    · simp only [Octet.isWsp, Bool.or_eq_true, beq_iff_eq] at h
      rcases h with rfl | rfl <;> exact absurd generic (by decide)
  refine ⟨blank, ?_, ?_, ?_⟩ <;> rintro rfl <;> exact absurd generic (by decide)

theorem octet_equals_of_after {z : Bytes} (after : AfterGeneric z) : octet 61 z = [] := by
  rcases z with _ | ⟨d, more⟩
  · exact octet_nil 61
  · rw [octet_cons (by decide), if_neg (after.plain d rfl).2.2.2.1]

/-- A header parameter written from escaped texts is taken whole by the generic-parameter rule,
and its name and value are found in it as written. -/
theorem genericParam_written {name : Bytes} {value : Option Bytes}
    (named : Escaped Percent.isParamChar name) (nonempty : name ≠ [])
    (valued : ∀ v ∈ value, Escaped Percent.isParamChar v) {z : Bytes} (after : AfterGeneric z) :
    ∃ n, longest (genericParam (59 :: (name ++ valueText value ++ z))) = some (n, z) ∧
      n.text = 59 :: (name ++ valueText value) ∧
      Param.Token.ofNode n "gen-name" "EQUAL gen-value" "gen-value" = ⟨name, value⟩ := by
  have plainZ := after.plain
  have swsZ : sws z = [(.mk "SWS" [] [], z)] :=
    sws_of_head fun d first => ⟨(plainZ d first).1, (plainZ d first).2.1⟩
  have opens : ∀ {t y : Bytes}, t ≠ [] → (∀ c ∈ t, isGenericParamChar c = true) →
      sws (t ++ y) = [(.mk "SWS" [] [], t ++ y)] := by
    intro t y nonempty chars
    obtain ⟨c, more, rfl⟩ := List.exists_cons_of_ne_nil nonempty
    obtain ⟨blank, cr, -⟩ := generic_facts (chars c List.mem_cons_self)
    exact sws_of_head fun d first => by cases first; exact ⟨blank, cr⟩
  have swsStart : ∀ y : Bytes, sws (59 :: y) = [(.mk "SWS" [] [], 59 :: y)] :=
    fun y => sws_of_head fun d first => by cases first; decide
  have swsEquals : ∀ y : Bytes, sws (61 :: y) = [(.mk "SWS" [] [], 61 :: y)] :=
    fun y => sws_of_head fun d first => by cases first; decide
  have nameChars := isGenericParamChar_of_escaped named
  unfold genericParam
  cases value with
  | none =>
    have nameRun : run "gen-name" isGenericParamChar (name ++ z) = [(.mk "gen-name" name [], z)] :=
      run_written nameChars nonempty (fun d first => (plainZ d first).2.2.2.2) "gen-name"
    simp [valueText, concat_eq, chains, Grammar.optional, octet_cons (c := 59) (by decide),
      swsStart, opens nonempty nameChars, nameRun, swsZ, octet_equals_of_after after, longest,
      Node.text.eq_1, Param.Token.ofNode, Node.find?.eq_1, Node.findIn?]
  | some v =>
    have nameRun : ∀ y, run "gen-name" isGenericParamChar (name ++ 61 :: y) =
        [(.mk "gen-name" name [], 61 :: y)] :=
      fun y => run_written nameChars nonempty (fun d first => by cases first; decide) "gen-name"
    rcases v with _ | ⟨c, v⟩
    · have noText : run "gen-text" isGenericParamChar z = [] := by
        rw [run_eq]
        rcases z with _ | ⟨d, more⟩
        · rfl
        · simp [(plainZ d rfl).2.2.2.2]
      simp [valueText, concat_eq, chains, Grammar.optional, Grammar.altFirst,
        octet_cons (c := 59) (by decide), octet_cons (c := 61) (by decide), swsStart, swsEquals,
        opens nonempty nameChars, nameRun, swsZ, quotedString_of_head fun d first =>
          (plainZ d first).2.2.1, noText, longest, Node.text.eq_1, Param.Token.ofNode,
        Node.find?.eq_1, Node.findIn?]
    · have valueChars := isGenericParamChar_of_escaped (valued _ rfl)
      have valueRun : run "gen-text" isGenericParamChar (c :: (v ++ z)) =
          [(.mk "gen-text" (c :: v) [], z)] :=
        run_written valueChars (List.cons_ne_nil c v) (fun d first => (plainZ d first).2.2.2.2) _
      have swsValue : sws (c :: (v ++ z)) = [(.mk "SWS" [] [], c :: (v ++ z))] :=
        opens (List.cons_ne_nil c v) valueChars
      have notQuote : quotedString (c :: (v ++ z)) = [] :=
        quotedString_of_head fun d first => by
          cases first
          exact (generic_facts (valueChars c List.mem_cons_self)).2.2.1
      simp [valueText, concat_eq, chains, Grammar.optional, Grammar.altFirst,
        octet_cons (c := 59) (by decide), octet_cons (c := 61) (by decide), swsStart, swsEquals,
        opens nonempty nameChars, swsValue, nameRun, valueRun,
        notQuote, longest, Node.text.eq_1, Param.Token.ofNode, Node.find?.eq_1, Node.findIn?]

end Grammar

end SipCodec

namespace SipCodec

open Grammar Uri

namespace Params

theorem afterGeneric_paramsText (ws : List (Bytes × Option Bytes)) {z : Bytes}
    (ends : ∀ c ∈ z.head?, c = 44) : AfterGeneric (paramsText ws ++ z) := by
  cases ws with
  | nil => exact fun c first => .inr (ends c first)
  | cons w ws =>
    intro c first
    simp only [paramsText, List.flatMap_cons, List.cons_append, List.head?_cons,
      Option.mem_def, Option.some.injEq] at first
    exact .inl first.symm

theorem tokenize_one_written {name : Bytes} {value : Option Bytes}
    (named : Escaped Percent.isParamChar name) (nonempty : name ≠ [])
    (valued : ∀ v ∈ value, Escaped Percent.isParamChar v) {z : Bytes} (after : AfterGeneric z) :
    Param.tokenize (59 :: (name ++ valueText value ++ z)) = .ok (z, ⟨name, value⟩) := by
  obtain ⟨n, chosen, text, token⟩ := genericParam_written named nonempty valued after
  have matched : matchRule genericParam (59 :: (name ++ valueText value ++ z)) = .ok n :=
    matchRule_eq_ok_iff.2 ⟨by simp, ⟨_, chosen⟩, by simp [text]⟩
  simp only [Param.tokenize, matched, token, text]
  simp

theorem tokenize_go_written {ws : List (Bytes × Option Bytes)} (written : ParamTexts ws)
    {z : Bytes} (ends : ∀ c ∈ z.head?, c = 44) (fuel : Nat) (enough : ws.length < fuel)
    (acc : List Param.Token) :
    tokenize.go fuel (paramsText ws ++ z) acc =
      .ok (z, acc.reverse ++ ws.map fun w => ⟨w.1, w.2⟩) := by
  induction ws generalizing fuel acc with
  | nil =>
    obtain ⟨k, rfl⟩ : ∃ k, fuel = k + 1 := ⟨fuel - 1, by simp at enough; omega⟩
    have stop : Lexical.cutByte z 59 = none := by
      rcases z with _ | ⟨d, more⟩
      · simp [Lexical.cutByte, Lexical.skipLws]
      · obtain rfl := ends d rfl
        rw [Lexical.cutByte, Lexical.skipLws_of_start (by decide) (by decide)]
        rfl
    simp [tokenize.go, paramsText, stop]
  | cons w ws ih =>
    obtain ⟨k, rfl⟩ : ∃ k, fuel = k + 1 := ⟨fuel - 1, by simp at enough; omega⟩
    obtain ⟨named, nonempty, valued⟩ := written w List.mem_cons_self
    have split : paramsText (w :: ws) ++ z = 59 :: (w.1 ++ valueText w.2 ++ (paramsText ws ++ z)) := by
      simp [paramsText]
    rw [split, tokenize.go, Lexical.cutByte_self (by decide) (by decide)]
    simp only [tokenize_one_written named nonempty valued (afterGeneric_paramsText ws ends), bind,
      Except.bind]
    rw [ih (fun x member => written x (List.mem_cons_of_mem w member)) k (by simp at enough; omega)]
    simp

/-- Header parameters without quoted text are cut back as their written texts. -/
theorem tokenize_render {ps : List Param} (named : ∀ p ∈ ps, p.name ≠ [])
    (unquoted : ∀ p ∈ ps, Lexical.isQuoted p.name = false ∧ ∀ v ∈ p.value, Lexical.isQuoted v = false)
    {z : Bytes} (ends : ∀ c ∈ z.head?, c = 44) :
    tokenize (render ps ++ z) = .ok (z, ps.map paramToken) := by
  rw [paramsRender_eq, tokenize, tokenize_go_written (paramTexts_render named unquoted) ends]
  · simp [paramToken]
  · have := length_le_flatMap_cons 59 (fun w => w.1 ++ valueText w.2)
      (ps.map fun p => (Param.escape p.name, p.value.map Param.escape))
    simp only [paramsText, List.length_append, List.length_map] at this ⊢
    omega

end Params

namespace UriWithParams

/-- The texts a URI with header parameters is written as. -/
def written (wp : UriWithParams) : Token := ⟨Uri.written wp.uri, wp.params.map paramToken⟩

/-- What the reader guarantees of every URI with header parameters it gives. -/
structure Shaped (wp : UriWithParams) : Prop where
  uri : wp.uri.Shaped
  params : ∀ p ∈ wp.params, p.name ≠ [] ∧ ∃ tok, Param.ofToken tok = .ok p

/-- A URI with header parameters whose written text is read back as itself: the URI is
rereadable, and the header parameters hold no text that reads as an escape or as quoted. -/
structure Rereadable (wp : UriWithParams) : Prop where
  uri : wp.uri.Rereadable
  params : ∀ p ∈ wp.params, Percent.decode p.name = p.name ∧ Lexical.isQuoted p.name = false ∧
    ∀ v ∈ p.value, Percent.decode v = v ∧ Lexical.isQuoted v = false

/-- A URI with header parameters is cut back into the texts it was written from, up to a comma
or the end. -/
theorem tokenize_render {wp : UriWithParams} (shaped : wp.Shaped) (rereadable : wp.Rereadable)
    {z : Bytes} (ends : ∀ c ∈ z.head?, c = 44) :
    tokenize (wp.render ++ z) = .ok (z, written wp) := by
  have text : wp.render ++ z = 60 :: (wp.uri.render ++ 62 :: (Params.render wp.params ++ z)) := by
    simp [render]
  have uriCut := Uri.tokenize_render shaped.uri rereadable.uri
    (z := 62 :: (Params.render wp.params ++ z)) (.inr ⟨62, _, rfl, .inl rfl⟩)
  have paramsCut := Params.tokenize_render (fun p member => (shaped.params p member).1)
    (fun p member => ⟨(rereadable.params p member).2.1,
      fun v inValue => ((rereadable.params p member).2.2 v inValue).2⟩) ends
  rw [text]
  simp only [tokenize, Lexical.skipLws_of_start (c := 60) (by decide) (by decide), uriCut,
    paramsCut, bind, Except.bind, pure, Except.pure, written]

theorem ofToken_written {wp : UriWithParams} (shaped : wp.Shaped) (rereadable : wp.Rereadable) :
    ofToken (written wp) = .ok wp := by
  have uriRead := Uri.ofToken_written shaped.uri rereadable.uri
  have paramsRead := ofTokens_paramToken (fun p member => (shaped.params p member).2)
    rereadable.params
  simp [ofToken, written, uriRead, paramsRead, bind, Except.bind, pure, Except.pure]

end UriWithParams

end SipCodec
