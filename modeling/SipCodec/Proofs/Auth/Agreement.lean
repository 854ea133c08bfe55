import SipCodec.Auth.Digest
import SipCodec.Proofs.Auth.Params
import SipCodec.Proofs.Text.Folding

/-! Digest client and server agree: the credentials a client computes for a challenge pass the
server's check, also after they are written and read back when their texts survive the wire. -/

namespace SipCodec

theorem Outcome.exists_of_isOk {α : Type} {x : Outcome α} (ok : x.isOk = true) :
    ∃ a, x = .ok a := by
  cases x with
  | error e => cases ok
  | ok a => exact ⟨a, rfl⟩

theorem Outcome.bind_eq_ok {α β : Type} {x : Outcome α} {f : α → Outcome β} {b : β}
    (h : (x >>= f) = .ok b) : ∃ a, x = .ok a ∧ f a = .ok b := by
  cases x with
  | error e => cases h
  | ok a => exact ⟨a, rfl, h⟩

/-! ### Hex digits -/

theorem Octet.hexDigitLower_facts {d : Nat} (small : d < 16) :
    toLower (hexDigitLower d) = hexDigitLower d ∧ Lexical.isTokenChar (hexDigitLower d) = true ∧
      (0x20 ≤ hexDigitLower d ∧ hexDigitLower d ≤ 0x7E) ∧
      Numeral.digitValue (hexDigitLower d) = some d := by
  have table : ∀ m : Fin 16, toLower (hexDigitLower m) = hexDigitLower m ∧
      Lexical.isTokenChar (hexDigitLower m) = true ∧
      (0x20 ≤ hexDigitLower m ∧ hexDigitLower m ≤ 0x7E) ∧
      Numeral.digitValue (hexDigitLower m) = some m := by decide
  exact table ⟨d, small⟩

namespace Bytes

theorem mem_hexLower {s : Bytes} {c : UInt8} (member : c ∈ hexLower s) :
    ∃ d < 16, c = Octet.hexDigitLower d := by
  simp only [hexLower, List.mem_flatMap, List.mem_cons, List.not_mem_nil, or_false] at member
  obtain ⟨b, -, high | low⟩ := member
  · have bound : b.toNat < 256 := b.toNat_lt_size
    exact ⟨b.toNat / 16, by omega, high⟩
  · exact ⟨b.toNat % 16, Nat.mod_lt _ (by decide), low⟩

theorem lowerAscii_hexLower (s : Bytes) : lowerAscii (hexLower s) = hexLower s := by
  rw [lowerAscii, List.map_congr_left fun c member => ?_, List.map_id]
  obtain ⟨d, small, rfl⟩ := mem_hexLower member
  exact (Octet.hexDigitLower_facts small).1

theorem mem_hexText {n : Nat} {c : UInt8} (member : c ∈ hexText n) :
    ∃ d < 16, c = Octet.hexDigitLower d := by
  induction n using Nat.strongRecOn with
  | _ n ih =>
    rw [hexText] at member
    split at member
    · rename_i small
      simp only [List.mem_singleton] at member
      exact ⟨n, small, member⟩
    · rename_i large
      simp only [List.mem_append, List.mem_singleton] at member
      rcases member with front | last
      · exact ih (n / 16) (by omega) front
      · exact ⟨n % 16, Nat.mod_lt _ (by decide), last⟩

theorem hexText_ne_nil (n : Nat) : hexText n ≠ [] := by
  rw [hexText]
  split <;> simp

end Bytes

/-! ### Nonce counts read back -/

namespace Numeral

theorem readDigits_append (base limit acc : Nat) (xs ys : Bytes) :
    readDigits base limit acc (xs ++ ys) =
      (readDigits base limit acc xs).bind fun a => readDigits base limit a ys := by
  induction xs generalizing acc with
  | nil => rfl
  | cons c xs ih =>
    simp only [List.cons_append, readDigits]
    split
    · rfl
    · split
      · rfl
      · split
        · rfl
        · exact ih _

theorem readDigits_zeros (base limit k : Nat) (rest : Bytes) (positive : 0 < base) :
    readDigits base limit 0 (List.replicate k 48 ++ rest) = readDigits base limit 0 rest := by
  induction k with
  | zero => rfl
  | succ k ih =>
    have zero : digitValue 48 = some 0 := by decide
    simp only [List.replicate_succ, List.cons_append, readDigits, zero]
    rw [if_neg (by omega), if_neg (by omega), Nat.zero_mul, Nat.add_zero]
    exact ih

theorem readDigits_hexText {n limit : Nat} (inRange : n ≤ limit) :
    readDigits 16 limit 0 (Bytes.hexText n) = .ok n := by
  induction n using Nat.strongRecOn with
  | _ n ih =>
    rw [Bytes.hexText]
    split
    · rename_i small
      simp only [readDigits, (Octet.hexDigitLower_facts small).2.2.2]
      rw [if_neg (by omega), if_neg (by omega)]
      simp
    · rename_i large
      have low := Nat.mod_lt n (show 0 < 16 by decide)
      rw [readDigits_append, ih (n / 16) (by omega) (by omega)]
      simp only [Except.bind, readDigits, (Octet.hexDigitLower_facts low).2.2.2]
      rw [if_neg (by omega), if_neg (by omega)]
      have whole : n / 16 * 16 + n % 16 = n := by omega
      simp [whole]

end Numeral

theorem readNonceCount_nonceCountText {n : Nat} (fits : n < Nat.pow 2 32) :
    readNonceCount (nonceCountText n) = .ok n := by
  have nonempty : (nonceCountText n).isEmpty = false := by
    simp [nonceCountText, Bytes.hexText_ne_nil]
  have read : Numeral.parseUnsigned 16 32 (nonceCountText n) = .ok n := by
    rw [Numeral.parseUnsigned, if_neg (by simp [nonempty]), nonceCountText,
      Numeral.readDigits_zeros _ _ _ _ (by decide), Numeral.readDigits_hexText]
    simp only [Nat.pow_eq] at fits ⊢
    omega
  simp [readNonceCount, read]

theorem isToken_nonceCountText (n : Nat) : Lexical.isToken (nonceCountText n) = true := by
  simp only [Lexical.isToken, nonceCountText, Bool.and_eq_true, Bool.not_eq_true',
    List.isEmpty_eq_false_iff, ne_eq, List.append_eq_nil_iff, Bytes.hexText_ne_nil, and_false,
    not_false_eq_true, List.all_eq_true, List.mem_append, List.mem_replicate, true_and]
  rintro c (⟨-, rfl⟩ | member)
  · decide
  · obtain ⟨d, small, rfl⟩ := Bytes.mem_hexText member
    exact (Octet.hexDigitLower_facts small).2.1

/-! ### Responses -/

namespace DigestInputs

theorem response_eq_ok {g : DigestInputs} {r : Bytes} (computed : g.response = .ok r) :
    g.check = .ok () ∧ (∃ f, g.hashFn = .ok f) ∧ ∃ d, r = Bytes.hexLower d := by
  unfold response at computed
  obtain ⟨⟨⟩, checked, computed⟩ := Outcome.bind_eq_ok computed
  obtain ⟨f, hashed, computed⟩ := Outcome.bind_eq_ok computed
  refine ⟨checked, ⟨f, hashed⟩, ?_⟩
  dsimp only at computed
  split at computed <;> exact ⟨_, (Except.ok.inj computed).symm⟩

/-- A computed response passes the check of the same inputs. -/
theorem verify_response {g : DigestInputs} {r : Bytes} (computed : g.response = .ok r) :
    g.verify r = true := by
  obtain ⟨-, -, d, rfl⟩ := response_eq_ok computed
  simp [verify, computed, Bytes.lowerAscii_hexLower]

theorem ofChallenge_eq_ok {c : Challenge} {o : AnswerOptions} {g : DigestInputs}
    (h : ofChallenge c (some o) = .ok g) :
    c.isDigest = true ∧ (∃ f, g.hashFn = .ok f) ∧
      g = ⟨o.username, o.password, c.realm, c.nonce, o.method, o.uri, [],
        c.algorithm.getD ⟨[]⟩, g.qop⟩ ∧
      ∀ q ∈ g.qop, (q.qop = Qop.auth ∨ q.qop = Qop.authInt) ∧ q.cnonce = o.cnonce ∧
        q.nc = (if o.nc == 0 then 1 else o.nc) := by
  unfold ofChallenge at h
  by_cases digest : c.isDigest = true
  · simp only [digest, Bool.not_true, Bool.false_eq_true, if_false, Outcome.pure_eq,
      Outcome.ok_bind] at h
    split at h
    · obtain ⟨f, hashed, h⟩ := Outcome.bind_eq_ok h
      cases h
      exact ⟨digest, ⟨f, hashed⟩, rfl, by simp⟩
    · split at h
      · obtain ⟨f, hashed, h⟩ := Outcome.bind_eq_ok h
        cases h
        exact ⟨digest, ⟨f, hashed⟩, rfl, by simp⟩
      · split at h
        · obtain ⟨f, hashed, h⟩ := Outcome.bind_eq_ok h
          cases h
          exact ⟨digest, ⟨f, hashed⟩, rfl, by simp⟩
        · cases h
  · simp [digest] at h

end DigestInputs

namespace Credentials

theorem verifyWith_of_response {c : Credentials} {m p : Bytes} {g : DigestInputs}
    (inputs : DigestInputs.ofCredentials c m p = .ok g) (computed : g.response = .ok c.response) :
    c.verifyWith m p = .ok true := by
  obtain ⟨checked, ⟨f, hashed⟩, -⟩ := DigestInputs.response_eq_ok computed
  simp [verifyWith, inputs, checked, hashed, DigestInputs.verify_response computed]

theorem answer_eq_ok {c : Challenge} {o : AnswerOptions} {cred : Credentials}
    (plainName : c.userhash ≠ some true) (h : answer c (some o) = .ok cred) :
    ∃ g resp, DigestInputs.ofChallenge c (some o) = .ok g ∧ g.response = .ok resp ∧
      cred = ⟨lit "Digest", g.username, g.realm, g.nonce, g.uri, [], resp, c.algorithm,
        c.opaqueValue, g.qop, []⟩ := by
  unfold answer at h
  obtain ⟨g, inputs, h⟩ := Outcome.bind_eq_ok h
  obtain ⟨resp, computed, h⟩ := Outcome.bind_eq_ok h
  obtain ⟨f, -, h⟩ := Outcome.bind_eq_ok h
  have plain : (c.userhash == some true) = false := by simpa using plainName
  simp only [plain, Bool.false_eq_true, if_false, Outcome.pure_eq] at h
  cases h
  exact ⟨g, resp, inputs, computed, rfl⟩

/-- Credentials computed for a challenge pass the server's check with the same method and
password. -/
theorem answer_verifies {c : Challenge} {o : AnswerOptions} {cred : Credentials}
    (plainName : c.userhash ≠ some true) (answered : answer c (some o) = .ok cred) :
    cred.verifyWith o.method o.password = .ok true := by
  obtain ⟨g, resp, inputs, computed, rfl⟩ := answer_eq_ok plainName answered
  obtain ⟨-, -, shape, -⟩ := DigestInputs.ofChallenge_eq_ok inputs
  refine verifyWith_of_response ?_ computed
  rw [shape]
  simp [DigestInputs.ofCredentials, isDigest, isDigestScheme, Bytes.eqFold_self]

/-- The parameters that digest credentials are written with, in the order they are written. -/
def digestParams (c : Credentials) : List AuthParam :=
  [⟨lit "username", c.username, true⟩, ⟨lit "realm", c.realm, true⟩,
    ⟨lit "nonce", c.nonce, true⟩, ⟨lit "uri", c.digestUri, true⟩,
    ⟨lit "response", c.response, true⟩] ++
  (c.algorithm.map fun a => (⟨lit "algorithm", a.name, false⟩ : AuthParam)).toList ++
  ((c.qop.map fun q => [(⟨lit "cnonce", q.cnonce, true⟩ : AuthParam),
    ⟨lit "nc", q.ncText, false⟩, ⟨lit "qop", q.qop.name, false⟩]).getD []) ++
  (c.opaqueValue.map fun v => (⟨lit "opaque", v, true⟩ : AuthParam)).toList

theorem render_digest {c : Credentials} (digest : c.isDigest = true) :
    c.render = c.scheme ++ [32] ++
      AuthParam.joined ((c.digestParams ++ c.params).map AuthParam.render) := by
  unfold render
  rw [if_neg (by simp [isBare, digest]), items, if_pos digest]
  obtain ⟨scheme, username, realm, nonce, uri, rawUri, response, algorithm, opaqueValue, qop,
    params⟩ := c
  cases algorithm <;> cases qop <;> cases opaqueValue <;>
    simp [digestParams, AuthParam.quotedItem, AuthParam.tokenItem, AuthParam.render]

/-! ### Reading digest parameters one by one -/


namespace Fields

variable (f : Fields) (x : Bytes)

theorem take_username :
    f.take ⟨lit "username", x⟩ = .ok { f with
      cred := { f.cred with username := (AuthParam.Token.read ⟨lit "username", x⟩).1 },
      seen := lit "username" :: f.seen } := by
  simp +decide [take, lit_eq_data]

theorem take_realm :
    f.take ⟨lit "realm", x⟩ = .ok { f with
      cred := { f.cred with realm := (AuthParam.Token.read ⟨lit "realm", x⟩).1 },
      seen := lit "realm" :: f.seen } := by
  simp +decide [take, lit_eq_data]

theorem take_nonce :
    f.take ⟨lit "nonce", x⟩ = .ok { f with
      cred := { f.cred with nonce := (AuthParam.Token.read ⟨lit "nonce", x⟩).1 },
      seen := lit "nonce" :: f.seen } := by
  simp +decide [take, lit_eq_data]

theorem take_uri {u : Uri} (read : Uri.parse (AuthParam.Token.read ⟨lit "uri", x⟩).1 = .ok u) :
    f.take ⟨lit "uri", x⟩ = .ok { f with
      cred := { f.cred with uri := u, rawUri := (AuthParam.Token.read ⟨lit "uri", x⟩).1 },
      seen := lit "uri" :: f.seen } := by
  simp only [AuthParam.Token.read] at read
  simp +decide [take, lit_eq_data, AuthParam.Token.read, read]

theorem take_response :
    f.take ⟨lit "response", x⟩ = .ok { f with
      cred := { f.cred with response := (AuthParam.Token.read ⟨lit "response", x⟩).1 },
      seen := lit "response" :: f.seen } := by
  simp +decide [take, lit_eq_data]

theorem take_algorithm :
    f.take ⟨lit "algorithm", x⟩ = .ok { f with
      cred := { f.cred with
        algorithm := some (Algorithm.ofText (AuthParam.Token.read ⟨lit "algorithm", x⟩).1) },
      seen := lit "algorithm" :: f.seen } := by
  simp +decide [take, lit_eq_data]

theorem take_opaque :
    f.take ⟨lit "opaque", x⟩ = .ok { f with
      cred := { f.cred with opaqueValue := some (AuthParam.Token.read ⟨lit "opaque", x⟩).1 },
      seen := lit "opaque" :: f.seen } := by
  simp +decide [take, lit_eq_data]

theorem take_qop :
    f.take ⟨lit "qop", x⟩ = .ok { f with
      qop := Qop.ofText (AuthParam.Token.read ⟨lit "qop", x⟩).1,
      seen := lit "qop" :: f.seen } := by
  simp +decide [take, lit_eq_data]

theorem take_cnonce :
    f.take ⟨lit "cnonce", x⟩ = .ok { f with
      cnonce := (AuthParam.Token.read ⟨lit "cnonce", x⟩).1,
      seen := lit "cnonce" :: f.seen } := by
  simp +decide [take, lit_eq_data]

theorem take_nc :
    f.take ⟨lit "nc", x⟩ = .ok { f with
      nc := (AuthParam.Token.read ⟨lit "nc", x⟩).1,
      seen := lit "nc" :: f.seen } := by
  simp +decide [take, lit_eq_data]

end Fields

/-! ### Digest credentials read back -/

open Lexical in
/-- What digest credentials need to read back as written: every text written quoted reads back
whole, the URI text reads as the URI `u`, and the algorithm and the quality of protection are
tokens in the spelling they are read back in, with a count that fits in 32 bits. -/
structure Readable (c : Credentials) (u : Uri) : Prop where
  username : Quotable c.username
  realm : Quotable c.realm
  nonce : Quotable c.nonce
  uri : Quotable c.digestUri
  uriRead : Uri.parse c.digestUri = .ok u
  response : Quotable c.response
  algorithm : ∀ a ∈ c.algorithm, isToken a.name = true ∧ Algorithm.ofText a.name = a
  qop : ∀ q ∈ c.qop, Quotable q.cnonce ∧ isToken q.qop.name = true ∧
    Qop.ofText q.qop.name = q.qop ∧ q.nc < Nat.pow 2 32
  opaqueValue : ∀ v ∈ c.opaqueValue, Quotable v

theorem digestNames_tokens :
    Lexical.isToken (lit "username") = true ∧ Lexical.isToken (lit "realm") = true ∧
      Lexical.isToken (lit "nonce") = true ∧ Lexical.isToken (lit "uri") = true ∧
      Lexical.isToken (lit "response") = true ∧ Lexical.isToken (lit "algorithm") = true ∧
      Lexical.isToken (lit "cnonce") = true ∧ Lexical.isToken (lit "nc") = true ∧
      Lexical.isToken (lit "qop") = true ∧ Lexical.isToken (lit "opaque") = true := by
  simp only [lit_eq_data]
  decide

theorem Readable.writable {c : Credentials} {u : Uri} (r : c.Readable u) :
    ∀ p ∈ c.digestParams, p.Writable := by
  obtain ⟨tu, tr, tn, turi, tresp, talg, tcn, tnc, tqop, topq⟩ := digestNames_tokens
  obtain ⟨sc, un, re, no, ur, ra, rs, al, op, qp, ps⟩ := c
  obtain ⟨qun, qre, qno, qur, -, qrs, alg, qop, opq⟩ := r
  cases al <;> cases qp <;> cases op
  all_goals
    simp only [Option.mem_def, Option.some.injEq, forall_eq', reduceCtorEq, false_implies,
      implies_true] at alg qop opq
    simp [digestParams, AuthParam.Writable.quoted, AuthParam.Writable.bare, AuthQop.ncText,
      isToken_nonceCountText, tu, tr, tn, turi, tresp, talg, tcn, tnc, tqop, topq, qun, qre, qno,
      qur, qrs, alg, qop, opq]

theorem ofToken_digestParams {c : Credentials} (digest : c.isDigest = true) {u : Uri}
    (r : c.Readable u) :
    ofToken ⟨c.scheme, c.digestParams.map AuthParam.token⟩ =
      .ok { c with uri := u, rawUri := c.digestUri, params := [] } := by
  obtain ⟨sc, un, re, no, ur, ra, rs, al, op, qp, ps⟩ := c
  obtain ⟨qun, qre, qno, qur, uriRead, qrs, alg, qop, opq⟩ := r
  have counts : ∀ q ∈ qp, readNonceCount (nonceCountText q.nc) = .ok q.nc :=
    fun q member => readNonceCount_nonceCountText (qop q member).2.2.2
  simp only [isDigest] at digest qun qre qno qur uriRead qrs alg qop opq
  cases al <;> cases qp <;> cases op
  all_goals
    simp only [Option.mem_def, Option.some.injEq, forall_eq', reduceCtorEq, false_implies,
      implies_true] at alg qop opq counts
    simp [ofToken, digest, digestParams, AuthParam.token, Fields.take_username,
      Fields.take_realm, Fields.take_nonce, Fields.take_response, Fields.take_uri,
      Fields.take_algorithm, Fields.take_qop, Fields.take_cnonce, Fields.take_nc,
      Fields.take_opaque, AuthParam.Token.read_quote, AuthParam.Token.read_bare, qun, qre, qno,
      qur, qrs, uriRead, alg, qop, opq, isToken_nonceCountText, AuthQop.ncText, empty]
    simp +decide [checkRequired, lit_eq_data, counts]

theorem digestParams_ne_nil (c : Credentials) : c.digestParams ≠ [] := by
  simp [digestParams]

/-- Digest credentials without other parameters, whose texts read back whole, read back as they
were written, with the URI as read from its text. -/
theorem parse_render_digest {c : Credentials} (scheme : Lexical.isToken c.scheme = true)
    (digest : c.isDigest = true) (noParams : c.params = []) {u : Uri} (r : c.Readable u) :
    parse c.render = .ok { c with uri := u, rawUri := c.digestUri } := by
  have written := AuthToken.tokenize_written scheme r.writable (digestParams_ne_nil c)
  obtain ⟨s, name, shape, first⟩ := AuthParam.token_first scheme
  obtain ⟨blank, cr, -⟩ := Lexical.isTokenChar_facts first
  have front : Lexical.skipLws (c.scheme ++ [32] ++
      AuthParam.joined (c.digestParams.map AuthParam.render)) =
      c.scheme ++ [32] ++ AuthParam.joined (c.digestParams.map AuthParam.render) := by
    rw [shape, List.cons_append, List.cons_append, Lexical.skipLws_of_start blank cr]
  rw [render_digest digest, noParams, List.append_nil, parse, Scan.value, front, written]
  have trimmed : Lexical.trimLws [] = [] := by
    simp [Lexical.trimLws, Lexical.skipLws, Bytes.runLength, Bytes.trimRightBy]
  simp [trimmed, ofToken_digestParams digest r]

end Credentials

/-! ### Answers on the wire -/

theorem Algorithm.known_readable :
    ∀ k ∈ Algorithm.known, Lexical.isToken k = true ∧ Algorithm.ofText k = ⟨k⟩ := by
  simp only [Algorithm.ofText, Algorithm.known, List.map_cons, List.map_nil, lit_eq_data]
  decide

theorem Qop.offered_readable :
    (Lexical.isToken Qop.auth.name = true ∧ Qop.ofText Qop.auth.name = Qop.auth) ∧
      (Lexical.isToken Qop.authInt.name = true ∧ Qop.ofText Qop.authInt.name = Qop.authInt) := by
  simp only [Qop.ofText, Qop.auth, Qop.authInt, lit_eq_data]
  decide

theorem Uri.parse_nil : (Uri.parse []).isOk = false := by decide

theorem DigestInputs.response_received_uri {g : DigestInputs} (fresh : g.digestUri = [])
    (u : Uri) (rendered : g.uri.render ≠ []) :
    { g with uri := u, digestUri := g.uri.render }.response = g.response := by
  simp [DigestInputs.response, DigestInputs.check, DigestInputs.hashFn,
    DigestInputs.effectiveAlgorithm, fresh, rendered]

open Lexical in
/-- What an answer needs to survive being written and read back: the texts written as quoted
strings read back whole, the rendered URI reads as a URI, the algorithm, when the challenge names
one, is a known one in its table spelling, and the nonce count fits in 32 bits. -/
structure SurvivesWire (c : Challenge) (o : AnswerOptions) : Prop where
  realm : Quotable c.realm
  nonce : Quotable c.nonce
  opaqueValue : ∀ v ∈ c.opaqueValue, Quotable v
  algorithm : ∀ a ∈ c.algorithm, a.name ∈ Algorithm.known
  username : Quotable o.username
  cnonce : Quotable o.cnonce
  uri : Quotable o.uri.render
  uriReads : ∃ u, Uri.parse o.uri.render = .ok u
  count : o.nc < Nat.pow 2 32

namespace Credentials

/-- An answer whose texts survive the wire is read back by the server as the credentials sent,
with the URI as read from its text, and passes the server's check. -/
theorem answer_survives_wire {c : Challenge} {o : AnswerOptions} {cred : Credentials}
    (plainName : c.userhash ≠ some true) (answered : answer c (some o) = .ok cred)
    (safe : SurvivesWire c o) :
    ∃ received, parse cred.render = .ok received ∧
      received.verifyWith o.method o.password = .ok true := by
  obtain ⟨g, resp, inputs, computed, rfl⟩ := answer_eq_ok plainName answered
  obtain ⟨-, -, shape, offered⟩ := DigestInputs.ofChallenge_eq_ok inputs
  obtain ⟨-, -, d, hex⟩ := DigestInputs.response_eq_ok computed
  obtain ⟨u, uriRead⟩ := safe.uriReads
  obtain ⟨name, password, realm, nonce, method, uri, digestUri, algorithm, qop⟩ := g
  simp only [DigestInputs.mk.injEq] at shape
  obtain ⟨rfl, rfl, rfl, rfl, rfl, rfl, rfl, rfl, -⟩ := shape
  have rendered : o.uri.render ≠ [] := by
    intro empty
    have fails := Uri.parse_nil
    rw [← empty, uriRead] at fails
    cases fails
  have readable : Readable ⟨lit "Digest", o.username, c.realm, c.nonce, o.uri, [], resp,
      c.algorithm, c.opaqueValue, qop, []⟩ u := by
    refine ⟨safe.username, safe.realm, safe.nonce, by simpa [digestUri] using safe.uri,
      by simpa [digestUri] using uriRead, ?_, ?_, ?_, safe.opaqueValue⟩
    · rw [hex]
      refine Lexical.quotable_of_printable fun b member => ?_
      obtain ⟨k, small, rfl⟩ := Bytes.mem_hexLower member
      exact (Octet.hexDigitLower_facts small).2.2.1
    · intro a member
      obtain ⟨token, same⟩ := Algorithm.known_readable a.name (safe.algorithm a member)
      exact ⟨token, same⟩
    · intro q member
      obtain ⟨picked, cnonce, count⟩ := offered q member
      obtain ⟨⟨authToken, authSame⟩, intToken, intSame⟩ := Qop.offered_readable
      refine ⟨cnonce ▸ safe.cnonce, ?_, ?_, ?_⟩
      · rcases picked with picked | picked <;> rw [picked] <;> assumption
      · rcases picked with picked | picked <;> rw [picked] <;> assumption
      · have fits := safe.count
        rw [count]
        simp only [Nat.pow_eq] at fits ⊢
        split <;> omega
  have scheme : Lexical.isToken (lit "Digest") = true := by
    rw [lit_eq_data]
    decide
  refine ⟨_, parse_render_digest scheme (by simp [isDigest, isDigestScheme]) rfl readable, ?_⟩
  refine verifyWith_of_response (g := ⟨o.username, o.password, c.realm, c.nonce, o.method, u,
    o.uri.render, c.algorithm.getD ⟨[]⟩, qop⟩) ?_ ?_
  · simp [DigestInputs.ofCredentials, isDigest, isDigestScheme, digestUri]
  · rw [← computed]
    exact DigestInputs.response_received_uri (g := ⟨o.username, o.password, c.realm, c.nonce,
      o.method, o.uri, [], c.algorithm.getD ⟨[]⟩, qop⟩) rfl u rendered

end Credentials

/-- Digest client and server agree. Credentials answering a challenge that does not ask for a
hashed user name pass the server's check with the method and password they were computed with;
and when the texts they carry survive the wire, the credentials the server reads from their
written form pass it too. -/
theorem digest_answer_verifies {c : Challenge} {o : AnswerOptions} {cred : Credentials}
    (plainName : c.userhash ≠ some true) (answered : Credentials.answer c (some o) = .ok cred) :
    cred.verifyWith o.method o.password = .ok true ∧
      (SurvivesWire c o → ∃ received, Credentials.parse cred.render = .ok received ∧
        received.verifyWith o.method o.password = .ok true) :=
  ⟨Credentials.answer_verifies plainName answered,
    Credentials.answer_survives_wire plainName answered⟩

/-- An answer to a challenge offering both qualities of protection with a session algorithm and
an opaque value, for `sip:bob@biloxi.com`, passes the check before and after the wire. -/
theorem digest_answer_verifies_session :
    let c : Challenge := ⟨lit "Digest", lit "atlanta.com", none,
      lit "84f1c1ae6cbe5ua9c8e88dfa3ecm3459", some (lit "5ccc069c403ebaf9f0171e9517f40e41"), none,
      some ⟨lit "SHA-256-sess"⟩, [Qop.auth, Qop.authInt], none, some false, []⟩
    let o : AnswerOptions := ⟨lit "INVITE",
      ⟨some Scheme.sip, some (Userinfo.ofUser (lit "bob")), ⟨.name (lit "biloxi.com"), none⟩, [], [],
        []⟩, lit "bob", lit "zanzibar", lit "0a4f113b", 1⟩
    ∃ cred, c.userhash ≠ some true ∧ Credentials.answer c (some o) = .ok cred ∧ SurvivesWire c o ∧
      cred.verifyWith o.method o.password = .ok true ∧
      ∃ received, Credentials.parse cred.render = .ok received ∧
        received.verifyWith o.method o.password = .ok true := by
  intro c o
  have plainName : c.userhash ≠ some true := by decide
  have facts : (Credentials.answer c (some o)).isOk = true ∧ Lexical.Quotable c.realm ∧
      Lexical.Quotable c.nonce ∧ (∀ v ∈ c.opaqueValue, Lexical.Quotable v) ∧
      (∀ a ∈ c.algorithm, a.name ∈ Algorithm.known) ∧ Lexical.Quotable o.username ∧
      Lexical.Quotable o.cnonce ∧ Lexical.Quotable o.uri.render ∧
      (Uri.parse o.uri.render).isOk = true := by
    decide +kernel
  obtain ⟨answerOk, realm, nonce, opaqueValue, algorithm, username, cnonce, uri, uriOk⟩ := facts
  obtain ⟨cred, answered⟩ := Outcome.exists_of_isOk answerOk
  have safe : SurvivesWire c o := ⟨realm, nonce, opaqueValue, algorithm, username, cnonce, uri,
    Outcome.exists_of_isOk uriOk, by decide⟩
  obtain ⟨verified, wire⟩ := digest_answer_verifies plainName answered
  exact ⟨cred, plainName, answered, safe, verified, wire safe⟩

/-- A realm read from a quoted pair that escapes a control octet is answered, but the answer is
not read back: the realm is written as a quoted string holding the bare control octet, which no
quoted string may hold. -/
theorem answer_control_realm_unreadable :
    ((Challenge.parse (lit "Digest realm=\"a\\\x01\", nonce=\"n\"")).bind fun c =>
      (Uri.parse (lit "sip:b@c")).bind fun u =>
        (Credentials.answer c (some ⟨lit "INVITE", u, lit "u", lit "p", lit "x", 0⟩)).map
          fun cred => (Credentials.parse cred.render).isOk).toOption = some false := by
  decide +kernel

end SipCodec
