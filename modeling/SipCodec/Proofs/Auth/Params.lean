import SipCodec.Typed.AuthParams
import SipCodec.Proofs.Text.Lexical
import SipCodec.Proofs.Message.HardFaults

/-! Authentication parameters written as tokens or quotable strings are cut from a written list
as the texts they were written from, and read back as the same parameters. -/

namespace SipCodec

namespace AuthParam

open Lexical

/-- A parameter that reads back as written: a token name, and a value that is quotable when it
is written quoted and a token when it is written bare. -/
structure Writable (p : AuthParam) : Prop where
  name : isToken p.name = true
  value : if p.quoted then Quotable p.value else isToken p.value = true

theorem Writable.quoted {n v : Bytes} (name : isToken n = true) (value : Quotable v) :
    (⟨n, v, true⟩ : AuthParam).Writable :=
  ⟨name, by simpa using value⟩

theorem Writable.bare {n v : Bytes} (name : isToken n = true) (value : isToken v = true) :
    (⟨n, v, false⟩ : AuthParam).Writable :=
  ⟨name, by simpa using value⟩

/-- The texts a written parameter is cut into: its name and its value as written. -/
def token (p : AuthParam) : Token :=
  ⟨p.name, if p.quoted then quote p.value else p.value⟩

@[simp] theorem token_name (p : AuthParam) : p.token.name = p.name := rfl

/-- What may follow a parameter in a written list: the end, or a comma and a blank before the
next name. -/
def Follows (rest : Bytes) : Prop :=
  rest = [] ∨ ∃ c more, rest = 44 :: 32 :: c :: more ∧ isTokenChar c = true

theorem token_first {t : Bytes} (tok : isToken t = true) :
    ∃ c more, t = c :: more ∧ isTokenChar c = true := by
  simp only [isToken, Bool.and_eq_true, Bool.not_eq_true', List.isEmpty_eq_false_iff,
    List.all_eq_true] at tok
  obtain ⟨nonempty, chars⟩ := tok
  obtain ⟨c, more, rfl⟩ := List.exists_cons_of_ne_nil nonempty
  exact ⟨c, more, rfl, chars c (List.mem_cons_self ..)⟩

private theorem takeWhile_value {v rest : Bytes} (tok : isToken v = true) (next : Follows rest) :
    (v ++ rest).takeWhile (!endsValue ·) = v := by
  simp only [isToken, Bool.and_eq_true, Bool.not_eq_true', List.isEmpty_eq_false_iff,
    List.all_eq_true] at tok
  have inside : ∀ c ∈ v, (!endsValue c) = true := by
    intro c member
    obtain ⟨blank, cr, lf, -, comma, -⟩ := isTokenChar_facts (tok.2 c member)
    simp only [Octet.isWsp, Bool.or_eq_false_iff, beq_eq_false_iff_ne] at blank
    simp [endsValue, blank, cr, lf, comma]
  rw [List.takeWhile_append_of_pos inside]
  rcases next with rfl | ⟨c, more, rfl, -⟩
  · simp
  · simp [endsValue]

theorem tokenize_render {p : AuthParam} (w : p.Writable) {rest : Bytes} (next : Follows rest) :
    tokenize (p.render ++ rest) = .ok (rest, p.token) := by
  have split : p.render ++ rest =
      p.name ++ 61 :: ((if p.quoted then quote p.value else p.value) ++ rest) := by
    simp [render]
  have cut := cutToken_append w.name (c := 61) (by decide)
    ((if p.quoted then quote p.value else p.value) ++ rest)
  have eq := cutByte_self (c := 61) (by decide) (by decide)
    ((if p.quoted then quote p.value else p.value) ++ rest)
  have value := w.value
  cases quoted : p.quoted with
  | true =>
    simp only [quoted, if_true] at value cut eq split
    rw [quote_eq_wrap, List.cons_append,
      skipLws_of_start (by decide) (by decide), ← List.cons_append, ← quote_eq_wrap] at eq
    rw [split, tokenize]
    simp only [cut, eq]
    rw [cutQuoted_quote_append value]
    have opens : quote p.value ++ rest = 34 :: ((quote p.value).tail ++ rest) := by
      rw [quote_eq_wrap]
      rfl
    rw [opens]
    simp [token, quoted]
  | false =>
    simp only [quoted, Bool.false_eq_true, if_false] at value cut eq split
    obtain ⟨c, more, shape, first⟩ := token_first value
    obtain ⟨blank, cr, -, notQuote, -⟩ := isTokenChar_facts first
    rw [shape, List.cons_append, skipLws_of_start blank cr, ← List.cons_append, ← shape] at eq
    rw [split, tokenize]
    simp only [cut, eq]
    rw [takeWhile_value value next]
    split
    · rename_i same
      rw [shape, List.cons_append] at same
      exact absurd (List.cons.inj same).1 notQuote
    · simp [token, quoted, shape]

theorem Token.read_quote (n : Bytes) {v : Bytes} (q : Quotable v) :
    Token.read ⟨n, quote v⟩ = (v, true) := by
  simp only [Token.read]
  rw [if_pos (show isQuoted (quote v) = true from q), unquote_quote]

theorem Token.read_bare (n : Bytes) {v : Bytes} (tok : isToken v = true) :
    Token.read ⟨n, v⟩ = (v, false) := by
  obtain ⟨c, more, shape, first⟩ := token_first tok
  have notQuote := (isTokenChar_facts first).2.2.2.1
  simp only [Token.read]
  rw [shape, isQuoted_cons_of_ne notQuote]
  rfl

theorem read_token {p : AuthParam} (w : p.Writable) : p.token.read = (p.value, p.quoted) := by
  have value := w.value
  cases quoted : p.quoted with
  | true =>
    simp only [quoted, if_true] at value
    simp only [token, quoted, if_true]
    exact Token.read_quote _ value
  | false =>
    simp only [quoted, Bool.false_eq_true, if_false] at value
    simp only [token, quoted, Bool.false_eq_true, if_false]
    exact Token.read_bare _ value

private theorem render_first {p : AuthParam} (w : p.Writable) (more : Bytes) :
    ∃ c rest, p.render ++ more = c :: rest ∧ isTokenChar c = true := by
  obtain ⟨c, name, shape, first⟩ := token_first w.name
  refine ⟨c, name ++ 61 :: ((if p.quoted then quote p.value else p.value) ++ more), ?_, first⟩
  simp [render, shape]

theorem joined_first {p : AuthParam} (w : p.Writable) (ps : List AuthParam) :
    ∃ c rest, Bytes.joinWith [44, 32] ((p :: ps).map render) = c :: rest ∧
      isTokenChar c = true := by
  cases ps with
  | nil => simpa [Bytes.joinWith] using render_first w []
  | cons q ps =>
    simpa [Bytes.joinWith] using render_first w (44 :: 32 :: Bytes.joinWith [44, 32] ((q :: ps).map render))

private theorem length_le_joinWith (ps : List AuthParam) :
    ps.length ≤ (Bytes.joinWith [44, 32] (ps.map render)).length := by
  induction ps with
  | nil => simp
  | cons p ps ih =>
    cases ps with
    | nil =>
      simp only [List.map_cons, List.map_nil, Bytes.joinWith, render, List.length_append,
        List.length_cons, List.length_nil]
      omega
    | cons q ps =>
      simp only [List.map_cons, Bytes.joinWith, List.length_append, List.length_cons] at ih ⊢
      simp only [render, List.length_append, List.length_cons] at ih ⊢
      omega

private theorem list_go_joined {ps : List AuthParam} (w : ∀ p ∈ ps, p.Writable) (nonempty : ps ≠ [])
    (fuel : Nat) (enough : ps.length ≤ fuel) (acc : List Token) :
    Scan.list.go tokenize fuel (Bytes.joinWith [44, 32] (ps.map render)) acc =
      .ok ([], acc.reverse ++ ps.map token) := by
  induction ps generalizing fuel acc with
  | nil => contradiction
  | cons p ps ih =>
    obtain ⟨fuel, rfl⟩ : ∃ f, fuel = f + 1 := ⟨fuel - 1, by simp at enough; omega⟩
    have wp := w p (List.mem_cons_self ..)
    cases ps with
    | nil =>
      have cut := tokenize_render wp (show Follows [] from Or.inl rfl)
      rw [List.append_nil] at cut
      simp [Scan.list.go, Bytes.joinWith, cut, Lexical.cutByte, Lexical.skipLws,
        Bytes.runLength]
    | cons q ps =>
      have wq := w q (List.mem_cons_of_mem _ (List.mem_cons_self ..))
      obtain ⟨c, rest, shape, first⟩ := joined_first wq ps
      obtain ⟨blank, cr, -⟩ := isTokenChar_facts first
      have cut := tokenize_render wp
        (show Follows (44 :: 32 :: c :: rest) from Or.inr ⟨c, rest, rfl, first⟩)
      have comma : Lexical.cutByte (44 :: 32 :: c :: rest) 44 = some (c :: rest) := by
        rw [cutByte_self (by decide) (by decide), skipLws_blank blank cr]
      have later := ih (fun r member => w r (List.mem_cons_of_mem _ member)) (List.cons_ne_nil _ _)
        fuel (by simp at enough ⊢; omega) (token p :: acc)
      rw [shape] at later
      simp only [List.map_cons, Bytes.joinWith] at shape later ⊢
      rw [List.append_assoc, List.cons_append, List.cons_append, List.nil_append, shape]
      simp [Scan.list.go, cut, comma, later]

/-- Parameters written one after another, joined by a comma and a blank, are cut back as the
texts they were written from. -/
theorem list_joined {ps : List AuthParam} (w : ∀ p ∈ ps, p.Writable) (nonempty : ps ≠ []) :
    Scan.list tokenize (joined (ps.map render)) = .ok ([], ps.map token) := by
  obtain ⟨p, ps, rfl⟩ := List.exists_cons_of_ne_nil nonempty
  obtain ⟨c, rest, shape, first⟩ := joined_first (w p (List.mem_cons_self ..)) ps
  obtain ⟨blank, cr, -⟩ := isTokenChar_facts first
  have enough := length_le_joinWith (p :: ps)
  have comma : lit ", " = [44, 32] := by rw [lit_eq_data]; rfl
  rw [joined, comma, Scan.list, shape, skipLws_of_start blank cr, ← shape,
    list_go_joined w nonempty _ (by omega)]
  simp

end AuthParam

open Lexical in
theorem AuthToken.tokenize_written {scheme : Bytes} (named : isToken scheme = true)
    {ps : List AuthParam} (w : ∀ p ∈ ps, p.Writable) (nonempty : ps ≠ []) :
    AuthToken.tokenize (scheme ++ [32] ++ AuthParam.joined (ps.map AuthParam.render)) =
      .ok ([], ⟨scheme, ps.map AuthParam.token⟩) := by
  obtain ⟨p, qs, rfl⟩ := List.exists_cons_of_ne_nil nonempty
  obtain ⟨c, rest, shape, first⟩ := AuthParam.joined_first (w p (List.mem_cons_self ..)) qs
  obtain ⟨blank, cr, lf, -⟩ := isTokenChar_facts first
  obtain ⟨s, name, schemeShape, schemeFirst⟩ := AuthParam.token_first named
  obtain ⟨schemeBlank, schemeCr, -⟩ := isTokenChar_facts schemeFirst
  have written := AuthParam.list_joined w nonempty
  have comma : lit ", " = [44, 32] := by rw [lit_eq_data]; rfl
  rw [AuthParam.joined, comma, shape] at written ⊢
  have front : skipLws (scheme ++ 32 :: c :: rest) = scheme ++ 32 :: c :: rest := by
    rw [schemeShape, List.cons_append, skipLws_of_start schemeBlank schemeCr]
  have cut : cutToken (scheme ++ 32 :: c :: rest) = some (scheme, 32 :: c :: rest) :=
    cutToken_append named (by decide) _
  have filled : Scan.isEmptyValue (32 :: c :: rest) = false := by
    simp [Scan.isEmptyValue, skipLws_blank blank cr, cr, lf]
  have blankCut : Scan.cutLws (32 :: c :: rest) = some (c :: rest) := by
    simp [Scan.cutLws, skipLws_blank blank cr]
  rw [List.append_assoc, List.singleton_append, AuthToken.tokenize]
  simp [front, cut, filled, blankCut, written]

end SipCodec
