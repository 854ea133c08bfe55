import Mathlib.Data.List.TakeWhile
import SipCodec.Proofs.Message.HeadCut
import SipCodec.Proofs.Text.Lexical

/-! A head while it is still arriving: the front of a `Resumable` head reads as missing input, and
both conditions of `Resumable` are needed. -/

namespace SipCodec.Header

open Grammar

theorem front_of_append {q Q x y : Bytes} (split : q ++ Q = x ++ y) :
    (∃ past, q = x ++ past ∧ past ++ Q = y) ∨ ∃ part, x = q ++ part ∧ part ≠ [] := by
  rcases List.append_eq_append_iff.1 split with ⟨part, rfl, -⟩ | ⟨past, rfl, rfl⟩
  · cases part with
    | nil => exact .inl ⟨[], by simp, by simpa using split⟩
    | cons d part => exact .inr ⟨d :: part, rfl, by simp⟩
  · exact .inl ⟨past, rfl, rfl⟩

/-- A text that starts with a line break folded by a blank. -/
def StartsFolded (s : Bytes) : Prop := ∃ eol x, IsLineEnd eol ∧ s = eol ++ x ∧ Folds x = true

/-- The text after the first colon. -/
def afterColon (s : Bytes) : Bytes := (s.dropWhile (· != 58)).drop 1

theorem StartsFolded.append {x : Bytes} (folded : StartsFolded x) (y : Bytes) :
    StartsFolded (x ++ y) := by
  obtain ⟨eol, z, ends, rfl, folds⟩ := folded
  have filled : z ≠ [] := by
    rintro rfl
    cases folds
  exact ⟨eol, z ++ y, ends, by simp, by rw [folds_append filled, folds]⟩

/-- Whether a text starts with a line break folded by a blank, computed. -/
def startsFolded : Bytes → Bool
  | 10 :: c :: _ => Octet.isWsp c
  | 13 :: 10 :: c :: _ => Octet.isWsp c
  | _ => false

theorem startsFolded_iff {s : Bytes} : StartsFolded s ↔ startsFolded s = true := by
  constructor
  · rintro ⟨eol, x, ends, rfl, folds⟩
    cases x with
    | nil => cases folds
    | cons c x => rcases ends with rfl | rfl <;> exact folds
  · intro folded
    unfold startsFolded at folded
    split at folded
    · exact ⟨[10], _, .inl rfl, rfl, folded⟩
    · exact ⟨[13, 10], _, .inr rfl, rfl, folded⟩
    · cases folded

theorem afterColon_line {name ws post : Bytes} (tokens : ∀ c ∈ name, Lexical.isTokenChar c = true)
    (blanks : ∀ c ∈ ws, Octet.isWsp c = true) : afterColon (name ++ ws ++ 58 :: post) = post := by
  have noColon : ∀ c ∈ name ++ ws, (c != 58) = true := by
    intro c mem
    rw [bne_iff_ne]
    rintro rfl
    rcases List.mem_append.1 mem with named | blank
    · exact absurd (tokens 58 named) (by decide)
    · exact absurd (blanks 58 blank) (by decide)
  unfold afterColon
  rw [dropWhile_append_of_stop noColon (by simp)]
  rfl

theorem folds_eq_false_of_valueCharLen {eol x : Bytes} (ends : IsLineEnd eol) (filled : x ≠ [])
    (stops : valueCharLen (eol ++ x) = 0) : Folds x = false := by
  obtain ⟨w, x, rfl⟩ := List.exists_cons_of_ne_nil filled
  show Octet.isWsp w = false
  cases blank : Octet.isWsp w
  · rfl
  · rcases ends with rfl | rfl
    · rw [List.singleton_append, valueCharLen_foldLf blank] at stops
      cases stops
    · rw [show [13, 10] ++ w :: x = 13 :: 10 :: w :: x from rfl, valueCharLen_foldCrLf blank]
        at stops
      cases stops

theorem eq_nil_of_lineEnd_append {eol eol' z : Bytes} (ends : IsLineEnd eol)
    (ends' : IsLineEnd eol') (same : eol = eol' ++ z) : z = [] :=
  (lineEnd_append_inj ends' ends (by rw [List.append_nil]; exact same.symm)).2

theorem shape_of_cut {line after : Bytes} {tok : LineToken}
    (cut : tokenizeLine (line ++ after) = .ok (after, tok)) :
    ∃ name ws v eol, line = name ++ ws ++ 58 :: (v ++ eol) ∧ name ≠ [] ∧
      (∀ c ∈ name, Lexical.isTokenChar c = true) ∧ (∀ c ∈ ws, Octet.isWsp c = true) ∧
      IsLineEnd eol := by
  obtain ⟨name, ws, v, eol, whole, nonempty, tokens, blanks, -, ends, -⟩ :=
    shape_of_tokenizeLine cut
  exact ⟨name, ws, v, eol, List.append_cancel_right (by rw [whole]; simp), nonempty, tokens,
    blanks, ends⟩

theorem lf_of_cut {line after : Bytes} {tok : LineToken}
    (cut : tokenizeLine (line ++ after) = .ok (after, tok)) : ∃ body, line = body ++ [10] := by
  obtain ⟨name, ws, v, eol, rfl, -, -, -, ends⟩ := shape_of_cut cut
  rcases ends with rfl | rfl
  · exact ⟨name ++ ws ++ 58 :: v, by simp⟩
  · exact ⟨name ++ ws ++ 58 :: (v ++ [13]), by simp⟩

theorem afterColon_cut {line after : Bytes} {tok : LineToken}
    (cut : tokenizeLine (line ++ after) = .ok (after, tok)) (x : Bytes) :
    afterColon (line ++ x) = afterColon line ++ x := by
  obtain ⟨name, ws, v, eol, rfl, -, tokens, blanks, -⟩ := shape_of_cut cut
  rw [afterColon_line tokens blanks, List.append_assoc, List.cons_append,
    afterColon_line tokens blanks]

theorem name_blanks_inj {name ws post name' ws' post' : Bytes}
    (tokens : ∀ c ∈ name, Lexical.isTokenChar c = true) (blanks : ∀ c ∈ ws, Octet.isWsp c = true)
    (tokens' : ∀ c ∈ name', Lexical.isTokenChar c = true)
    (blanks' : ∀ c ∈ ws', Octet.isWsp c = true)
    (both : name ++ (ws ++ 58 :: post) = name' ++ (ws' ++ 58 :: post')) :
    name = name' ∧ ws = ws' ∧ post = post' := by
  have sameName : name = name' := by
    have runs := congrArg (List.takeWhile Lexical.isTokenChar) both
    rwa [takeWhile_append_of_stop tokens (isTokenChar_head_blanks blanks),
      takeWhile_append_of_stop tokens' (isTokenChar_head_blanks blanks')] at runs
  subst sameName
  exact ⟨rfl, blanks_colon_inj blanks blanks' (List.append_cancel_left both)⟩

theorem rest_eq_nil_of_mem_prefix {line after q Q : Bytes} {tok : LineToken} {n : Node}
    {rest : Bytes} (cut : tokenizeLine (line ++ after) = .ok (after, tok))
    (unfolded : Folds after = false) (resumes : ¬ StartsFolded (afterColon line))
    (split : q ++ Q = line) (short : Q ≠ []) (member : (n, rest) ∈ messageHeader q) :
    rest = [] := by
  obtain ⟨name, ws, v, eol, whole, -, tokens, blanks, valueRun, ends, -⟩ :=
    shape_of_tokenizeLine cut
  have lineIs : line = name ++ ws ++ 58 :: (v ++ eol) :=
    List.append_cancel_right (by rw [whole]; simp)
  subst lineIs
  rw [afterColon_line tokens blanks] at resumes
  obtain ⟨name', ws', v', eol', rfl, named, -, blanks', valueRun', ends', -, -⟩ :=
    shape_of_mem_messageHeader member
  have tokens' : ∀ c ∈ name', Lexical.isTokenChar c = true := by
    intro c mem
    rw [named] at mem
    exact List.all_eq_true.1 List.all_takeWhile c mem
  obtain ⟨rfl, -, post⟩ := name_blanks_inj tokens' blanks' tokens blanks
    (by simpa only [List.append_assoc, List.cons_append] using split)
  have tailFilled : rest ++ Q ≠ [] := by simp [short]
  have lineStops : Bytes.runLength valueCharLen (eol ++ after) = 0 :=
    runLength_stop (valueCharLen_lineEnd ends unfolded)
  rcases valueRun' with rfl | ⟨filled', length'⟩
  · have next : Folds (rest ++ Q) = false := by
      cases folds : Folds (rest ++ Q)
      · rfl
      · exact absurd ⟨eol', rest ++ Q, ends', by rw [← post]; simp, folds⟩ resumes
    have stops : Bytes.runLength valueCharLen (v ++ eol ++ after) = 0 := by
      have text : v ++ eol ++ after = eol' ++ (rest ++ Q ++ after) := by
        rw [← post]
        simp
      rw [text]
      exact runLength_stop (valueCharLen_lineEnd ends' (by rw [folds_append tailFilled, next]))
    rcases valueRun with rfl | ⟨filled, length⟩
    · have lineEnd : eol = eol' ++ (rest ++ Q) := by simpa using post.symm
      exact absurd (eq_nil_of_lineEnd_append ends ends' lineEnd) tailFilled
    · rw [length] at stops
      exact absurd (List.length_eq_zero_iff.1 stops) filled
  · -- a value run that stops at a line end: with text after that line end, the line's run would
    -- stop there too, and the line would end before its own line end
    refine Classical.byContradiction fun filled => ?_
    obtain ⟨walk, stops⟩ := run_valueText (v' ++ eol' ++ rest)
    have front : (v' ++ eol' ++ rest).take v'.length = v' := by simp
    have back : (v' ++ eol' ++ rest).drop v'.length = eol' ++ rest := by simp
    rw [length', front, back] at walk
    rw [length', back] at stops
    have next : Folds (rest ++ Q ++ after) = false := by
      rw [List.append_assoc, folds_append filled]
      exact folds_eq_false_of_valueCharLen ends' filled stops
    have follows : (eol' ++ rest).head? = (eol' ++ (rest ++ Q ++ after)).head? := by
      obtain ⟨c, eol', rfl⟩ := List.exists_cons_of_ne_nil (IsLineEnd.ne_nil ends')
      rfl
    have run : Bytes.runLength valueCharLen (v ++ eol ++ after) = v'.length := by
      have text : v ++ eol ++ after = v' ++ (eol' ++ (rest ++ Q ++ after)) := by
        rw [← post]
        simp
      rw [text, runLength_valueText walk _ follows,
        runLength_stop (valueCharLen_lineEnd ends' next)]
      simp
    rcases valueRun with rfl | ⟨-, length⟩
    · rw [List.nil_append, lineStops] at run
      exact filled' (List.length_eq_zero_iff.1 run.symm)
    · rw [length] at run
      have sameValue : v' = v :=
        (List.append_inj (by rw [post]) run.symm).1
      subst sameValue
      have lineEnd : eol = eol' ++ (rest ++ Q) := (List.append_cancel_left post).symm
      exact absurd (eq_nil_of_lineEnd_append ends ends' lineEnd) tailFilled

@[simp] theorem isIncomplete_detail (text : Bytes) :
    (Fault.detail .incomplete text).isIncomplete = true := rfl

theorem cutToken_eq_some {s : Bytes} (started : s.takeWhile Lexical.isTokenChar ≠ []) :
    Lexical.cutToken s =
      some (s.takeWhile Lexical.isTokenChar, s.dropWhile Lexical.isTokenChar) := by
  have moves : Lexical.tokenLen s ≠ 0 := by simpa [Lexical.tokenLen] using started
  dsimp only [Lexical.cutToken]
  rw [if_neg moves, Lexical.tokenLen, take_length_takeWhile, drop_length_takeWhile]

theorem lineFault_isIncomplete {q Q name ws post : Bytes} (started : q ≠ [])
    (nonempty : name ≠ []) (tokens : ∀ c ∈ name, Lexical.isTokenChar c = true)
    (blanks : ∀ c ∈ ws, Octet.isWsp c = true) (split : q ++ Q = name ++ ws ++ 58 :: post) :
    (lineFault q).isIncomplete = true := by
  rw [List.append_assoc] at split
  rcases List.append_eq_append_iff.1 split with ⟨more, nameIs, -⟩ | ⟨past, rfl, afterName⟩
  · have allTokens : ∀ c ∈ q, Lexical.isTokenChar c = true :=
      fun c mem => tokens c (by rw [nameIs]; exact List.mem_append_left _ mem)
    have whole : q.takeWhile Lexical.isTokenChar = q := List.takeWhile_eq_self_iff.2 allTokens
    have cut : Lexical.cutToken q = some (q, []) := by
      rw [cutToken_eq_some (by rw [whole]; exact started), whole,
        List.dropWhile_eq_nil_iff.2 allTokens]
    simp [lineFault, cut, skipWsp]
  · have stopPast : ∀ c, past.head? = some c → Lexical.isTokenChar c = false := by
      intro c first
      apply isTokenChar_head_blanks blanks c
      rw [afterName]
      cases past with
      | nil => cases first
      | cons d past => exact first
    have named : (name ++ past).takeWhile Lexical.isTokenChar = name :=
      takeWhile_append_of_stop tokens stopPast
    have cut : Lexical.cutToken (name ++ past) = some (name, past) := by
      rw [cutToken_eq_some (by rw [named]; exact nonempty), named,
        dropWhile_append_of_stop tokens stopPast]
    rcases List.append_eq_append_iff.1 afterName.symm with ⟨more, wsIs, -⟩ | ⟨after, rfl, colon⟩
    · have blank : skipWsp past = [] := List.dropWhile_eq_nil_iff.2 fun c mem =>
        blanks c (by rw [wsIs]; exact List.mem_append_left _ mem)
      simp [lineFault, cut, blank]
    · cases after with
      | nil =>
        rw [List.append_nil] at cut ⊢
        have blank : skipWsp ws = [] := List.dropWhile_eq_nil_iff.2 blanks
        simp [lineFault, cut, blank]
      | cons d after =>
        obtain ⟨rfl, -⟩ := List.cons.inj colon
        have blank : skipWsp (ws ++ 58 :: after) = 58 :: after :=
          dropWhile_append_of_stop blanks (by simp; decide)
        simp [lineFault, cut, blank]

theorem tokenizeLine_prefix {line after q Q : Bytes} {tok : LineToken}
    (cut : tokenizeLine (line ++ after) = .ok (after, tok)) (unfolded : Folds after = false)
    (resumes : ¬ StartsFolded (afterColon line)) (split : q ++ Q = line) (short : Q ≠ [])
    (started : q ≠ []) :
    (∃ e, tokenizeLine q = .error e ∧ e.isIncomplete = true) ∨
      ∃ t, tokenizeLine q = .ok ([], t) := by
  unfold tokenizeLine
  rw [if_neg (by simpa using started)]
  cases matched : matchRule messageHeader q with
  | error e =>
    left
    refine ⟨_, rfl, ?_⟩
    obtain ⟨name, ws, v, eol, whole, nonempty, tokens, blanks, -, -, -⟩ :=
      shape_of_tokenizeLine cut
    have lineIs : line = name ++ ws ++ 58 :: (v ++ eol) :=
      List.append_cancel_right (by rw [whole]; simp)
    exact lineFault_isIncomplete started nonempty tokens blanks (by rw [split, lineIs])
  | ok n =>
    right
    obtain ⟨-, ⟨rest, chosen⟩, -⟩ := matchRule_eq_ok_iff.1 matched
    have member := mem_of_longest chosen
    have nothing := rest_eq_nil_of_mem_prefix cut unfolded resumes split short member
    subst nothing
    obtain ⟨same, -⟩ := text_eq_of_mem_messageHeader member
    have dropped : q.drop n.text.length = [] := by
      rw [same]
      simp
    dsimp only
    rw [dropped]
    exact ⟨_, rfl⟩

end SipCodec.Header

namespace SipCodec.StartLine

theorem cutLine_eq_ok {s line rest : Bytes} (cut : cutLine s = .ok (line, rest)) :
    ∃ pre, s = pre ++ 10 :: rest ∧ 10 ∉ pre ∧ line <+: pre := by
  unfold cutLine at cut
  split at cut
  · rename_i i found
    simp only [Except.ok.injEq, Prod.mk.injEq] at cut
    obtain ⟨lineIs, rfl⟩ := cut
    obtain ⟨inside, isLf, before⟩ := List.idxOf?_eq_some_iff.1 found
    refine ⟨s.take i, ?_, ?_, ?_⟩
    · calc s = s.take i ++ s.drop i := (List.take_append_drop i s).symm
        _ = s.take i ++ 10 :: s.drop (i + 1) := by rw [List.drop_eq_getElem_cons inside, isLf]
    · intro mem
      obtain ⟨j, short, isLf'⟩ := List.mem_iff_getElem.1 mem
      have early : j < i := by
        simp only [List.length_take] at short
        omega
      rw [List.getElem_take] at isLf'
      exact before j early isLf'
    · rw [← lineIs]
      split
      · exact List.dropLast_prefix _
      · exact List.prefix_refl _
  · split at cut <;> cases cut

theorem cutLine_incomplete {s : Bytes} (noLf : 10 ∉ s)
    (allowed : ∀ c ∈ s, isForbidden c = false) :
    ∃ e, cutLine s = .error e ∧ e.isIncomplete = true := by
  have noLine : s.idxOf? 10 = none := List.idxOf?_eq_none_iff.2 noLf
  have clean : s.find? isForbidden = none :=
    List.find?_eq_none.2 fun c mem => by simp [allowed c mem]
  unfold cutLine
  rw [noLine, clean]
  exact ⟨_, rfl, rfl⟩

end SipCodec.StartLine

namespace SipCodec

open Grammar

theorem Version.tokenize_front {s : Bytes} {read : Version.Token × Bytes}
    (cut : Version.tokenize s = .ok read) : ∃ c t, s = c :: t ∧ c ≠ 13 ∧ c ≠ 10 := by
  unfold Version.tokenize Version.tokenWith at cut
  split at cut
  · cases cut
  · rename_i n matched
    obtain ⟨-, ⟨rest, chosen⟩, -⟩ := matchRule_eq_ok_iff.1 matched
    have member := mem_of_longest chosen
    unfold sipVersion at member
    obtain ⟨nodes, chain, -⟩ := mem_concat.1 member
    simp only [Chain] at chain
    obtain ⟨n1, s1, _, protocol, -⟩ := chain
    obtain ⟨same, long, -, -⟩ := mem_literal.1 protocol
    have sip : lit "SIP" = [83, 73, 80] := by rw [lit_eq_data]; rfl
    rw [sip] at same long
    cases s with
    | nil => simp at long
    | cons c t =>
      have lower : Octet.toLower c = Octet.toLower 83 := by
        simp only [Bytes.eqFoldAscii, Bytes.lowerAscii, List.length_cons, List.length_nil,
          List.take_succ_cons, List.map_cons, beq_iff_eq] at same
        exact (List.cons.inj same).1
      refine ⟨c, t, rfl, ?_, ?_⟩ <;> rintro rfl <;> revert lower <;> decide

theorem Method.tokenize_front {s : Bytes} {read : Bytes × Bytes}
    (cut : Method.tokenize s = .ok read) : ∃ c t, s = c :: t ∧ Lexical.isTokenChar c = true := by
  unfold Method.tokenize at cut
  split at cut
  · rename_i p token
    cases s with
    | nil => simp [Lexical.cutToken, Lexical.tokenLen] at token
    | cons c t =>
      cases first : Lexical.isTokenChar c
      · simp [Lexical.cutToken, Lexical.tokenLen, first] at token
      · exact ⟨c, t, rfl, first⟩
  · cases cut

end SipCodec

namespace SipCodec.Message

open Header Grammar

/-- No field line of a text has a folded line break right after its colon. A field line is a
line that starts with a token character after an LF, and its first colon ends its name. -/
def ColonsUnfolded (s : Bytes) : Prop :=
  ∀ pre c rest, s = pre ++ 10 :: c :: rest → Lexical.isTokenChar c = true →
    ¬ StartsFolded (afterColon (c :: rest))

theorem ColonsUnfolded.suffix {x y : Bytes} (colons : ColonsUnfolded (x ++ y)) :
    ColonsUnfolded y :=
  fun pre c rest split token => colons (x ++ pre) c rest (by rw [split]; simp) token

/-- A head that reads the same however it arrives: its start line holds no octet that no start
line may hold, and no field line has a folded line break right after its colon. -/
structure Resumable (head : Bytes) : Prop where
  startLine : ∀ c ∈ head.takeWhile (· != 10), StartLine.isForbidden c = false
  fieldLines : ColonsUnfolded head

/-! Both conditions can be checked. -/

/-- Whether no field line of a text has a folded line break right after its colon, computed. -/
def colonsUnfolded : Bytes → Bool
  | [] => true
  | 10 :: c :: rest =>
    (!Lexical.isTokenChar c || !startsFolded (afterColon (c :: rest))) && colonsUnfolded (c :: rest)
  | _ :: rest => colonsUnfolded rest

theorem colonsUnfolded_nil : ColonsUnfolded [] := by
  intro pre c rest split
  simp at split

theorem colonsUnfolded_cons {x : UInt8} {s : Bytes} : ColonsUnfolded (x :: s) ↔
    (x = 10 → ∀ c rest, s = c :: rest → Lexical.isTokenChar c = true →
      ¬ StartsFolded (afterColon (c :: rest))) ∧ ColonsUnfolded s := by
  constructor
  · intro colons
    refine ⟨?_, ColonsUnfolded.suffix (x := [x]) colons⟩
    rintro rfl c rest rfl token
    exact colons [] c rest rfl token
  · rintro ⟨first, colons⟩ pre c rest split token
    cases pre with
    | nil =>
      simp only [List.nil_append, List.cons.injEq] at split
      exact first split.1 c rest split.2 token
    | cons y pre =>
      simp only [List.cons_append, List.cons.injEq] at split
      exact colons pre c rest split.2 token

theorem colonsUnfolded_lf {c : UInt8} {rest : Bytes} : ColonsUnfolded (10 :: c :: rest) ↔
    (Lexical.isTokenChar c = true → ¬ StartsFolded (afterColon (c :: rest))) ∧
      ColonsUnfolded (c :: rest) := by
  rw [colonsUnfolded_cons]
  exact ⟨fun ⟨first, colons⟩ => ⟨first rfl c rest rfl, colons⟩,
    fun ⟨first, colons⟩ => ⟨by rintro - c' rest' ⟨⟩; exact first, colons⟩⟩

theorem colonsUnfolded_iff {s : Bytes} : ColonsUnfolded s ↔ colonsUnfolded s = true := by
  fun_induction colonsUnfolded s with
  | case1 => exact ⟨fun _ => rfl, fun _ => colonsUnfolded_nil⟩
  | case2 c rest ih =>
    rw [colonsUnfolded_lf, ih, startsFolded_iff]
    cases Lexical.isTokenChar c <;> cases startsFolded (afterColon (c :: rest)) <;> simp
  | case3 x rest other ih =>
    rw [colonsUnfolded_cons, ih]
    exact ⟨fun read => read.2,
      fun read => ⟨fun ten c rest' split => (other c rest' ten split).elim, read⟩⟩

theorem resumable_iff {head : Bytes} : Resumable head ↔
    ((head.takeWhile (· != 10)).all (fun c => !StartLine.isForbidden c) &&
      colonsUnfolded head) = true := by
  simp only [Bool.and_eq_true, List.all_eq_true, Bool.not_eq_true', ← colonsUnfolded_iff]
  exact ⟨fun resumable => ⟨resumable.startLine, resumable.fieldLines⟩,
    fun ⟨allowed, colons⟩ => ⟨allowed, colons⟩⟩

instance : DecidablePred Resumable := fun _ => decidable_of_iff _ resumable_iff.symm

example : Resumable (lit "SIP/2.0 200 OK\r\nContent-Length: 1\r\n\r\n") := by decide +kernel

example : ¬ Resumable (lit "SIP/2.0 200 OK\r\nSubject:\r\n\tabc\r\n\r\n") := by decide +kernel

theorem go_cons_token {n : Nat} {c : UInt8} {s : Bytes} {acc : List LineToken}
    (token : Lexical.isTokenChar c = true) :
    tokenizeFields.go (n + 1) (c :: s) acc =
      (tokenizeLine (c :: s)).bind fun p => tokenizeFields.go n p.1 (p.2 :: acc) := by
  have notLf : c ≠ 10 := by
    rintro rfl
    cases token
  have notCr : c ≠ 13 := by
    rintro rfl
    cases token
  rw [tokenizeFields.go]
  · rfl
  all_goals simp [notLf, notCr]

theorem FieldLines.go_prefix {rest s : Bytes} {toks : List LineToken}
    (cut : FieldLines rest s toks) {F : Bytes} (whole : s = F ++ rest)
    (colons : ColonsUnfolded (10 :: F)) {q Q : Bytes} (split : q ++ Q = F) (short : Q ≠ [])
    {n : Nat} (enough : q.length < n) (acc : List LineToken) :
    ∃ e, tokenizeFields.go n q acc = .error e ∧ e.isIncomplete = true := by
  obtain ⟨m, rfl⟩ : ∃ m, n = m + 1 := ⟨n - 1, by omega⟩
  induction cut generalizing F q m acc with
  | blank ends =>
    rename_i eol
    have eolIs : eol = F := List.append_cancel_right whole
    subst eolIs
    have front : q = [] ∨ q = [13] := by
      rcases ends with rfl | rfl <;> rcases q with _ | ⟨d, _ | ⟨d', q⟩⟩ <;> simp_all
    rcases front with rfl | rfl <;> exact ⟨_, rfl, rfl⟩
  | @line s after tok toks lineCut tail ih =>
    obtain ⟨more, -, rfl⟩ := tail.suffix
    obtain ⟨c, line, rfl, token⟩ := tokenizeLine_front lineCut
    have lineIs : F = c :: line ++ more := List.append_cancel_right (by rw [← whole]; simp)
    subst lineIs
    have unfolded : Folds (more ++ rest) = false := tail.unfolded
    obtain ⟨body, lf⟩ := lf_of_cut lineCut
    have resumes : ¬ StartsFolded (afterColon (c :: line)) := by
      intro folded
      apply colons [] c (line ++ more) rfl token
      rw [show c :: (line ++ more) = c :: line ++ more from rfl, afterColon_cut lineCut]
      exact folded.append more
    have colons' : ColonsUnfolded (10 :: more) := by
      have joined : 10 :: (c :: line ++ more) = (10 :: body) ++ 10 :: more := by
        rw [lf]
        simp
      rw [joined] at colons
      exact colons.suffix
    rcases front_of_append split with ⟨past, rfl, pastQ⟩ | ⟨part, lineIs, filled⟩
    · have unfolded' : Folds past = false := by
        cases past with
        | nil => rfl
        | cons d past =>
          rw [← pastQ] at unfolded
          exact unfolded
      have cutPast := tokenizeLine_append lineCut unfolded'
      have longer : past.length < m := by
        simp only [List.length_append, List.length_cons] at enough
        omega
      obtain ⟨k, rfl⟩ : ∃ k, m = k + 1 := ⟨m - 1, by omega⟩
      rw [List.cons_append, go_cons_token token, ← List.cons_append, cutPast]
      exact ih rfl colons' pastQ (tok :: acc) k longer
    · cases q with
      | nil => exact ⟨_, rfl, rfl⟩
      | cons d q =>
        obtain ⟨rfl, lineIs⟩ := List.cons.inj lineIs
        have front : (c :: q) ++ part = c :: line := by rw [lineIs]
        rw [go_cons_token token]
        rcases tokenizeLine_prefix lineCut unfolded resumes front filled (List.cons_ne_nil _ _) with
          ⟨e, failed, incomplete⟩ | ⟨t, whole⟩
        · rw [failed]
          exact ⟨e, rfl, incomplete⟩
        · obtain ⟨k, rfl⟩ : ∃ k, m = k + 1 := ⟨m - 1, by simp at enough; omega⟩
          rw [whole]
          exact ⟨_, rfl, rfl⟩

namespace StartCut

theorem cutLine {s r : Bytes} {start : StartLine.Token} (cut : StartCut s r start) :
    ∃ line, StartLine.cutLine s = .ok (line, r) := by
  cases cut with
  | status read => exact StartLine.cutLine_of_tokenizeStatus read
  | request _ _ read => exact StartLine.cutLine_of_tokenizeRequest read

end StartCut

theorem tokenizeHead_of_startCut {s r : Bytes} {start : StartLine.Token}
    (cut : StartCut s r start) :
    tokenizeHead s = (tokenizeFields r).map fun p => (p.1, ⟨some start, p.2, []⟩) := by
  unfold tokenizeHead
  cases cut with
  | status read =>
    simp only [read, bind, Except.bind, pure, Except.pure]
    cases tokenizeFields r <;> rfl
  | request failed hard read =>
    simp only [failed, hard, read, Bool.false_eq_true, ↓reduceIte, bind, Except.bind, pure,
      Except.pure]
    cases tokenizeFields r <;> rfl

theorem tokenizeHead_of_status_incomplete {s : Bytes} {e : Fault}
    (status : StartLine.tokenizeStatus s = .error e) (incomplete : e.isIncomplete = true) :
    tokenizeHead s = .error e := by
  simp [tokenizeHead, status, incomplete, bind, Except.bind, throw, throwThe, MonadExceptOf.throw]

/-- Every proper front of a head that reads the same however it arrives is missing input. -/
theorem tokenizeHead_prefix {head body : Bytes} {tok : Token}
    (cut : tokenizeHead (head ++ body) = .ok (body, tok)) (resumable : Resumable head)
    {q Q : Bytes} (split : q ++ Q = head) (short : Q ≠ []) :
    ∃ e, tokenizeHead q = .error e ∧ e.isIncomplete = true := by
  obtain ⟨r, start, fields, startCut, fieldLines, -⟩ := tokenizeHead_eq_ok_iff.1 cut
  obtain ⟨F, -, rfl⟩ := fieldLines.suffix
  obtain ⟨line, lineCut⟩ := startCut.cutLine
  obtain ⟨pre, text, noLf, -⟩ := StartLine.cutLine_eq_ok lineCut
  have headIs : head = pre ++ 10 :: F := List.append_cancel_right (by rw [text]; simp)
  subst headIs
  have fronts : (∃ past, q = pre ++ 10 :: past ∧ past ++ Q = F) ∨ q <+: pre := by
    rcases front_of_append split with ⟨past, rfl, pastQ⟩ | ⟨part, rfl, -⟩
    · cases past with
      | nil => exact .inr (by simp)
      | cons d past =>
        obtain ⟨rfl, rest⟩ := List.cons.inj pastQ
        exact .inl ⟨past, rfl, rest⟩
    · exact .inr (List.prefix_append _ _)
  rcases fronts with ⟨past, rfl, pastQ⟩ | early
  · have startCut' : StartCut (pre ++ 10 :: past) past start := by
      have moved : StartCut ((pre ++ [10]) ++ (F ++ body)) (F ++ body) start := by
        simpa using startCut
      simpa using (moved.append : StartCut ((pre ++ [10]) ++ past) past start)
    have colons : ColonsUnfolded (10 :: F) := resumable.fieldLines.suffix
    obtain ⟨e, failed, incomplete⟩ := fieldLines.go_prefix rfl colons pastQ short
      (Nat.lt_succ_self past.length) []
    refine ⟨e, ?_, incomplete⟩
    rw [tokenizeHead_of_startCut startCut']
    simp only [tokenizeFields, failed]
    rfl
  · -- a front of the start line has no LF and, by the condition, no forbidden octet
    have lineOctets : (pre ++ 10 :: F).takeWhile (· != 10) = pre :=
      takeWhile_append_of_stop (fun c mem => by rw [bne_iff_ne]; rintro rfl; exact noLf mem)
        (by simp)
    have allowed : ∀ c ∈ q, StartLine.isForbidden c = false := fun c mem =>
      resumable.startLine c (by rw [lineOctets]; exact early.subset mem)
    obtain ⟨e, failed, incomplete⟩ :=
      StartLine.cutLine_incomplete (fun mem => noLf (early.subset mem)) allowed
    have status : StartLine.tokenizeStatus q = .error e := by
      simp [StartLine.tokenizeStatus, failed, bind, Except.bind]
    exact ⟨e, tokenizeHead_of_status_incomplete status incomplete, incomplete⟩

theorem StartCut.front {s r : Bytes} {start : StartLine.Token} (cut : StartCut s r start) :
    ∃ c t, s = c :: t ∧ c ≠ 13 ∧ c ≠ 10 := by
  obtain ⟨line, lineCut⟩ := cut.cutLine
  obtain ⟨c, t, rfl, notCr, notLf⟩ : ∃ c t, line = c :: t ∧ c ≠ 13 ∧ c ≠ 10 := by
    cases cut with
    | status read =>
      cases version : Version.tokenize line with
      | error e => simp [StartLine.tokenizeStatus, lineCut, version, bind, Except.bind] at read
      | ok v => exact Version.tokenize_front version
    | request _ _ read =>
      cases method : Method.tokenize line with
      | error e => simp [StartLine.tokenizeRequest, lineCut, method, bind, Except.bind] at read
      | ok m =>
        obtain ⟨c, t, rfl, token⟩ := Method.tokenize_front method
        refine ⟨c, t, rfl, ?_, ?_⟩ <;> rintro rfl <;> cases token
  obtain ⟨pre, rfl, -, more, rfl⟩ := StartLine.cutLine_eq_ok lineCut
  exact ⟨c, t ++ more ++ 10 :: r, by simp, notCr, notLf⟩

/-- A head starts with an octet that is neither CR nor LF, so keep-alives before a message are
never part of it. -/
theorem tokenizeHead_front {s rest : Bytes} {tok : Token} (cut : tokenizeHead s = .ok (rest, tok)) :
    ∃ c t, s = c :: t ∧ c ≠ 13 ∧ c ≠ 10 := by
  obtain ⟨r, start, -, startCut, -⟩ := tokenizeHead_eq_ok_iff.1 cut
  exact startCut.front

/-! ### Completeness decided from a front -/

/-- A head decides where it ends from its own octets: once cut from a text, it is cut the same,
with the same texts, whatever follows it; and when it reads the same however it arrives, each of
its proper fronts is missing input rather than malformed. -/
theorem tokenizeHead_decided_by_front {head rest : Bytes} {tok : Token}
    (cut : tokenizeHead (head ++ rest) = .ok (rest, tok)) :
    (∀ y, tokenizeHead (head ++ y) = .ok (y, tok)) ∧
      (Resumable head → ∀ q Q, q ++ Q = head → Q ≠ [] →
        ∃ e, tokenizeHead q = .error e ∧ e.isIncomplete = true) :=
  ⟨fun _ => tokenizeHead_append cut,
    fun resumable _ _ split short => tokenizeHead_prefix cut resumable split short⟩

/-- A response head with one field, cut from a text that goes on with a body. -/
theorem tokenizeHead_decided_by_front_response :
    let head := lit "SIP/2.0 200 OK\r\nContent-Length: 1\r\n\r\n"
    ∃ tok, tokenizeHead (head ++ lit "x") = .ok (lit "x", tok) ∧ Resumable head ∧
      (∀ y, tokenizeHead (head ++ y) = .ok (y, tok)) ∧
      ∀ q Q, q ++ Q = head → Q ≠ [] → ∃ e, tokenizeHead q = .error e ∧ e.isIncomplete = true := by
  intro head
  have ⟨read, resumable⟩ : (tokenizeHead (head ++ lit "x")).toOption.map Prod.fst = some (lit "x") ∧
      Resumable head := by decide +kernel
  cases cut : tokenizeHead (head ++ lit "x") with
  | error e => simp [cut, Except.toOption] at read
  | ok p =>
    obtain ⟨rest, tok⟩ := p
    obtain rfl : rest = lit "x" := by simpa [cut, Except.toOption] using read
    obtain ⟨same, fronts⟩ := tokenizeHead_decided_by_front cut
    exact ⟨tok, rfl, resumable, same, fronts resumable⟩

/-- Without the condition a front can be refused outright. A status line whose reason phrase holds
a control octet is cut whole, yet its front up to that octet fails as a malformed start line; a
Subject field whose value starts with a folded line break is cut whole, yet its front that stops
inside the fold fails for want of a field name. Neither failure is missing input. -/
theorem tokenizeHead_front_refused :
    let control := lit "SIP/2.0 200 O\x01K\r\n\r\n"
    let folded := lit "SIP/2.0 200 OK\r\nSubject:\r\n\tabc\r\n\r\n"
    (tokenizeHead control).toOption.map Prod.fst = some [] ∧
      ((tokenizeHead (control.take 14)).map fun _ => ()).mapError Fault.kinds = .error [.tokenize] ∧
    (tokenizeHead folded).toOption.map Prod.fst = some [] ∧
      ((tokenizeHead (folded.take 27)).map fun _ => ()).mapError Fault.kinds = .error [.tokenize] := by
  decide +kernel

end SipCodec.Message
