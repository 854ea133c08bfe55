import SipCodec.Header.Line
import SipCodec.Proofs.Grammar.Matches

/-! How a header line is cut: a name, blanks, a colon, a value and a line end, cut the same
whatever follows unless the next line folds it. -/

namespace SipCodec.Grammar

/-- A header value as `valueCharLen` walks it, given the octet that follows it: plain octets,
a CR followed by something other than LF, and line breaks folded by a blank. -/
inductive ValueText : Bytes → Option UInt8 → Prop
  | nil {next} : ValueText [] next
  | plain {c v next} : c ≠ 10 → c ≠ 13 → ValueText v next → ValueText (c :: v) next
  | bareCr {c v next} : (v.head?.or next) = some c → c ≠ 10 → ValueText v next →
      ValueText (13 :: v) next
  | foldLf {w v next} : Octet.isWsp w = true → ValueText v next → ValueText (10 :: w :: v) next
  | foldCrLf {w v next} : Octet.isWsp w = true → ValueText v next →
      ValueText (13 :: 10 :: w :: v) next

theorem valueCharLen_plain {c : UInt8} (notLf : c ≠ 10) (notCr : c ≠ 13) (rest : Bytes) :
    valueCharLen (c :: rest) = 1 := by
  simp only [valueCharLen]

theorem valueCharLen_bareCr {c : UInt8} (notLf : c ≠ 10) (rest : Bytes) :
    valueCharLen (13 :: c :: rest) = 1 := by
  simp [valueCharLen, notLf]

theorem valueCharLen_foldLf {w : UInt8} (blank : Octet.isWsp w = true) (rest : Bytes) :
    valueCharLen (10 :: w :: rest) = 2 := by
  simp [valueCharLen, blank]

theorem valueCharLen_foldCrLf {w : UInt8} (blank : Octet.isWsp w = true) (rest : Bytes) :
    valueCharLen (13 :: 10 :: w :: rest) = 3 := by
  simp [valueCharLen, blank]

theorem runLength_valueText {v : Bytes} {next : Option UInt8} (walk : ValueText v next)
    (e : Bytes) (follows : next = e.head?) :
    Bytes.runLength valueCharLen (v ++ e) = v.length + Bytes.runLength valueCharLen e := by
  induction walk with
  | nil => simp
  | @plain c v next notLf notCr _ ih =>
    rw [List.cons_append, runLength_step (by simp) (by simp [valueCharLen_plain notLf notCr]),
      valueCharLen_plain notLf notCr, List.drop_one, List.tail_cons, ih follows]
    simp; omega
  | @bareCr c v next after notLf _ ih =>
    obtain ⟨d, more, split⟩ : ∃ d more, v ++ e = d :: more := by
      cases v with
      | nil => cases e with
        | nil => simp_all
        | cons d more => exact ⟨d, more, rfl⟩
      | cons d more => exact ⟨d, more ++ e, rfl⟩
    have same : d = c := by
      cases v with
      | nil => subst follows; simp_all
      | cons x xs => simp_all
    subst same
    rw [List.cons_append, split, runLength_step (by simp) (by simp [valueCharLen_bareCr notLf]),
      valueCharLen_bareCr notLf, List.drop_one, List.tail_cons, ← split, ih follows]
    simp; omega
  | @foldLf w v next blank _ ih =>
    rw [List.cons_append, List.cons_append,
      runLength_step (by simp) (by simp [valueCharLen_foldLf blank]), valueCharLen_foldLf blank]
    simp only [List.drop_succ_cons, List.drop_zero, ih follows, List.length_cons]
    omega
  | @foldCrLf w v next blank _ ih =>
    rw [List.cons_append, List.cons_append, List.cons_append,
      runLength_step (by simp) (by simp [valueCharLen_foldCrLf blank]), valueCharLen_foldCrLf blank]
    simp only [List.drop_succ_cons, List.drop_zero, ih follows, List.length_cons]
    omega

theorem valueCharLen_cases {t : Bytes} (moves : valueCharLen t ≠ 0) :
    (∃ c r, t = c :: r ∧ c ≠ 10 ∧ c ≠ 13 ∧ valueCharLen t = 1) ∨
    (∃ c r, t = 13 :: c :: r ∧ c ≠ 10 ∧ valueCharLen t = 1) ∨
    (∃ w r, t = 10 :: w :: r ∧ Octet.isWsp w = true ∧ valueCharLen t = 2) ∨
    (∃ w r, t = 13 :: 10 :: w :: r ∧ Octet.isWsp w = true ∧ valueCharLen t = 3) := by
  cases t with
  | nil => simp [valueCharLen] at moves
  | cons c r =>
    by_cases lf : c = 10
    · subst lf
      cases r with
      | nil => simp [valueCharLen] at moves
      | cons w r =>
        by_cases blank : Octet.isWsp w = true
        · exact .inr (.inr (.inl ⟨w, r, rfl, blank, by simp [valueCharLen, blank]⟩))
        · simp [valueCharLen, blank] at moves
    · by_cases cr : c = 13
      · subst cr
        cases r with
        | nil => simp [valueCharLen] at moves
        | cons d r =>
          by_cases lf' : d = 10
          · subst lf'
            cases r with
            | nil => simp [valueCharLen] at moves
            | cons w r =>
              by_cases blank : Octet.isWsp w = true
              · exact .inr (.inr (.inr ⟨w, r, rfl, blank, by simp [valueCharLen, blank]⟩))
              · simp [valueCharLen, blank] at moves
          · exact .inr (.inl ⟨d, r, rfl, lf', by simp [valueCharLen, lf']⟩)
      · exact .inl ⟨c, r, rfl, lf, cr, valueCharLen_plain lf cr r⟩

theorem head?_or_take_drop (x : Bytes) (k : Nat) :
    (x.take k).head?.or (x.drop k).head? = x.head? := by
  cases x with
  | nil => simp
  | cons c x => cases k <;> simp

theorem run_valueText (t : Bytes) :
    ValueText (t.take (Bytes.runLength valueCharLen t))
        (t.drop (Bytes.runLength valueCharLen t)).head? ∧
      valueCharLen (t.drop (Bytes.runLength valueCharLen t)) = 0 := by
  induction h : t.length using Nat.strongRecOn generalizing t with
  | ind len ih =>
  by_cases moves : valueCharLen t = 0
  · rw [runLength_stop moves]
    exact ⟨.nil, by simpa using moves⟩
  · have nonempty : t ≠ [] := by rintro rfl; simp [valueCharLen] at moves
    have shorter : (t.drop (valueCharLen t)).length < len := by
      have : 0 < t.length := List.length_pos_iff.mpr nonempty
      simp only [List.length_drop]; omega
    obtain ⟨walk, stops⟩ := ih _ shorter (t.drop (valueCharLen t)) rfl
    rw [runLength_step nonempty moves, ← List.drop_drop, List.take_add]
    refine ⟨?_, stops⟩
    rcases valueCharLen_cases moves with ⟨c, r, rfl, lf, cr, one⟩ | ⟨c, r, rfl, lf, one⟩ |
      ⟨w, r, rfl, blank, two⟩ | ⟨w, r, rfl, blank, three⟩
    · rw [one] at walk ⊢
      exact .plain lf cr walk
    · rw [one] at walk ⊢
      refine .bareCr ?_ lf walk
      simpa using head?_or_take_drop (c :: r) (Bytes.runLength valueCharLen (c :: r))
    · rw [two] at walk ⊢
      exact .foldLf blank walk
    · rw [three] at walk ⊢
      exact .foldCrLf blank walk


def IsLineEnd (eol : Bytes) : Prop := eol = [10] ∨ eol = [13, 10]

theorem mem_lineEnd {s : Bytes} {n : Node} {rest : Bytes}
    (member : (n, rest) ∈ concat "EOL" [optional "[CR]" (octet 13), octet 10] s) :
    ∃ eol, IsLineEnd eol ∧ s = eol ++ rest ∧ n.text = eol ∧ n.find? "header-value" = none := by
  obtain ⟨nodes, chain, rfl⟩ := mem_concat.1 member
  simp only [Chain] at chain
  obtain ⟨cr, mid, _, crMatch, ⟨lf, after, _, lfMatch, ⟨rfl, rfl⟩, rfl⟩, rfl⟩ := chain
  obtain ⟨rfl, rfl⟩ := mem_octet_lf.1 lfMatch
  rcases mem_optional.1 crMatch with ⟨rfl, rfl⟩ | ⟨m, crOctet, rfl⟩
  · exact ⟨[10], .inl rfl, rfl, by simp [Node.text], by simp [Node.find?, Node.findIn?]⟩
  · obtain ⟨rfl, rfl⟩ := mem_octet_cr.1 crOctet
    exact ⟨[13, 10], .inr rfl, rfl, by simp [Node.text], by simp [Node.find?, Node.findIn?]⟩

theorem lineEnd_mem {eol : Bytes} (rest : Bytes) (ends : IsLineEnd eol) :
    ∃ n, (n, rest) ∈ concat "EOL" [optional "[CR]" (octet 13), octet 10] (eol ++ rest) ∧
      n.text = eol ∧ n.find? "header-value" = none := by
  rcases ends with rfl | rfl
  · refine ⟨_, mem_concat.2 ⟨[.mk "[CR]" [] [], .mk (String.singleton (Char.ofNat 10)) [10] []], ?_, rfl⟩,
      by simp [Node.text], by simp [Node.find?, Node.findIn?]⟩
    simp only [Chain]
    exact ⟨_, _, _, mem_optional.2 (.inl ⟨rfl, rfl⟩),
      ⟨_, _, _, mem_octet_lf.2 ⟨rfl, rfl⟩, ⟨rfl, rfl⟩, rfl⟩, rfl⟩
  · refine ⟨_, mem_concat.2 ⟨[.mk "[CR]" [13] [.mk (String.singleton (Char.ofNat 13)) [13] []],
      .mk (String.singleton (Char.ofNat 10)) [10] []], ?_, rfl⟩,
      by simp [Node.text], by simp [Node.find?, Node.findIn?]⟩
    simp only [Chain]
    exact ⟨_, _, _, mem_optional.2 (.inr ⟨_, mem_octet_cr.2 ⟨rfl, rfl⟩, rfl⟩),
      ⟨_, _, _, mem_octet_lf.2 ⟨rfl, rfl⟩, ⟨rfl, rfl⟩, rfl⟩, rfl⟩


theorem runLength_valueCharLen_le (s : Bytes) : Bytes.runLength valueCharLen s ≤ s.length := by
  have walk := (run_valueText s).1
  have whole := runLength_valueText walk (s.drop (Bytes.runLength valueCharLen s)) rfl
  rw [List.take_append_drop, runLength_stop (run_valueText s).2, List.length_take] at whole
  omega

theorem mem_blanks {s : Bytes} {n : Node} {rest : Bytes} (member : (n, rest) ∈ optional "*WSP" wsps s) :
    ∃ ws, s = ws ++ rest ∧ (∀ c ∈ ws, Octet.isWsp c = true) ∧ n.text = ws ∧
      n.find? "header-value" = none := by
  rcases mem_optional.1 member with ⟨rfl, rfl⟩ | ⟨m, blanks, rfl⟩
  · exact ⟨[], rfl, by simp, rfl, by simp [Node.find?, Node.findIn?]⟩
  · obtain ⟨-, rfl, rfl⟩ := mem_run.1 blanks
    refine ⟨s.takeWhile Octet.isWsp, by simp, fun c mem => List.all_eq_true.1 List.all_takeWhile c mem, rfl,
      by simp [Node.find?, Node.findIn?]⟩

theorem mem_valueRun {s : Bytes} {n : Node} {rest : Bytes}
    (member : (n, rest) ∈ optional "*header-value" (runOf "header-value" valueCharLen) s) :
    ∃ v, s = v ++ rest ∧ (v = [] ∨ v ≠ [] ∧ Bytes.runLength valueCharLen s = v.length) ∧
      n.text = v ∧ (n.find? "header-value").map Node.text = if v = [] then none else some v := by
  rcases mem_optional.1 member with ⟨rfl, rfl⟩ | ⟨m, run, rfl⟩
  · exact ⟨[], rfl, .inl rfl, rfl, by simp [Node.find?, Node.findIn?]⟩
  · obtain ⟨positive, rfl, rfl⟩ := mem_runOf.1 run
    have nonempty : s.take (Bytes.runLength valueCharLen s) ≠ [] := by
      have : s ≠ [] := by rintro rfl; simp [Bytes.runLength] at positive
      simp only [ne_eq, List.take_eq_nil_iff, not_or]; exact ⟨by omega, this⟩
    refine ⟨s.take (Bytes.runLength valueCharLen s), by simp, .inr ⟨nonempty, ?_⟩, by simp [Node.text],
      by simp [Node.find?, Node.findIn?, nonempty, Node.text]⟩
    simp [runLength_valueCharLen_le]


end SipCodec.Grammar

namespace SipCodec.Header

open Grammar

/-- The name and value a header line's match is read as. -/
def lineTokenOf (n : Node) : LineToken :=
  ⟨((n.find? "header-name").map Node.text).getD [],
    ((n.find? "header-value").map fun v => skipWsp v.text).getD []⟩

theorem lineTokenOf_parts {name t : Bytes} {blanks value lineEnd : Node}
    (blanksValue : blanks.find? "header-value" = none)
    (endValue : lineEnd.find? "header-value" = none) :
    lineTokenOf (.mk "message-header" t [.mk "header-name" name [], blanks,
        .mk (String.singleton (Char.ofNat 58)) [58] [], value, lineEnd]) =
      ⟨name, ((value.find? "header-value").map fun v => skipWsp v.text).getD []⟩ := by
  have nameFound : Node.find? "header-name" (.mk "message-header" t [.mk "header-name" name [],
      blanks, .mk (String.singleton (Char.ofNat 58)) [58] [], value, lineEnd]) =
      some (.mk "header-name" name []) := by
    simp [Node.find?, Node.findIn?]
  have valueFound : Node.find? "header-value" (.mk "message-header" t [.mk "header-name" name [],
      blanks, .mk (String.singleton (Char.ofNat 58)) [58] [], value, lineEnd]) =
      value.find? "header-value" := by
    simp only [Node.find?, Node.findIn?, blanksValue, endValue]
    simp only [show ("message-header" == "header-value") = false by decide,
      show ("header-name" == "header-value") = false by decide,
      show (String.singleton (Char.ofNat 58) == "header-value") = false by decide]
    cases value.find? "header-value" <;> rfl
  simp only [lineTokenOf, nameFound, valueFound]
  simp [Node.text]

theorem shape_of_mem_messageHeader {s : Bytes} {n : Node} {rest : Bytes}
    (member : (n, rest) ∈ messageHeader s) :
    ∃ name ws v eol, s = name ++ ws ++ 58 :: (v ++ eol ++ rest) ∧
      name = s.takeWhile Lexical.isTokenChar ∧ name ≠ [] ∧ (∀ c ∈ ws, Octet.isWsp c = true) ∧
      (v = [] ∨ v ≠ [] ∧ Bytes.runLength valueCharLen (v ++ eol ++ rest) = v.length) ∧
      IsLineEnd eol ∧ n.text = name ++ ws ++ 58 :: (v ++ eol) ∧
      lineTokenOf n = ⟨name, skipWsp v⟩ := by
  unfold messageHeader at member
  obtain ⟨nodes, chain, rfl⟩ := mem_concat.1 member
  simp only [Chain] at chain
  obtain ⟨n1, s1, _, m1, ⟨n2, s2, _, m2, ⟨n3, s3, _, m3, ⟨n4, s4, _, m4, ⟨n5, s5, _, m5,
    ⟨rfl, rfl⟩, rfl⟩, rfl⟩, rfl⟩, rfl⟩, rfl⟩ := chain
  obtain ⟨nonempty, rfl, rfl⟩ := mem_run.1 m1
  obtain ⟨ws, split2, blanks, text2, value2⟩ := mem_blanks m2
  obtain ⟨rfl, rfl⟩ := mem_octet_colon.1 m3
  obtain ⟨v, rfl, run, text4, value4⟩ := mem_valueRun m4
  obtain ⟨eol, ends, rfl, text5, value5⟩ := mem_lineEnd m5
  refine ⟨s.takeWhile Lexical.isTokenChar, ws, v, eol, ?_, rfl, nonempty, blanks, ?_, ends, ?_, ?_⟩
  · calc s = s.takeWhile Lexical.isTokenChar ++ s.dropWhile Lexical.isTokenChar :=
          List.takeWhile_append_dropWhile.symm
      _ = _ := by rw [split2]; simp
  · simpa [List.append_assoc] using run
  · simp only [List.flatMap_cons, List.flatMap_nil, text2, text4, text5]
    simp [Node.text]
  · rw [lineTokenOf_parts value2 value5]
    congr 1
    have mapped := congrArg (fun o => (o.map skipWsp).getD []) value4
    simp only [Option.map_map] at mapped
    rw [show (skipWsp ∘ Node.text) = fun m => skipWsp m.text from rfl] at mapped
    rw [mapped]
    split <;> simp_all [skipWsp]


theorem takeWhile_append_of_stop {p : UInt8 → Bool} {x y : Bytes} (all : ∀ c ∈ x, p c = true)
    (stop : ∀ c, y.head? = some c → p c = false) : (x ++ y).takeWhile p = x := by
  rw [List.takeWhile_append_of_pos all]
  cases y with
  | nil => simp
  | cons c y => simp [stop c rfl]

theorem dropWhile_append_of_stop {p : UInt8 → Bool} {x y : Bytes} (all : ∀ c ∈ x, p c = true)
    (stop : ∀ c, y.head? = some c → p c = false) : (x ++ y).dropWhile p = y := by
  rw [List.dropWhile_append_of_pos all]
  cases y with
  | nil => rfl
  | cons c y => simp [stop c rfl]

theorem isTokenChar_of_isWsp {c : UInt8} (blank : Octet.isWsp c = true) :
    Lexical.isTokenChar c = false := by
  simp only [Octet.isWsp, Bool.or_eq_true, beq_iff_eq] at blank
  rcases blank with rfl | rfl <;> decide

theorem not_isWsp_of_isTokenChar {c : UInt8} (token : Lexical.isTokenChar c = true) :
    Octet.isWsp c = false := by
  cases blank : Octet.isWsp c
  · rfl
  · rw [isTokenChar_of_isWsp blank] at token
    cases token

theorem isTokenChar_head_blanks {ws post : Bytes} (blanks : ∀ c ∈ ws, Octet.isWsp c = true) :
    ∀ c, (ws ++ 58 :: post).head? = some c → Lexical.isTokenChar c = false := by
  intro c first
  cases ws with
  | nil =>
    simp only [List.nil_append, List.head?_cons, Option.some.injEq] at first
    subst first
    decide
  | cons w ws =>
    simp only [List.cons_append, List.head?_cons, Option.some.injEq] at first
    subst first
    exact isTokenChar_of_isWsp (blanks _ (by simp))

theorem mem_messageHeader_of_shape {name ws v eol rest : Bytes} (nonempty : name ≠ [])
    (tokens : ∀ c ∈ name, Lexical.isTokenChar c = true) (blanks : ∀ c ∈ ws, Octet.isWsp c = true)
    (valueRun : v = [] ∨ v ≠ [] ∧ Bytes.runLength valueCharLen (v ++ eol ++ rest) = v.length)
    (ends : IsLineEnd eol) :
    ∃ n, (n, rest) ∈ messageHeader (name ++ ws ++ 58 :: (v ++ eol ++ rest)) ∧
      n.text = name ++ ws ++ 58 :: (v ++ eol) ∧ lineTokenOf n = ⟨name, skipWsp v⟩ := by
  obtain ⟨lineEnd, endMatch, endText, endValue⟩ := lineEnd_mem rest ends
  obtain ⟨blankNode, blankMatch, blankText, blankValue⟩ :
      ∃ n, (n, 58 :: (v ++ eol ++ rest)) ∈ optional "*WSP" wsps (ws ++ 58 :: (v ++ eol ++ rest)) ∧
        n.text = ws ∧ n.find? "header-value" = none := by
    by_cases empty : ws = []
    · subst empty
      exact ⟨_, mem_optional.2 (.inl ⟨rfl, rfl⟩), rfl, by simp [Node.find?, Node.findIn?]⟩
    · have whole : (ws ++ 58 :: (v ++ eol ++ rest)).takeWhile Octet.isWsp = ws :=
        takeWhile_append_of_stop blanks (by simp; decide)
      have after : (ws ++ 58 :: (v ++ eol ++ rest)).dropWhile Octet.isWsp = 58 :: (v ++ eol ++ rest) :=
        dropWhile_append_of_stop blanks (by simp; decide)
      refine ⟨_, mem_optional.2 (.inr ⟨.mk "1*WSP" ws [], ?_, rfl⟩), rfl,
        by simp [Node.find?, Node.findIn?]⟩
      exact mem_run.2 ⟨by rw [whole]; exact empty, by rw [whole], after.symm⟩
  obtain ⟨valueNode, valueMatch, valueText, valueValue⟩ :
      ∃ n, (n, eol ++ rest) ∈ optional "*header-value" (runOf "header-value" valueCharLen)
          (v ++ eol ++ rest) ∧ n.text = v ∧
        ((n.find? "header-value").map fun m => skipWsp m.text).getD [] = skipWsp v := by
    rcases valueRun with rfl | ⟨nonempty, length⟩
    · exact ⟨_, mem_optional.2 (.inl ⟨rfl, rfl⟩), rfl, by simp [Node.find?, Node.findIn?, skipWsp]⟩
    · have positive : 0 < Bytes.runLength valueCharLen (v ++ eol ++ rest) := by
        rw [length]; exact List.length_pos_iff.mpr nonempty
      refine ⟨_, mem_optional.2 (.inr ⟨.mk "header-value" v [], ?_, rfl⟩), rfl,
        by simp [Node.find?, Node.findIn?, Node.text]⟩
      refine mem_runOf.2 ⟨positive, ?_, ?_⟩ <;> rw [length] <;> simp
  have nameStop : ∀ c, (ws ++ 58 :: (v ++ eol ++ rest)).head? = some c →
      Lexical.isTokenChar c = false := isTokenChar_head_blanks blanks
  have nameMatch : (.mk "header-name" name [], ws ++ 58 :: (v ++ eol ++ rest)) ∈
      run "header-name" Lexical.isTokenChar (name ++ ws ++ 58 :: (v ++ eol ++ rest)) := by
    rw [List.append_assoc, mem_run, takeWhile_append_of_stop tokens nameStop,
      dropWhile_append_of_stop tokens nameStop]
    exact ⟨nonempty, rfl, rfl⟩
  let parts : List Node := [.mk "header-name" name [], blankNode,
    .mk (String.singleton (Char.ofNat 58)) [58] [], valueNode, lineEnd]
  refine ⟨.mk "message-header" (parts.flatMap Node.text) parts, ?_, ?_, ?_⟩
  · unfold messageHeader
    refine mem_concat.2 ⟨_, ?_, rfl⟩
    simp only [Chain]
    exact ⟨_, _, _, nameMatch, ⟨_, _, _, blankMatch, ⟨_, _, _, mem_octet_colon.2 ⟨rfl, rfl⟩,
      ⟨_, _, _, by simpa only [List.append_assoc] using valueMatch, ⟨_, _, _, endMatch,
      ⟨rfl, rfl⟩, rfl⟩, rfl⟩, rfl⟩, rfl⟩, rfl⟩
  · simp only [parts, List.flatMap_cons, List.flatMap_nil, blankText, valueText, endText]
    simp [Node.text]
  · rw [lineTokenOf_parts blankValue endValue, valueValue]


/-- Whether a text continues the line before it: a line break followed by a blank is a fold. -/
def Folds : Bytes → Bool
  | c :: _ => Octet.isWsp c
  | [] => false

theorem folds_append {x : Bytes} (nonempty : x ≠ []) (y : Bytes) : Folds (x ++ y) = Folds x := by
  obtain ⟨c, x, rfl⟩ := List.exists_cons_of_ne_nil nonempty
  rfl

theorem valueCharLen_lineEnd {eol r : Bytes} (ends : IsLineEnd eol) (unfolded : Folds r = false) :
    valueCharLen (eol ++ r) = 0 := by
  rcases ends with rfl | rfl <;> cases r <;> simp_all [valueCharLen, Folds]

theorem text_eq_of_mem_messageHeader {s : Bytes} {n : Node} {rest : Bytes}
    (member : (n, rest) ∈ messageHeader s) : s = n.text ++ rest ∧ n.text ≠ [] := by
  obtain ⟨name, ws, v, eol, rfl, -, -, -, -, -, text, -⟩ := shape_of_mem_messageHeader member
  rw [text]
  exact ⟨by simp, by simp⟩

/-- What a header line was cut as: a name of token characters, blanks, a colon, a value that is
empty or the whole run of value characters after the colon, and a line end. -/
theorem shape_of_tokenizeLine {s r : Bytes} {tok : LineToken} (cut : tokenizeLine s = .ok (r, tok)) :
    ∃ name ws v eol, s = name ++ ws ++ 58 :: (v ++ eol ++ r) ∧ name ≠ [] ∧
      (∀ c ∈ name, Lexical.isTokenChar c = true) ∧ (∀ c ∈ ws, Octet.isWsp c = true) ∧
      (v = [] ∨ v ≠ [] ∧ Bytes.runLength valueCharLen (v ++ eol ++ r) = v.length) ∧
      IsLineEnd eol ∧ tok = ⟨name, skipWsp v⟩ := by
  unfold tokenizeLine at cut
  split at cut
  · cases cut
  · split at cut
    · cases cut
    · rename_i n matched
      obtain ⟨-, ⟨rest, chosen⟩, -⟩ := matchRule_eq_ok_iff.1 matched
      have member := mem_of_longest chosen
      obtain ⟨same, -⟩ := text_eq_of_mem_messageHeader member
      obtain ⟨name, ws, v, eol, split, named, nonempty, blanks, run, ends, text, read⟩ :=
        shape_of_mem_messageHeader member
      simp only [Except.ok.injEq, Prod.mk.injEq] at cut
      obtain ⟨rfl, rfl⟩ := cut
      have dropped : s.drop n.text.length = rest := by
        conv => lhs; rw [same]
        simp
      rw [dropped]
      refine ⟨name, ws, v, eol, split, nonempty, ?_, blanks, run, ends, read⟩
      intro c mem
      rw [named] at mem
      exact List.all_eq_true.1 List.all_takeWhile c mem


theorem lineEnd_append_inj {e e' x y : Bytes} (ends : IsLineEnd e) (ends' : IsLineEnd e')
    (same : e ++ x = e' ++ y) : e = e' ∧ x = y := by
  rcases ends with rfl | rfl <;> rcases ends' with rfl | rfl <;> simp_all

theorem length_lt_valueCharLen_of_lineEnd {e x : Bytes} (ends : IsLineEnd e)
    (moves : valueCharLen (e ++ x) ≠ 0) : e.length < valueCharLen (e ++ x) := by
  rcases valueCharLen_cases moves with ⟨c, r, split, lf, cr, one⟩ | ⟨c, r, split, lf, one⟩ |
    ⟨w, r, split, -, two⟩ | ⟨w, r, split, -, three⟩ <;>
    rcases ends with rfl | rfl <;> simp_all

theorem valueCharLen_le_runLength (t : Bytes) : valueCharLen t ≤ Bytes.runLength valueCharLen t := by
  by_cases moves : valueCharLen t = 0
  · omega
  · have nonempty : t ≠ [] := by rintro rfl; simp [valueCharLen] at moves
    rw [runLength_step nonempty moves]
    omega

theorem blanks_colon_inj {ws ws' t t' : Bytes} (blanks : ∀ c ∈ ws, Octet.isWsp c = true)
    (blanks' : ∀ c ∈ ws', Octet.isWsp c = true) (same : ws ++ 58 :: t = ws' ++ 58 :: t') :
    ws = ws' ∧ t = t' := by
  induction ws generalizing ws' with
  | nil =>
    cases ws' with
    | nil => simpa using same
    | cons w ws' =>
      simp only [List.nil_append, List.cons_append, List.cons.injEq] at same
      have := blanks' w (by simp)
      rw [← same.1] at this
      simp [Octet.isWsp] at this
  | cons w ws ih =>
    cases ws' with
    | nil =>
      simp only [List.nil_append, List.cons_append, List.cons.injEq] at same
      have := blanks w (by simp)
      rw [same.1] at this
      simp [Octet.isWsp] at this
    | cons w' ws' =>
      simp only [List.cons_append, List.cons.injEq] at same
      obtain ⟨rfl, rest⟩ := same
      obtain ⟨rfl, rfl⟩ := ih (fun c mem => blanks c (by simp [mem]))
        (fun c mem => blanks' c (by simp [mem])) rest
      exact ⟨rfl, rfl⟩


theorem tokenizeLine_of_longest {s rest : Bytes} {best : Node}
    (chosen : longest (messageHeader s) = some (best, rest)) :
    tokenizeLine s = .ok (rest, lineTokenOf best) := by
  obtain ⟨same, filled⟩ := text_eq_of_mem_messageHeader (mem_of_longest chosen)
  have nonempty : s ≠ [] := by rw [same]; simp [filled]
  have matched : matchRule messageHeader s = .ok best :=
    matchRule_eq_ok_iff.2 ⟨nonempty, ⟨rest, chosen⟩, filled⟩
  have dropped : s.drop best.text.length = rest := by rw [same]; simp
  unfold tokenizeLine
  rw [if_neg (by simpa using nonempty), matched]
  dsimp only
  rw [dropped]
  rfl

/-- A header line whose next line does not fold it is cut as itself, whatever follows. -/
theorem tokenizeLine_of_shape {name ws v eol r : Bytes} (nonempty : name ≠ [])
    (tokens : ∀ c ∈ name, Lexical.isTokenChar c = true) (blanks : ∀ c ∈ ws, Octet.isWsp c = true)
    (valueRun : v = [] ∨ v ≠ [] ∧ Bytes.runLength valueCharLen (v ++ eol ++ r) = v.length)
    (ends : IsLineEnd eol) (unfolded : Folds r = false) :
    tokenizeLine (name ++ ws ++ 58 :: (v ++ eol ++ r)) = .ok (r, ⟨name, skipWsp v⟩) := by
  obtain ⟨n, member, text, -⟩ := mem_messageHeader_of_shape nonempty tokens blanks
    valueRun ends
  obtain ⟨⟨best, bestRest⟩, chosen⟩ :
      ∃ m, longest (messageHeader (name ++ ws ++ 58 :: (v ++ eol ++ r))) = some m := by
    cases found : longest (messageHeader (name ++ ws ++ 58 :: (v ++ eol ++ r))) with
    | none => rw [longest_eq_none_iff.1 found] at member; cases member
    | some m => exact ⟨m, rfl⟩
  have bound := length_le_of_longest chosen member
  obtain ⟨name', ws', v', eol', split, named, -, blanks', run', ends', text', read'⟩ :=
    shape_of_mem_messageHeader (mem_of_longest chosen)
  have sameName : name' = name := by
    rw [named, List.append_assoc]
    exact takeWhile_append_of_stop tokens (isTokenChar_head_blanks blanks)
  subst sameName
  simp only [List.append_assoc, List.append_cancel_left_eq] at split
  obtain ⟨rfl, after⟩ := blanks_colon_inj blanks blanks' split
  symm at after
  rw [text, text'] at bound
  simp only [List.append_assoc, List.length_append, List.length_cons] at bound
  have sameValue : v' = v := by
    rcases valueRun with rfl | ⟨filled, length⟩ <;> rcases run' with rfl | ⟨filled', length'⟩
    · rfl
    · have stops := runLength_stop (valueCharLen_lineEnd ends unfolded)
      rw [List.append_assoc, after, List.nil_append, stops] at length'
      exact absurd (List.length_eq_zero_iff.1 length'.symm) filled'
    · rw [List.nil_append] at after
      have moves : valueCharLen (eol' ++ bestRest) ≠ 0 := by
        intro stop
        rw [List.append_assoc, ← after, runLength_stop stop] at length
        exact filled (List.length_eq_zero_iff.1 length.symm)
      have longer := length_lt_valueCharLen_of_lineEnd ends' moves
      have reach := valueCharLen_le_runLength (v ++ eol ++ r)
      rw [length] at reach
      rw [after, ← List.append_assoc] at longer
      simp only [List.length_nil] at bound
      omega
    · rw [List.append_assoc, after, ← List.append_assoc, length] at length'
      exact (List.append_inj after length'.symm).1
  subst sameValue
  obtain ⟨rfl, rfl⟩ := lineEnd_append_inj ends' ends (List.append_cancel_left after)
  rw [tokenizeLine_of_longest chosen, read']


theorem IsLineEnd.ne_nil {eol : Bytes} (ends : IsLineEnd eol) : eol ≠ [] := by
  rcases ends with rfl | rfl <;> simp

theorem runLength_value_of_lineEnd {v eol r r' : Bytes} (ends : IsLineEnd eol)
    (unfolded' : Folds r' = false)
    (length : Bytes.runLength valueCharLen (v ++ eol ++ r) = v.length) :
    Bytes.runLength valueCharLen (v ++ eol ++ r') = v.length := by
  obtain ⟨walk, -⟩ := run_valueText (v ++ eol ++ r)
  rw [length, List.append_assoc, List.take_left', List.drop_left'] at walk
  · have follows : (eol ++ r).head? = (eol ++ r').head? := by
      obtain ⟨c, eol, rfl⟩ := List.exists_cons_of_ne_nil (IsLineEnd.ne_nil ends)
      rfl
    rw [List.append_assoc, runLength_valueText walk _ follows,
      runLength_stop (valueCharLen_lineEnd ends unfolded')]
    simp
  all_goals rfl

theorem tokenizeLine_append {line r r' : Bytes} {tok : LineToken}
    (cut : tokenizeLine (line ++ r) = .ok (r, tok)) (unfolded' : Folds r' = false) :
    tokenizeLine (line ++ r') = .ok (r', tok) := by
  obtain ⟨name, ws, v, eol, split, nonempty, tokens, blanks, valueRun, ends, rfl⟩ :=
    shape_of_tokenizeLine cut
  have lineIs : line = name ++ ws ++ 58 :: (v ++ eol) := by
    have whole : line ++ r = (name ++ ws ++ 58 :: (v ++ eol)) ++ r := by rw [split]; simp
    exact List.append_cancel_right whole
  subst lineIs
  have valueRun' : v = [] ∨ v ≠ [] ∧ Bytes.runLength valueCharLen (v ++ eol ++ r') = v.length := by
    rcases valueRun with empty | ⟨filled, length⟩
    · exact .inl empty
    · exact .inr ⟨filled, runLength_value_of_lineEnd ends unfolded' length⟩
  have := tokenizeLine_of_shape nonempty tokens blanks valueRun' ends unfolded'
  simpa using this

theorem tokenizeLine_front {s r : Bytes} {tok : LineToken} (cut : tokenizeLine s = .ok (r, tok)) :
    ∃ c line, s = c :: line ++ r ∧ Lexical.isTokenChar c = true := by
  obtain ⟨name, ws, v, eol, rfl, nonempty, tokens, -⟩ := shape_of_tokenizeLine cut
  obtain ⟨c, name, rfl⟩ := List.exists_cons_of_ne_nil nonempty
  exact ⟨c, name ++ ws ++ 58 :: (v ++ eol), by simp, tokens c (by simp)⟩

end SipCodec.Header
