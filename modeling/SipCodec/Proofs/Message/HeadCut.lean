import SipCodec.Message.Reader
import SipCodec.Proofs.Header.LineCut

/-! How the head of a message is cut: a head delimits itself, so it is cut the same whatever
follows it. -/

namespace SipCodec.StartLine

theorem cutLine_suffix {s line rest : Bytes} (cut : cutLine s = .ok (line, rest)) :
    ∃ pre, pre ≠ [] ∧ s = pre ++ rest := by
  unfold cutLine at cut
  split at cut
  · rename_i i found
    simp only [Except.ok.injEq, Prod.mk.injEq] at cut
    obtain ⟨-, rfl⟩ := cut
    have inside : i < s.length := (List.idxOf?_eq_some_iff.1 found).1
    have nonempty : s ≠ [] := by
      rintro rfl
      simp at inside
    exact ⟨s.take (i + 1), by simp [List.take_eq_nil_iff, nonempty], (List.take_append_drop _ _).symm⟩
  · split at cut <;> cases cut

theorem cutLine_append {x y y' line : Bytes} (cut : cutLine (x ++ y) = .ok (line, y)) :
    cutLine (x ++ y') = .ok (line, y') := by
  unfold cutLine at cut ⊢
  split at cut
  · rename_i i found
    simp only [Except.ok.injEq, Prod.mk.injEq] at cut
    obtain ⟨cutText, after⟩ := cut
    have inside : i < (x ++ y).length := (List.idxOf?_eq_some_iff.1 found).1
    have ends : i + 1 = x.length := by
      have := congrArg List.length after
      simp only [List.length_drop, List.length_append] at this inside
      omega
    -- the first LF lies inside x, so the same search finds it whatever follows x
    have inX : x.findIdx? (· == 10) = some i := by
      simp only [List.idxOf?, List.findIdx?_append] at found
      cases early : x.findIdx? (· == 10) with
      | none =>
        rw [early] at found
        obtain ⟨j, -, rfl⟩ := Option.map_eq_some_iff.1 (by simpa using found)
        omega
      | some j =>
        rw [early] at found
        simp only [Option.some_or, Option.some.injEq] at found
        rw [found]
    have found' : (x ++ y').idxOf? 10 = some i := by
      simp only [List.idxOf?, List.findIdx?_append, inX]
      rfl
    rw [found']
    simp only [Except.ok.injEq, Prod.mk.injEq]
    refine ⟨?_, ?_⟩
    · rw [← cutText, List.take_append_of_le_length (by omega),
        List.take_append_of_le_length (by omega)]
    · rw [List.drop_append_of_le_length (by omega), ends, List.drop_length, List.nil_append]
  · split at cut <;> cases cut

theorem tokenizeStatus_of_cutLine {s s' line rest rest' : Bytes}
    (cut : cutLine s = .ok (line, rest)) (cut' : cutLine s' = .ok (line, rest')) :
    tokenizeStatus s' = (tokenizeStatus s).map fun (_, t) => (rest', t) := by
  simp only [tokenizeStatus, cut, cut', bind, Except.bind, pure, Except.pure]
  rcases Version.tokenize line with e | ⟨v, r⟩
  · rfl
  · simp only
    rcases cutBlanks r with _ | r
    · rfl
    · simp only
      rcases Status.tokenize r with e | ⟨code, r⟩
      · rfl
      · simp only
        split
        · rfl
        · rcases cutBlanks r with _ | r <;> rfl

theorem tokenizeRequest_of_cutLine {s s' line rest rest' : Bytes}
    (cut : cutLine s = .ok (line, rest)) (cut' : cutLine s' = .ok (line, rest')) :
    tokenizeRequest s' = (tokenizeRequest s).map fun (_, t) => (rest', t) := by
  simp only [tokenizeRequest, cut, cut', bind, Except.bind, pure, Except.pure]
  rcases Method.tokenize line with e | ⟨m, r⟩
  · rfl
  · simp only
    rcases cutBlanks r with _ | r
    · rfl
    · simp only
      rcases (Uri.tokenize r).mapError (Fault.wrapIn .tokenize) with e | ⟨r, u⟩
      · rfl
      · simp only
        rcases cutBlanks r with _ | r
        · rfl
        · simp only
          rcases Version.tokenize r with e | ⟨v, r⟩
          · rfl
          · simp only
            split <;> rfl

theorem cutLine_of_tokenizeStatus {s r : Bytes} {t : StatusToken}
    (read : tokenizeStatus s = .ok (r, t)) : ∃ line, cutLine s = .ok (line, r) := by
  cases cut : cutLine s with
  | error e => simp [tokenizeStatus, cut, bind, Except.bind] at read
  | ok p =>
    obtain ⟨line, rest⟩ := p
    have same := tokenizeStatus_of_cutLine cut cut
    rw [read] at same
    simp only [Except.map, Except.ok.injEq, Prod.mk.injEq] at same
    exact ⟨line, by rw [same.1]⟩

theorem cutLine_of_tokenizeRequest {s r : Bytes} {t : RequestToken}
    (read : tokenizeRequest s = .ok (r, t)) : ∃ line, cutLine s = .ok (line, r) := by
  cases cut : cutLine s with
  | error e => simp [tokenizeRequest, cut, bind, Except.bind] at read
  | ok p =>
    obtain ⟨line, rest⟩ := p
    have same := tokenizeRequest_of_cutLine cut cut
    rw [read] at same
    simp only [Except.map, Except.ok.injEq, Prod.mk.injEq] at same
    exact ⟨line, by rw [same.1]⟩

end SipCodec.StartLine

namespace SipCodec.Message

open Header Grammar

/-- How the start line at the front of a head is cut: as a status line, or as a request line
when it is no status line for a reason other than missing input. -/
inductive StartCut (s : Bytes) : Bytes → StartLine.Token → Prop
  | status {r : Bytes} {t : StartLine.StatusToken} :
      StartLine.tokenizeStatus s = .ok (r, t) → StartCut s r (.status t)
  | request {r : Bytes} {e : Fault} {t : StartLine.RequestToken} :
      StartLine.tokenizeStatus s = .error e → e.isIncomplete = false →
      StartLine.tokenizeRequest s = .ok (r, t) → StartCut s r (.request t)

/-- The field lines of a head down to the empty line that ends it, cut one by one, with `rest`
after the empty line. -/
inductive FieldLines (rest : Bytes) : Bytes → List LineToken → Prop
  | blank {eol : Bytes} : IsLineEnd eol → FieldLines rest (eol ++ rest) []
  | line {s after : Bytes} {tok : LineToken} {toks : List LineToken} :
      tokenizeLine s = .ok (after, tok) → FieldLines rest after toks →
      FieldLines rest s (tok :: toks)

namespace StartCut

theorem suffix {s r : Bytes} {start : StartLine.Token} (cut : StartCut s r start) :
    ∃ pre, pre ≠ [] ∧ s = pre ++ r := by
  cases cut with
  | status read =>
    obtain ⟨line, lineCut⟩ := StartLine.cutLine_of_tokenizeStatus read
    exact StartLine.cutLine_suffix lineCut
  | request _ _ read =>
    obtain ⟨line, lineCut⟩ := StartLine.cutLine_of_tokenizeRequest read
    exact StartLine.cutLine_suffix lineCut

theorem append {pre r r' : Bytes} {start : StartLine.Token} (cut : StartCut (pre ++ r) r start) :
    StartCut (pre ++ r') r' start := by
  cases cut with
  | status read =>
    obtain ⟨line, lineCut⟩ := StartLine.cutLine_of_tokenizeStatus read
    have lineCut' : StartLine.cutLine (pre ++ r') = .ok (line, r') :=
      StartLine.cutLine_append lineCut
    have moved := StartLine.tokenizeStatus_of_cutLine lineCut lineCut'
    rw [read] at moved
    exact .status moved
  | request failed hard read =>
    obtain ⟨line, lineCut⟩ := StartLine.cutLine_of_tokenizeRequest read
    have lineCut' : StartLine.cutLine (pre ++ r') = .ok (line, r') :=
      StartLine.cutLine_append lineCut
    have failed' := StartLine.tokenizeStatus_of_cutLine lineCut lineCut'
    have read' := StartLine.tokenizeRequest_of_cutLine lineCut lineCut'
    rw [failed] at failed'
    rw [read] at read'
    exact .request failed' hard read'

end StartCut

namespace FieldLines

variable {rest s : Bytes} {toks : List LineToken}

theorem suffix (cut : FieldLines rest s toks) : ∃ consumed, consumed ≠ [] ∧ s = consumed ++ rest := by
  induction cut with
  | blank ends => exact ⟨_, IsLineEnd.ne_nil ends, rfl⟩
  | line lineCut _ ih =>
    obtain ⟨consumed, -, rfl⟩ := ih
    obtain ⟨c, line, split, -⟩ := tokenizeLine_front lineCut
    exact ⟨c :: line ++ consumed, by simp, by simp [split]⟩

theorem unfolded (cut : FieldLines rest s toks) : Folds s = false := by
  cases cut with
  | blank ends => rcases ends with rfl | rfl <;> rfl
  | line lineCut _ =>
    obtain ⟨c, line, rfl, token⟩ := tokenizeLine_front lineCut
    exact not_isWsp_of_isTokenChar token

theorem append {consumed : Bytes} (cut : FieldLines rest (consumed ++ rest) toks) (rest' : Bytes) :
    FieldLines rest' (consumed ++ rest') toks := by
  generalize whole : consumed ++ rest = s at cut
  induction cut generalizing consumed with
  | blank ends =>
    rw [List.append_cancel_right whole]
    exact .blank ends
  | @line s after tok toks lineCut tail ih =>
    obtain ⟨more, filled, rfl⟩ := tail.suffix
    obtain ⟨c, line, split, -⟩ := tokenizeLine_front lineCut
    rw [← whole, ← List.append_assoc] at split
    have lineIs : consumed = c :: line ++ more := List.append_cancel_right split
    subst lineIs
    subst whole
    have unfolded' : Folds (more ++ rest') = false := by
      rw [folds_append filled, ← folds_append filled rest]
      exact tail.unfolded
    have lineCut₀ : tokenizeLine (c :: line ++ (more ++ rest)) = .ok (more ++ rest, tok) := by
      simpa using lineCut
    have lineCut' := tokenizeLine_append lineCut₀ unfolded'
    exact .line (by simpa using lineCut') (ih rfl)

theorem go_eq {n : Nat} (cut : FieldLines rest s toks) (acc : List LineToken)
    (enough : s.length - rest.length < n) :
    tokenizeFields.go n s acc = .ok (rest, acc.reverse ++ toks) := by
  induction cut generalizing n acc with
  | blank ends =>
    obtain ⟨m, rfl⟩ : ∃ m, n = m + 1 := ⟨n - 1, by omega⟩
    rcases ends with rfl | rfl <;> simp [tokenizeFields.go]
  | @line s after tok toks lineCut tail ih =>
    obtain ⟨m, rfl⟩ : ∃ m, n = m + 1 := ⟨n - 1, by omega⟩
    obtain ⟨c, line, rfl, token⟩ := tokenizeLine_front lineCut
    obtain ⟨more, -, rfl⟩ := tail.suffix
    have notLf : c ≠ 10 := by rintro rfl; cases token
    have notCr : c ≠ 13 := by rintro rfl; cases token
    have shorter : (more ++ rest).length - rest.length < m := by
      simp only [List.length_append, List.length_cons] at enough ⊢
      omega
    rw [tokenizeFields.go]
    · simp only [lineCut, bind, Except.bind, ih _ shorter, List.reverse_cons, List.append_assoc,
        List.singleton_append]
    all_goals simp [notLf, notCr]

theorem of_go {n : Nat} {s rest : Bytes} {acc fs : List LineToken}
    (cut : tokenizeFields.go n s acc = .ok (rest, fs)) (enough : s.length < n) :
    ∃ toks, FieldLines rest s toks ∧ fs = acc.reverse ++ toks := by
  induction n generalizing s acc with
  | zero => omega
  | succ n ih =>
    unfold tokenizeFields.go at cut
    split at cut
    · cases cut
    · cases cut
    · simp only [Except.ok.injEq, Prod.mk.injEq] at cut
      obtain ⟨rfl, rfl⟩ := cut
      exact ⟨[], .blank (Or.inl rfl : IsLineEnd [10]), by simp⟩
    · simp only [Except.ok.injEq, Prod.mk.injEq] at cut
      obtain ⟨rfl, rfl⟩ := cut
      exact ⟨[], .blank (Or.inr rfl : IsLineEnd [13, 10]), by simp⟩
    · cases lineCut : tokenizeLine s with
      | error e => simp [lineCut, bind, Except.bind] at cut
      | ok p =>
        obtain ⟨after, tok⟩ := p
        simp only [lineCut, bind, Except.bind] at cut
        obtain ⟨c, line, split, -⟩ := tokenizeLine_front lineCut
        have shorter : after.length < n := by
          rw [split] at enough
          simp only [List.length_append, List.length_cons] at enough
          omega
        obtain ⟨toks, fields, rfl⟩ := ih cut shorter
        exact ⟨tok :: toks, .line lineCut fields, by simp⟩

end FieldLines

theorem tokenizeFields_eq_ok_iff {s rest : Bytes} {toks : List LineToken} :
    tokenizeFields s = .ok (rest, toks) ↔ FieldLines rest s toks := by
  constructor
  · intro cut
    obtain ⟨toks', fields, same⟩ := FieldLines.of_go cut (Nat.lt_succ_self _)
    simp only [List.reverse_nil, List.nil_append] at same
    exact same ▸ fields
  · intro fields
    have := fields.go_eq [] (by omega : s.length - rest.length < s.length + 1)
    simpa [tokenizeFields] using this

theorem tokenizeHead_eq_ok_iff {s rest : Bytes} {tok : Token} :
    tokenizeHead s = .ok (rest, tok) ↔
      ∃ r start fields, StartCut s r start ∧ FieldLines rest r fields ∧
        tok = ⟨some start, fields, []⟩ := by
  constructor
  · intro cut
    unfold tokenizeHead at cut
    obtain ⟨r, start, startCut, fieldsCut⟩ : ∃ r start, StartCut s r start ∧
        (tokenizeFields r >>= fun q => pure (q.1, (⟨some start, q.2, []⟩ : Token))) =
          Except.ok (rest, tok) := by
      cases status : StartLine.tokenizeStatus s with
      | ok p =>
        rw [status] at cut
        exact ⟨p.1, .status p.2, .status status, cut⟩
      | error e =>
        rw [status] at cut
        cases hard : e.isIncomplete with
        | true => simp [hard, bind, Except.bind, throw, throwThe, MonadExceptOf.throw] at cut
        | false =>
          cases request : StartLine.tokenizeRequest s with
          | error e' => simp [hard, request, bind, Except.bind] at cut
          | ok p =>
            simp only [hard, request, Bool.false_eq_true, ↓reduceIte, bind, Except.bind, pure,
              Except.pure] at cut
            exact ⟨p.1, .request p.2, .request status hard request, cut⟩
    cases fields : tokenizeFields r with
    | error e => simp [fields, bind, Except.bind] at fieldsCut
    | ok q =>
      simp only [fields, bind, Except.bind, pure, Except.pure, Except.ok.injEq,
        Prod.mk.injEq] at fieldsCut
      obtain ⟨rfl, rfl⟩ := fieldsCut
      exact ⟨r, start, q.2, startCut, tokenizeFields_eq_ok_iff.1 fields, rfl⟩
  · rintro ⟨r, start, fields, startCut, fieldLines, rfl⟩
    have fieldsCut := tokenizeFields_eq_ok_iff.2 fieldLines
    unfold tokenizeHead
    cases startCut with
    | status read => simp [read, fieldsCut, bind, Except.bind, pure, Except.pure]
    | request failed hard read =>
      simp [failed, hard, read, fieldsCut, bind, Except.bind, pure, Except.pure]

theorem tokenizeHead_suffix {s rest : Bytes} {tok : Token} (cut : tokenizeHead s = .ok (rest, tok)) :
    ∃ head, head ≠ [] ∧ s = head ++ rest := by
  obtain ⟨r, start, fields, startCut, fieldLines, -⟩ := tokenizeHead_eq_ok_iff.1 cut
  obtain ⟨more, -, rfl⟩ := fieldLines.suffix
  obtain ⟨pre, filled, rfl⟩ := startCut.suffix
  exact ⟨pre ++ more, by simp [filled], by simp⟩

/-- A head delimits itself: cut at the front of a text, it is cut the same, with the same texts,
whatever follows it. -/
theorem tokenizeHead_append {head rest rest' : Bytes} {tok : Token}
    (cut : tokenizeHead (head ++ rest) = .ok (rest, tok)) :
    tokenizeHead (head ++ rest') = .ok (rest', tok) := by
  obtain ⟨r, start, fields, startCut, fieldLines, rfl⟩ := tokenizeHead_eq_ok_iff.1 cut
  obtain ⟨more, -, rfl⟩ := fieldLines.suffix
  obtain ⟨pre, -, split⟩ := startCut.suffix
  rw [← List.append_assoc] at split
  have headIs : head = pre ++ more := List.append_cancel_right split
  subst headIs
  rw [List.append_assoc] at startCut ⊢
  exact tokenizeHead_eq_ok_iff.2
    ⟨more ++ rest', start, fields, startCut.append, fieldLines.append rest', rfl⟩

end SipCodec.Message
