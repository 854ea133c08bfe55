import SipCodec.Text.Lexical
import SipCodec.Proofs.Grammar.Matches

/-! Lexical facts for reading written text back: quoted strings, tokens and white space are taken
from the front of any longer text as they were written. -/

namespace SipCodec

theorem toList_loop_eq (bs : ByteArray) (i : Nat) (r : List UInt8) :
    ByteArray.toList.loop bs i r = r.reverse ++ bs.data.toList.drop i := by
  fun_induction ByteArray.toList.loop bs i r with
  | case1 i r lt ih =>
    have inRange : i < bs.data.toList.length := by simpa using lt
    have get : bs.get! i = bs.data.toList[i] := by
      obtain ⟨data⟩ := bs
      exact getElem!_pos data i lt
    rw [ih, List.reverse_cons, List.append_assoc, List.drop_eq_getElem_cons inRange, get]
    rfl
  | case2 i r ge =>
    have past : bs.data.toList.length ≤ i := by
      rw [Array.length_toList]
      exact Nat.le_of_not_lt ge
    rw [List.drop_eq_nil_of_le past, List.append_nil]

/-- The octets of a fixed word without the well-founded loop of `ByteArray.toList`, so that the
kernel computes them by structural recursion only. -/
theorem lit_eq_data (s : String) : lit s = s.toByteArray.data.toList := by
  rw [lit, String.toUTF8_eq_toByteArray, ByteArray.toList, toList_loop_eq]
  rfl

namespace Utf8

theorem leading_append {l : Bytes} {cp n : Nat} (read : leading l = some (cp, n)) (r : Bytes) :
    n ≤ l.length ∧ leading (l ++ r) = some (cp, n) := by
  rcases l with _ | ⟨a, _ | ⟨b, _ | ⟨c, _ | ⟨d, t⟩⟩⟩⟩
  · simp [leading] at read
  all_goals
    revert read
    simp only [leading, List.cons_append, List.nil_append]
    repeat' split
  all_goals simp_all
  all_goals
    intro _ width
    omega

end Utf8

namespace Bytes

theorem runLength_append {step : Bytes → Nat}
    (reads : ∀ l r, step l ≠ 0 → step l ≤ l.length ∧ step (l ++ r) = step l)
    (x y : Bytes) (stops : step (x.drop (runLength step x) ++ y) = 0) :
    runLength step (x ++ y) = runLength step x := by
  -- induction on the length of what is left of the run, step by step
  induction size : x.length using Nat.strongRecOn generalizing x with
  | _ k ih =>
    rcases x with _ | ⟨c, x⟩
    · simp only [runLength, List.drop_zero, List.nil_append] at stops ⊢
      exact Grammar.runLength_stop stops
    by_cases moves : step (c :: x) = 0
    · have none : runLength step (c :: x) = 0 := Grammar.runLength_stop moves
      rw [none, List.drop_zero] at stops
      rw [none]
      exact Grammar.runLength_stop stops
    · obtain ⟨fits, same⟩ := reads (c :: x) y moves
      have first := Grammar.runLength_step (List.cons_ne_nil c x) moves
      have later : runLength step ((c :: x).drop (step (c :: x)) ++ y) =
          runLength step ((c :: x).drop (step (c :: x))) := by
        refine ih _ ?_ _ ?_ rfl
        · simp only [List.length_drop, ← size]
          omega
        · rw [first, ← List.drop_drop] at stops
          exact stops
      rw [Grammar.runLength_step (by simp) (by rw [same]; exact moves), same,
        List.drop_append_of_le_length fits, later, first]

end Bytes

namespace Lexical

theorem qcharLen_high {c : UInt8} (high : 0x80 ≤ c) (rest : Bytes) :
    qcharLen (c :: rest) = ((Utf8.leading (c :: rest)).map Prod.snd).getD 0 := by
  have : c.toNat ≥ 0x80 := high
  have notPlain : ¬(c == 32 || c == 9 || c == 0x21 || (0x23 ≤ c && c ≤ 0x5B) ||
      (0x5D ≤ c && c ≤ 0x7E)) = true := by
    simp only [Bool.or_eq_true, beq_iff_eq, Bool.and_eq_true, decide_eq_true_eq, not_or,
      not_and, UInt8.le_iff_toNat_le, ← UInt8.toNat_inj]
    simp only [UInt8.reduceToNat]
    omega
  unfold qcharLen
  dsimp only
  rw [if_neg notPlain, if_neg (by simp [← UInt8.toNat_inj]; omega),
    if_neg (by simp [← UInt8.toNat_inj]; omega), if_pos high]
  cases Utf8.leading (c :: rest) with
  | none => rfl
  | some front => rfl

theorem qcharLen_append {l : Bytes} (moves : qcharLen l ≠ 0) (r : Bytes) :
    qcharLen l ≤ l.length ∧ qcharLen (l ++ r) = qcharLen l := by
  rcases l with _ | ⟨c, rest⟩
  · simp [qcharLen] at moves
  by_cases high : 0x80 ≤ c
  · rw [List.cons_append, qcharLen_high high, qcharLen_high high] at *
    cases read : Utf8.leading (c :: rest) with
    | none => simp [read] at moves
    | some front =>
      obtain ⟨cp, n⟩ := front
      obtain ⟨fits, same⟩ := Utf8.leading_append read r
      rw [List.cons_append] at same
      simp only [same, Option.map_some, Option.getD_some, and_true]
      exact fits
  · rcases rest with _ | ⟨d, _ | ⟨w, t⟩⟩
    all_goals
      revert moves
      simp only [qcharLen, List.cons_append, List.nil_append, if_neg high]
      repeat' split
    all_goals simp_all

/-- The closing quote of a quoted string at the front is found whatever follows it. -/
theorem quotedStringLen_append {s : Bytes} (found : quotedStringLen s ≠ 0) (rest : Bytes) :
    quotedStringLen (s ++ rest) = quotedStringLen s := by
  rcases s with _ | ⟨c, body⟩
  · simp [quotedStringLen] at found
  by_cases open_ : c = 34
  · subst open_
    simp only [quotedStringLen, List.cons_append] at found ⊢
    cases closing : body.drop (Bytes.runLength qcharLen body) with
    | nil => simp [closing] at found
    | cons d after =>
      rw [closing] at found
      have quoteMark : d = 34 := by
        revert found
        split <;> simp_all
      subst quoteMark
      have fits : Bytes.runLength qcharLen body ≤ body.length := by
        have := congrArg List.length closing
        simp only [List.length_drop, List.length_cons] at this
        omega
      have same : Bytes.runLength qcharLen (body ++ rest) = Bytes.runLength qcharLen body :=
        Bytes.runLength_append (fun l r moves => qcharLen_append moves r) body rest
          (by rw [closing]; simp [qcharLen])
      rw [same, List.drop_append_of_le_length fits, closing]
      rfl
  · cases c
    simp_all [quotedStringLen]

theorem quote_eq_wrap (v : Bytes) :
    quote v = 34 :: ((v.flatMap fun c => if c == 34 || c == 92 then [92, c] else [c]) ++ [34]) :=
  rfl

theorem unpair_escaped (v : Bytes) :
    unpair (v.flatMap fun c => if c == 34 || c == 92 then [92, c] else [c]) = v := by
  induction v with
  | nil => rfl
  | cons c v ih =>
    rw [List.flatMap_cons]
    by_cases escaped : (c == 34 || c == 92) = true
    · rw [if_pos escaped, List.cons_append, List.cons_append, List.nil_append, unpair, ih]
    · have notBackslash : c ≠ 92 := by
        intro same
        simp [same] at escaped
      rw [if_neg escaped, List.cons_append, List.nil_append,
        unpair.eq_3 _ _ (fun _ _ same => absurd same notBackslash), ih]

theorem unquote_wrap (x : Bytes) : unquote (34 :: (x ++ [34])) = unpair x := by
  cases x with
  | nil => rfl
  | cons a x =>
    have last : (a :: (x ++ [34])).getLast? = some 34 := by
      rw [← List.cons_append, List.getLast?_concat]
    have front : (a :: (x ++ [34])).dropLast = a :: x := by
      rw [← List.cons_append, List.dropLast_concat]
    simp [unquote, last, front]

@[simp] theorem unquote_quote (v : Bytes) : unquote (quote v) = v := by
  rw [quote_eq_wrap, unquote_wrap, unpair_escaped]

/-- Texts that `quote` writes as a quoted string the scanner reads whole. -/
def Quotable (v : Bytes) : Prop := isQuoted (quote v) = true

instance : DecidablePred Quotable := fun _ => inferInstanceAs (Decidable (_ = true))

theorem Quotable.length_eq {v : Bytes} (q : Quotable v) :
    quotedStringLen (quote v) = (quote v).length := by
  simp only [Quotable, isQuoted, Bool.and_eq_true, decide_eq_true_eq, beq_iff_eq] at q
  exact q.2

theorem cutQuoted_quote_append {v : Bytes} (q : Quotable v) (rest : Bytes) :
    cutQuoted (quote v ++ rest) = some (quote v, rest) := by
  have whole := q.length_eq
  have found : quotedStringLen (quote v) ≠ 0 := by
    rw [whole, quote_eq_wrap]
    simp
  simp only [cutQuoted, quotedStringLen_append found, whole, List.take_left, List.drop_left]
  simp [quote_eq_wrap]

private theorem runLength_quote_tail {v : Bytes} (printable : ∀ c ∈ v, 0x20 ≤ c ∧ c ≤ 0x7E) :
    Bytes.runLength qcharLen (quote v).tail = (quote v).length - 2 := by
  induction v with
  | nil => simp [quote, Bytes.runLength, qcharLen]
  | cons c v ih =>
    have hc := printable c (List.mem_cons_self ..)
    have ih := ih fun d member => printable d (List.mem_cons_of_mem c member)
    have tail : (quote (c :: v)).tail =
        (if c == 34 || c == 92 then [92, c] else [c]) ++ (quote v).tail := by
      simp [quote]
    have lengths : (quote (c :: v)).length =
        (if c == 34 || c == 92 then [92, c] else [c]).length + (quote v).length := by
      simp [quote]
      omega
    have first : qcharLen ((if c == 34 || c == 92 then [92, c] else [c]) ++ (quote v).tail) =
        (if c == 34 || c == 92 then [92, c] else [c]).length := by
      have hc' : 0x20 ≤ c.toNat ∧ c.toNat ≤ 0x7E := hc
      split
      · rename_i escaped
        simp only [List.cons_append, qcharLen]
        simp only [Bool.or_eq_true, beq_iff_eq] at escaped
        rcases escaped with rfl | rfl <;> simp
      · rename_i plain
        simp only [Bool.or_eq_true, beq_iff_eq, not_or, ← UInt8.toNat_inj,
          UInt8.reduceToNat] at plain
        simp only [List.cons_append, List.nil_append, qcharLen, List.length_singleton]
        rw [if_pos]
        simp only [Bool.or_eq_true, beq_iff_eq, Bool.and_eq_true, decide_eq_true_eq,
          UInt8.le_iff_toNat_le, ← UInt8.toNat_inj, UInt8.reduceToNat]
        omega
    have moves : qcharLen ((if c == 34 || c == 92 then [92, c] else [c]) ++ (quote v).tail) ≠ 0 := by
      rw [first]
      split <;> simp
    rw [tail, Grammar.runLength_step (by split <;> simp) moves, first, List.drop_left, ih, lengths]
    have : 2 ≤ (quote v).length := by simp [quote]
    omega

theorem quotable_of_printable {v : Bytes} (printable : ∀ c ∈ v, 0x20 ≤ c ∧ c ≤ 0x7E) :
    Quotable v := by
  have run := runLength_quote_tail printable
  have shape : quote v = 34 :: (quote v).tail := rfl
  have long : 2 ≤ (quote v).length := by simp [quote]
  have closing : (quote v).tail.drop ((quote v).length - 2) = [34] := by
    rw [quote_eq_wrap]
    simp
  have whole : quotedStringLen (quote v) = (quote v).length := by
    rw [congrArg quotedStringLen shape]
    simp only [quotedStringLen, run, closing]
    omega
  rw [Quotable, isQuoted, whole]
  simp only [beq_self_eq_true, Bool.and_true, decide_eq_true_eq]
  omega

theorem isTokenChar_facts {c : UInt8} (tok : isTokenChar c = true) :
    Octet.isWsp c = false ∧ c ≠ 13 ∧ c ≠ 10 ∧ c ≠ 34 ∧ c ≠ 44 ∧ c ≠ 61 := by
  simp only [isTokenChar, Octet.isAlnum, Octet.isAlpha, Octet.isUpper, Octet.isLower,
    Octet.isDigit, Bool.or_eq_true, Bool.and_eq_true, decide_eq_true_eq, beq_iff_eq,
    UInt8.le_iff_toNat_le, ← UInt8.toNat_inj, UInt8.reduceToNat] at tok
  simp only [Octet.isWsp, Bool.or_eq_false_iff, beq_eq_false_iff_ne, ne_eq, ← UInt8.toNat_inj,
    UInt8.reduceToNat]
  omega

theorem cutToken_append {t : Bytes} (tok : isToken t = true) {c : UInt8}
    (stop : isTokenChar c = false) (s : Bytes) :
    cutToken (t ++ c :: s) = some (t, c :: s) := by
  simp only [isToken, Bool.and_eq_true, Bool.not_eq_true', List.isEmpty_eq_false_iff,
    List.all_eq_true] at tok
  have front : (t ++ c :: s).takeWhile isTokenChar = t := by
    rw [List.takeWhile_append_of_pos tok.2, List.takeWhile_cons, if_neg (by simp [stop]),
      List.append_nil]
  have moves : t.length ≠ 0 := by
    simp only [ne_eq, List.length_eq_zero_iff]
    exact tok.1
  simp only [cutToken, tokenLen, front, if_neg moves, List.take_left, List.drop_left]

theorem isQuoted_cons_of_ne {c : UInt8} (open_ : c ≠ 34) (s : Bytes) : isQuoted (c :: s) = false := by
  have none : quotedStringLen (c :: s) = 0 := by
    unfold quotedStringLen
    split
    · rename_i same
      exact absurd (List.cons.inj same).1 open_
    · rfl
  simp [isQuoted, none]

theorem skipLws_of_start {c : UInt8} (blank : Octet.isWsp c = false) (cr : c ≠ 13) (s : Bytes) :
    skipLws (c :: s) = c :: s := by
  have none : lwsLen (c :: s) = 0 := by
    simp [lwsLen, blank, cr]
  simp [skipLws, Grammar.runLength_stop none]

theorem skipLws_blank {c : UInt8} (blank : Octet.isWsp c = false) (cr : c ≠ 13) (s : Bytes) :
    skipLws (32 :: c :: s) = c :: s := by
  have none : lwsLen (c :: s) = 0 := by
    simp [lwsLen, blank, cr]
  have one : lwsLen (32 :: c :: s) = 1 := by
    simp only [lwsLen, Octet.isWsp, Bool.or_eq_true, beq_iff_eq, true_or, if_true]
    simp only [Octet.isWsp] at blank
    simp [Octet.isWsp, blank, cr]
  simp only [skipLws]
  rw [Grammar.runLength_step (by simp) (by rw [one]; simp), one]
  simp [Grammar.runLength_stop none]

theorem cutByte_self {c : UInt8} (blank : Octet.isWsp c = false) (cr : c ≠ 13) (s : Bytes) :
    cutByte (c :: s) c = some (skipLws s) := by
  simp [cutByte, skipLws_of_start blank cr]

end Lexical

end SipCodec
