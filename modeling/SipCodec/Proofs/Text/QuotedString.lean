import Mathlib.Tactic.SplitIfs
import SipCodec.Proofs.Text.Lexical
import SipCodec.Proofs.Text.Utf8

/-! Quoted strings as the scanner reads them: the quotes around a run of characters, each read
from its own octets. -/

namespace SipCodec.Lexical

/-- A blank or printable ASCII: an octet that may stand between quotes by itself. -/
def Plain (c : UInt8) : Prop := c = 32 ∨ c = 9 ∨ (0x21 ≤ c ∧ c ≤ 0x7E)

/-- One character of a quoted string as the scanner reads it: `qdtext` (a blank or printable
ASCII octet other than a quote and a backslash), a quoted pair of an ASCII octet other than CR
and LF, a line break folded onto a blank, or a whole UTF-8 character. -/
inductive Qchar : Bytes → Prop where
  | text {c : UInt8} : Plain c → c ≠ 34 → c ≠ 92 → Qchar [c]
  | pair {c : UInt8} : c ≤ 0x7F → c ≠ 13 → c ≠ 10 → Qchar [92, c]
  | fold {w : UInt8} : Octet.isWsp w = true → Qchar [13, 10, w]
  | wide {u : Bytes} : Utf8.Wide u → Qchar u

theorem isWsp_cases {w : UInt8} (blank : Octet.isWsp w = true) : w = 32 ∨ w = 9 := by
  simpa [Octet.isWsp] using blank

theorem Qchar.length_pos {u : Bytes} (char : Qchar u) : 0 < u.length := by
  cases char with
  | wide wide => exact wide.length_pos
  | _ => simp

theorem Qchar.pair_facts {c : UInt8} (char : Qchar [92, c]) : c ≤ 0x7F ∧ c ≠ 13 ∧ c ≠ 10 := by
  cases char with
  | pair low cr lf => exact ⟨low, cr, lf⟩
  | wide wide => exact absurd List.mem_cons_self (wide.ascii_free (by decide))

theorem Qchar.backslash_free {u : Bytes} (char : Qchar u) (single : ∀ c, u ≠ [92, c]) :
    ∀ c ∈ u, c ≠ 92 := by
  cases char with
  | text _ _ backslash =>
    intro c member
    rw [List.mem_singleton.1 member]
    exact backslash
  | @pair c _ _ _ => exact absurd rfl (single c)
  | fold blank => rcases isWsp_cases blank with rfl | rfl <;> simp
  | wide wide =>
    rintro c member rfl
    exact wide.ascii_free (by decide) member

/-! ### The scanner reads characters -/

theorem qcharLen_qchar {u : Bytes} (char : Qchar u) (r : Bytes) :
    qcharLen (u ++ r) = u.length := by
  cases char with
  | text plain quoteMark backslash =>
    simp only [Plain, ne_eq, ← UInt8.toNat_inj, UInt8.le_iff_toNat_le, UInt8.reduceToNat] at *
    simp only [List.cons_append, List.nil_append, qcharLen, List.length_singleton]
    rw [if_pos]
    simp only [Bool.or_eq_true, beq_iff_eq, Bool.and_eq_true, decide_eq_true_eq,
      UInt8.le_iff_toNat_le, ← UInt8.toNat_inj, UInt8.reduceToNat]
    omega
  | pair low cr lf =>
    simp [qcharLen, low, cr, lf]
  | fold blank =>
    simp [qcharLen, blank]
  | wide wide =>
    rcases u with _ | ⟨a, t⟩
    · cases wide
    obtain ⟨cp, read⟩ := wide.leading_append r
    rw [List.cons_append] at read ⊢
    rw [qcharLen_high (wide.high a List.mem_cons_self), read]
    rfl

theorem qchar_of_qcharLen {l : Bytes} (moves : qcharLen l ≠ 0) : Qchar (l.take (qcharLen l)) := by
  rcases l with _ | ⟨c, rest⟩
  · simp [qcharLen] at moves
  by_cases high : 0x80 ≤ c
  · rw [qcharLen_high high] at moves ⊢
    cases read : Utf8.leading (c :: rest) with
    | none => simp [read] at moves
    | some front =>
      obtain ⟨cp, n⟩ := front
      simpa [read] using Qchar.wide (Utf8.wide_of_leading high read)
  have low : c.toNat < 0x80 := by
    simp only [UInt8.le_iff_toNat_le, UInt8.reduceToNat] at high
    omega
  simp only [qcharLen] at moves ⊢
  split_ifs at moves ⊢ with plain backslash cr
  · simp only [Bool.or_eq_true, beq_iff_eq, Bool.and_eq_true, decide_eq_true_eq,
      UInt8.le_iff_toNat_le, ← UInt8.toNat_inj, UInt8.reduceToNat] at plain
    refine .text ?_ ?_ ?_
    · simp only [Plain, UInt8.le_iff_toNat_le, ← UInt8.toNat_inj, UInt8.reduceToNat]
      omega
    all_goals
      rintro rfl
      simp at plain
  · simp only [beq_iff_eq] at backslash
    subst backslash
    rcases rest with _ | ⟨d, rest⟩
    · simp at moves
    · simp only at moves ⊢
      split_ifs at moves ⊢ with pair
      · simp only [Bool.and_eq_true, decide_eq_true_eq, bne_iff_ne, ne_eq] at pair
        exact .pair pair.1.1 pair.1.2 pair.2
      · simp at moves
  · simp only [beq_iff_eq] at cr
    subst cr
    rcases rest with _ | ⟨d, _ | ⟨w, rest⟩⟩
    · simp at moves
    · split at moves <;> simp_all
    · by_cases lf : d = 10
      · subst lf
        simp only at moves ⊢
        split_ifs at moves ⊢ with blank
        · exact .fold blank
        · simp at moves
      · split at moves
        · rename_i same
          simp only [List.cons.injEq] at same
          exact absurd same.1 lf
        · simp at moves
  · simp only [UInt8.le_iff_toNat_le, UInt8.reduceToNat] at *
    omega

theorem qcharLen_quote (t : Bytes) : qcharLen (34 :: t) = 0 := by
  simp [qcharLen]

theorem runLength_chars {us : List Bytes} (chars : ∀ u ∈ us, Qchar u) (t : Bytes) :
    Bytes.runLength qcharLen (us.flatten ++ 34 :: t) = us.flatten.length := by
  induction us with
  | nil => simpa using Grammar.runLength_stop (qcharLen_quote t)
  | cons u us ih =>
    have char := chars u List.mem_cons_self
    have later := ih fun v member => chars v (List.mem_cons_of_mem u member)
    have first : qcharLen (u ++ (us.flatten ++ 34 :: t)) = u.length := qcharLen_qchar char _
    have long := char.length_pos
    rw [List.flatten_cons, List.append_assoc,
      Grammar.runLength_step (by simp) (by rw [first]; omega), first, List.drop_left,
      later, List.length_append]

theorem chars_of_runLength (x : Bytes) :
    ∃ us : List Bytes, (∀ u ∈ us, Qchar u) ∧ us.flatten = x.take (Bytes.runLength qcharLen x) := by
  -- induction on the length of the text, one character at a time
  induction size : x.length using Nat.strongRecOn generalizing x with
  | _ k ih =>
  by_cases stops : qcharLen x = 0
  · exact ⟨[], by simp, by simp [Grammar.runLength_stop stops]⟩
  have nonempty : x ≠ [] := by
    rintro rfl
    simp [qcharLen] at stops
  have fits := (qcharLen_append stops []).1
  have char := qchar_of_qcharLen stops
  have shorter : (x.drop (qcharLen x)).length < k := by
    have taken := char.length_pos
    rw [List.length_take] at taken
    rw [List.length_drop, ← size]
    omega
  obtain ⟨us, chars, flat⟩ := ih _ shorter _ rfl
  refine ⟨x.take (qcharLen x) :: us, ?_, ?_⟩
  · intro u member
    rcases List.mem_cons.1 member with rfl | later
    · exact char
    · exact chars u later
  · rw [Grammar.runLength_step nonempty stops, List.take_add, List.flatten_cons, flat]

theorem quotedStringLen_chars {us : List Bytes} (chars : ∀ u ∈ us, Qchar u) (t : Bytes) :
    quotedStringLen (34 :: (us.flatten ++ 34 :: t)) = us.flatten.length + 2 := by
  simp only [quotedStringLen, runLength_chars chars t, List.drop_left]

/-- Exactly the quotes around a run of characters are quoted strings. -/
theorem isQuoted_iff_chars {q : Bytes} :
    isQuoted q = true ↔ ∃ us : List Bytes, (∀ u ∈ us, Qchar u) ∧ q = 34 :: (us.flatten ++ [34]) := by
  constructor
  · intro quoted
    simp only [isQuoted, Bool.and_eq_true, decide_eq_true_eq, beq_iff_eq] at quoted
    obtain ⟨long, whole⟩ := quoted
    unfold quotedStringLen at whole
    dsimp only at whole
    split at whole
    · rename_i rest
      split at whole
      · rename_i after closing
        obtain ⟨us, chars, flat⟩ := chars_of_runLength rest
        have lengths := congrArg List.length closing
        simp only [List.length_drop, List.length_cons] at lengths whole
        have empty : after = [] := by
          rw [← List.length_eq_zero_iff]
          omega
        subst empty
        refine ⟨us, chars, ?_⟩
        rw [flat, ← closing, List.take_append_drop]
      · simp at whole
    · omega
  · rintro ⟨us, chars, rfl⟩
    have whole := quotedStringLen_chars chars []
    simp [isQuoted, whole]

/-! ### Reading a quoted string back -/

theorem unpair_append_of_plain {u : Bytes} (plain : ∀ c ∈ u, c ≠ 92) (r : Bytes) :
    unpair (u ++ r) = u ++ unpair r := by
  induction u with
  | nil => rfl
  | cons c u ih =>
    have backslash := plain c List.mem_cons_self
    rw [List.cons_append, unpair.eq_3 _ _ (fun _ _ same => absurd same backslash),
      ih fun d member => plain d (List.mem_cons_of_mem c member), List.cons_append]

theorem unpair_of_plain {u : Bytes} (plain : ∀ c ∈ u, c ≠ 92) : unpair u = u := by
  simpa [unpair] using unpair_append_of_plain plain []

theorem Qchar.unpair_append {u : Bytes} (char : Qchar u) (r : Bytes) :
    unpair (u ++ r) = unpair u ++ unpair r := by
  by_cases pair : ∃ c, u = [92, c]
  · obtain ⟨c, rfl⟩ := pair
    rfl
  · have plain := char.backslash_free fun c same => pair ⟨c, same⟩
    rw [unpair_append_of_plain plain, unpair_of_plain plain]

theorem unpair_flatten {us : List Bytes} (chars : ∀ u ∈ us, Qchar u) :
    unpair us.flatten = (us.map unpair).flatten := by
  induction us with
  | nil => rfl
  | cons u us ih =>
    rw [List.flatten_cons, (chars u List.mem_cons_self).unpair_append,
      ih fun v member => chars v (List.mem_cons_of_mem u member), List.map_cons, List.flatten_cons]

/-- The text of a quoted string is its characters with their quoted pairs resolved. -/
theorem unquote_chars {us : List Bytes} (chars : ∀ u ∈ us, Qchar u) :
    unquote (34 :: (us.flatten ++ [34])) = (us.map unpair).flatten := by
  rw [unquote_wrap, unpair_flatten chars]

end SipCodec.Lexical
