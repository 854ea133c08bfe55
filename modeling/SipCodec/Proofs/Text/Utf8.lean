import SipCodec.Text.Utf8
import Mathlib.Tactic.SplitIfs

/-! The syntax of a UTF-8 character of two to four octets, after RFC 3629 §4, and the reader
`Utf8.leading` held to it. -/

namespace SipCodec.Utf8

/-- A continuation octet, `UTF8-tail = %x80-BF`. -/
def Tail (b : UInt8) : Prop := 0x80 ≤ b ∧ b ≤ 0xBF

/-- A UTF-8 character of two to four octets, `UTF8-2 / UTF8-3 / UTF8-4` of RFC 3629 §4, one
alternative of the syntax per constructor. -/
inductive Wide : Bytes → Prop where
  /-- Two octets, `UTF8-2 = %xC2-DF UTF8-tail`. -/
  | two {a b : UInt8} : 0xC2 ≤ a → a ≤ 0xDF → Tail b → Wide [a, b]
  /-- Three octets from U+0800, `UTF8-3 = %xE0 %xA0-BF UTF8-tail`. -/
  | e0 {b c : UInt8} : 0xA0 ≤ b → b ≤ 0xBF → Tail c → Wide [0xE0, b, c]
  /-- Three octets, `%xE1-EC 2( UTF8-tail )`. -/
  | e1ec {a b c : UInt8} : 0xE1 ≤ a → a ≤ 0xEC → Tail b → Tail c → Wide [a, b, c]
  /-- Three octets below the surrogates, `%xED %x80-9F UTF8-tail`. -/
  | ed {b c : UInt8} : 0x80 ≤ b → b ≤ 0x9F → Tail c → Wide [0xED, b, c]
  /-- Three octets above the surrogates, `%xEE-EF 2( UTF8-tail )`. -/
  | eeef {a b c : UInt8} : 0xEE ≤ a → a ≤ 0xEF → Tail b → Tail c → Wide [a, b, c]
  /-- Four octets from U+10000, `UTF8-4 = %xF0 %x90-BF 2( UTF8-tail )`. -/
  | f0 {b c d : UInt8} : 0x90 ≤ b → b ≤ 0xBF → Tail c → Tail d → Wide [0xF0, b, c, d]
  /-- Four octets, `%xF1-F3 3( UTF8-tail )`. -/
  | f1f3 {a b c d : UInt8} : 0xF1 ≤ a → a ≤ 0xF3 → Tail b → Tail c → Tail d → Wide [a, b, c, d]
  /-- Four octets up to U+10FFFF, `%xF4 %x80-8F 2( UTF8-tail )`. -/
  | f4 {b c d : UInt8} : 0x80 ≤ b → b ≤ 0x8F → Tail c → Tail d → Wide [0xF4, b, c, d]

/-- The length of a character as its first octet announces it. -/
def width (a : UInt8) : Nat := if a < 0xE0 then 2 else if a < 0xF0 then 3 else 4

/-! ### Reading a character

`leading` compares continuation octets through a private helper, so each branch is opened once
here and its condition restated on the octets themselves. -/

private theorem leading_two {a b : UInt8} (r : Bytes) (lo : 0xC2 ≤ a) (hi : a ≤ 0xDF)
    (second : Tail b) : ∃ cp, leading (a :: b :: r) = some (cp, 2) := by
  simp only [leading]
  rw [if_neg (by simp [UInt8.lt_iff_toNat_lt, UInt8.le_iff_toNat_le] at *; omega),
    if_pos (by simpa using ⟨lo, hi⟩)]
  refine ⟨_, (if_pos ?_).trans rfl⟩
  show (0x80 ≤ b && b ≤ 0xBF) = true
  simpa [Tail] using second

private theorem three_iff {a b c : UInt8} (lo : 0xE0 ≤ a) (hi : a ≤ 0xEF) :
    ((if (a == 0xE0) = true then 0xA0 else 0x80) ≤ b &&
      b ≤ (if (a == 0xED) = true then 0x9F else 0xBF) && (0x80 ≤ c && c ≤ 0xBF)) = true ↔
    Wide [a, b, c] := by
  simp only [beq_iff_eq, Bool.and_eq_true, decide_eq_true_eq]
  constructor
  · rintro ⟨⟨second, below⟩, third⟩
    by_cases e0 : a = 0xE0
    · subst e0
      simp only [if_true] at second below
      exact .e0 second below third
    by_cases ed : a = 0xED
    · subst ed
      simp only [if_true] at second below
      exact .ed second below third
    rw [if_neg e0] at second
    rw [if_neg ed] at below
    by_cases low : a ≤ 0xEC
    · exact .e1ec (by simp [UInt8.le_iff_toNat_le, ← UInt8.toNat_inj] at *; omega) low
        ⟨second, below⟩ third
    · exact .eeef (by simp [UInt8.le_iff_toNat_le, ← UInt8.toNat_inj] at *; omega) hi
        ⟨second, below⟩ third
  · intro wide
    cases wide
    all_goals
      simp only [Tail] at *
      split_ifs <;>
        simp only [UInt8.le_iff_toNat_le, ← UInt8.toNat_inj, UInt8.reduceToNat] at * <;> omega

private theorem four_iff {a b c d : UInt8} (lo : 0xF0 ≤ a) (hi : a ≤ 0xF4) :
    ((if (a == 0xF0) = true then 0x90 else 0x80) ≤ b &&
      b ≤ (if (a == 0xF4) = true then 0x8F else 0xBF) && (0x80 ≤ c && c ≤ 0xBF) &&
      (0x80 ≤ d && d ≤ 0xBF)) = true ↔
    Wide [a, b, c, d] := by
  simp only [beq_iff_eq, Bool.and_eq_true, decide_eq_true_eq]
  constructor
  · rintro ⟨⟨⟨second, below⟩, third⟩, fourth⟩
    by_cases f0 : a = 0xF0
    · subst f0
      simp only [if_true] at second below
      exact .f0 second below third fourth
    by_cases f4 : a = 0xF4
    · subst f4
      simp only [if_true] at second below
      exact .f4 second below third fourth
    rw [if_neg f0] at second
    rw [if_neg f4] at below
    exact .f1f3 (by simp [UInt8.le_iff_toNat_le, ← UInt8.toNat_inj] at *; omega)
      (by simp [UInt8.le_iff_toNat_le, ← UInt8.toNat_inj] at *; omega)
      ⟨second, below⟩ third fourth
  · intro wide
    cases wide
    all_goals
      simp only [Tail] at *
      split_ifs <;>
        simp only [UInt8.le_iff_toNat_le, ← UInt8.toNat_inj, UInt8.reduceToNat] at * <;> omega

private theorem leading_three {a b c : UInt8} (r : Bytes) (lo : 0xE0 ≤ a) (hi : a ≤ 0xEF)
    (wide : Wide [a, b, c]) : ∃ cp, leading (a :: b :: c :: r) = some (cp, 3) := by
  simp only [leading]
  rw [if_neg (by simp [UInt8.lt_iff_toNat_lt, UInt8.le_iff_toNat_le] at *; omega),
    if_neg (by simp [UInt8.le_iff_toNat_le] at *; omega), if_pos (by simpa using ⟨lo, hi⟩)]
  refine ⟨_, (if_pos ?_).trans rfl⟩
  exact (three_iff lo hi).2 wide

private theorem leading_four {a b c d : UInt8} (r : Bytes) (lo : 0xF0 ≤ a) (hi : a ≤ 0xF4)
    (wide : Wide [a, b, c, d]) : ∃ cp, leading (a :: b :: c :: d :: r) = some (cp, 4) := by
  simp only [leading]
  rw [if_neg (by simp [UInt8.lt_iff_toNat_lt, UInt8.le_iff_toNat_le] at *; omega),
    if_neg (by simp [UInt8.le_iff_toNat_le] at *; omega),
    if_neg (by simp [UInt8.le_iff_toNat_le] at *; omega), if_pos (by simpa using ⟨lo, hi⟩)]
  refine ⟨_, (if_pos ?_).trans rfl⟩
  exact (four_iff lo hi).2 wide

theorem Wide.leading_append {u : Bytes} (wide : Wide u) (r : Bytes) :
    ∃ cp, leading (u ++ r) = some (cp, u.length) := by
  rcases u with _ | ⟨a, _ | ⟨b, _ | ⟨c, _ | ⟨d, _ | ⟨e, t⟩⟩⟩⟩⟩
  · cases wide
  · cases wide
  · cases wide with
    | two lo hi second => exact leading_two r lo hi second
  · have range : 0xE0 ≤ a ∧ a ≤ 0xEF := by
      cases wide <;> simp only [Tail, UInt8.le_iff_toNat_le, UInt8.reduceToNat] at * <;> omega
    exact leading_three r range.1 range.2 wide
  · have range : 0xF0 ≤ a ∧ a ≤ 0xF4 := by
      cases wide <;> simp only [Tail, UInt8.le_iff_toNat_le, UInt8.reduceToNat] at * <;> omega
    exact leading_four r range.1 range.2 wide
  · cases wide

theorem wide_of_leading {a : UInt8} {rest : Bytes} {cp n : Nat} (high : 0x80 ≤ a)
    (read : leading (a :: rest) = some (cp, n)) : Wide ((a :: rest).take n) := by
  simp only [leading] at read
  rw [if_neg (by simp [UInt8.lt_iff_toNat_lt, UInt8.le_iff_toNat_le] at *; omega)] at read
  split at read
  · rename_i two
    split at read
    · rename_i b r
      rw [Option.ite_none_right_eq_some] at read
      obtain ⟨second, read⟩ := read
      cases read
      have second : (0x80 ≤ b && b ≤ 0xBF) = true := second
      simp only [Bool.and_eq_true, decide_eq_true_eq] at two second
      exact .two two.1 two.2 second
    · cases read
  split at read
  · rename_i three
    split at read
    · rename_i b c r
      rw [Option.ite_none_right_eq_some] at read
      obtain ⟨accepted, read⟩ := read
      cases read
      simp only [Bool.and_eq_true, decide_eq_true_eq] at three
      exact (three_iff three.1 three.2).1 accepted
    · cases read
  split at read
  · rename_i four
    split at read
    · rename_i b c d r
      rw [Option.ite_none_right_eq_some] at read
      obtain ⟨accepted, read⟩ := read
      cases read
      simp only [Bool.and_eq_true, decide_eq_true_eq] at four
      exact (four_iff four.1 four.2).1 accepted
    · cases read
  · cases read

/-! ### The shape of a character -/

theorem Wide.lead {a : UInt8} {t : Bytes} (wide : Wide (a :: t)) :
    0xC2 ≤ a ∧ ∀ b ∈ t, Tail b := by
  cases wide
  all_goals
    simp only [Tail, List.mem_cons, List.not_mem_nil, forall_eq_or_imp, false_implies,
      implies_true, and_true, UInt8.le_iff_toNat_le, UInt8.reduceToNat] at *
    omega

theorem Wide.high {u : Bytes} (wide : Wide u) : ∀ c ∈ u, 0x80 ≤ c := by
  rcases u with _ | ⟨a, t⟩
  · cases wide
  obtain ⟨first, tails⟩ := wide.lead
  intro c member
  rcases List.mem_cons.1 member with rfl | later
  · simp only [UInt8.le_iff_toNat_le, UInt8.reduceToNat] at first ⊢
    omega
  · exact (tails c later).1

theorem Wide.length_pos {u : Bytes} (wide : Wide u) : 0 < u.length := by
  cases wide <;> simp

theorem Wide.ascii_free {u : Bytes} (wide : Wide u) {c : UInt8} (low : c < 0x80) : c ∉ u := by
  intro member
  have high := wide.high c member
  simp only [UInt8.le_iff_toNat_le, UInt8.lt_iff_toNat_lt, UInt8.reduceToNat] at high low
  omega

theorem Wide.length_eq {a : UInt8} {t : Bytes} (wide : Wide (a :: t)) :
    t.length + 1 = width a := by
  cases wide
  all_goals
    simp only [width, UInt8.lt_iff_toNat_lt, UInt8.le_iff_toNat_le, UInt8.reduceToNat,
      List.length_cons, List.length_nil] at *
    split_ifs <;> omega

/-- UTF-8 is self-delimiting: two characters at the front of one text are the same. -/
theorem Wide.eq_of_prefix {u v s : Bytes} (wu : Wide u) (wv : Wide v) (pu : u <+: s)
    (pv : v <+: s) : u = v := by
  rcases u with _ | ⟨a, t⟩
  · cases wu
  rcases v with _ | ⟨b, t'⟩
  · cases wv
  -- both open with the first octet of `s`, which announces one length for both
  have same : a = b := by
    obtain ⟨x, rfl⟩ := pu
    obtain ⟨y, hy⟩ := pv
    simp only [List.cons_append, List.cons.injEq] at hy
    exact hy.1.symm
  subst same
  have lengths : (a :: t).length = (a :: t').length := by
    simp only [List.length_cons]
    have := wu.length_eq
    have := wv.length_eq
    omega
  exact List.IsPrefix.eq_of_length (List.prefix_of_prefix_length_le pu pv (Nat.le_of_eq lengths)) lengths

end SipCodec.Utf8
