import SipCodec.Text.Case
import SipCodec.Proofs.Grammar.Matches

/-! Equality up to case is equality of folding keys, and on ASCII text it agrees with the
comparison after lowering. -/

namespace SipCodec

namespace Case

theorem foldEq_iff {a b : Nat} : foldEq a b = true ↔ mapBy foldRuns a = mapBy foldRuns b := by
  unfold foldEq
  constructor
  · intro h
    simp only [Bool.or_eq_true, beq_iff_eq] at h
    rcases h with rfl | h
    · rfl
    · exact h
  · intro h
    simp [h]

private theorem foldRuns_tail_high : ∀ r ∈ foldRuns.tail, 0xE0 ≤ r.lo := by decide +kernel

theorem mapBy_foldRuns_ascii {c : Nat} (ascii : c < 0x80) :
    mapBy foldRuns c = if 0x61 ≤ c ∧ c ≤ 0x7A then c - 32 else c := by
  -- the first run is the ASCII letters; every other run starts above 0xDF
  have rest : foldRuns.tail.findSome? (fun r => r.image? c) = none := by
    rw [List.findSome?_eq_none_iff]
    intro r member
    have high := foldRuns_tail_high r member
    simp only [Run.image?, Bool.and_eq_true, decide_eq_true_eq, beq_iff_eq]
    rw [if_neg (by omega)]
  have split : foldRuns = ⟨0x61, 0x7A, 1, -32⟩ :: foldRuns.tail := rfl
  rw [mapBy, split, List.findSome?_cons]
  by_cases letter : 0x61 ≤ c ∧ c ≤ 0x7A
  · have image : Run.image? ⟨0x61, 0x7A, 1, -32⟩ c = some (c - 32) := by
      simp only [Run.image?, Nat.mod_one, Bool.and_eq_true, decide_eq_true_eq, beq_iff_eq,
        and_true]
      rw [if_pos letter]
      congr 1
      omega
    simp [image, letter]
  · have image : Run.image? ⟨0x61, 0x7A, 1, -32⟩ c = none := by
      simp only [Run.image?, Nat.mod_one, Bool.and_eq_true, decide_eq_true_eq, beq_iff_eq,
        and_true]
      rw [if_neg letter]
    simp [image, rest, letter]

end Case

namespace Utf8

theorem codePoints_nil : codePoints [] = [] := by
  simp [codePoints, units]

theorem codePoints_cons_ascii {b : UInt8} (ascii : b < 0x80) (rest : Bytes) :
    codePoints (b :: rest) = b.toNat :: codePoints rest := by
  have lead : leading (b :: rest) = some (b.toNat, 1) := by simp [leading, ascii]
  simp only [codePoints]
  rw [units]
  simp [lead]

theorem codePoints_of_ascii {s : Bytes} (ascii : s.all (· < 0x80) = true) :
    codePoints s = s.map UInt8.toNat := by
  induction s with
  | nil => exact codePoints_nil
  | cons b rest ih =>
    simp only [List.all_cons, Bool.and_eq_true, decide_eq_true_eq] at ascii
    rw [codePoints_cons_ascii ascii.1, ih ascii.2, List.map_cons]

end Utf8

namespace Bytes

/-- The folding key of a text: its code points, each replaced by the least member of its
folding class. -/
def foldKey (s : Bytes) : List Nat := (Utf8.codePoints s).map (Case.mapBy Case.foldRuns)

private theorem toLower_eq_iff_fold {c d : UInt8} (hc : c < 0x80) (hd : d < 0x80) :
    Octet.toLower c = Octet.toLower d ↔
      Case.mapBy Case.foldRuns c.toNat = Case.mapBy Case.foldRuns d.toNat := by
  have hc' : c.toNat < 0x80 := hc
  have hd' : d.toNat < 0x80 := hd
  rw [← UInt8.toNat_inj, Grammar.toNat_toLower, Grammar.toNat_toLower,
    Case.mapBy_foldRuns_ascii hc', Case.mapBy_foldRuns_ascii hd']
  split <;> split <;> split <;> split <;> omega

private theorem lowerAscii_eq_iff_foldKey {a b : Bytes} (ha : a.all (· < 0x80) = true)
    (hb : b.all (· < 0x80) = true) :
    a.lowerAscii = b.lowerAscii ↔ a.foldKey = b.foldKey := by
  rw [foldKey, foldKey, Utf8.codePoints_of_ascii ha, Utf8.codePoints_of_ascii hb]
  induction a generalizing b with
  | nil => cases b <;> simp [lowerAscii]
  | cons c a ih =>
    cases b with
    | nil => simp [lowerAscii]
    | cons d b =>
      simp only [List.all_cons, Bool.and_eq_true, decide_eq_true_eq] at ha hb
      have head := toLower_eq_iff_fold ha.1 hb.1
      have tail := ih ha.2 hb.2
      simp only [lowerAscii, List.map_cons, List.cons.injEq] at tail ⊢
      rw [head, tail]

private theorem foldEq_zip_iff {xs ys : List Nat} :
    (xs.length == ys.length && (xs.zip ys).all fun (x, y) => Case.foldEq x y) = true ↔
      xs.map (Case.mapBy Case.foldRuns) = ys.map (Case.mapBy Case.foldRuns) := by
  induction xs generalizing ys with
  | nil => cases ys <;> simp
  | cons x xs ih =>
    cases ys with
    | nil => simp
    | cons y ys =>
      have tail := @ih ys
      simp only [List.length_cons, Nat.add_right_cancel_iff, List.zip_cons_cons, List.all_cons,
        List.map_cons, List.cons.injEq, Bool.and_eq_true, beq_iff_eq] at tail ⊢
      rw [Case.foldEq_iff, ← tail]
      exact and_left_comm

/-- Two texts are equal up to case exactly when their folding keys agree. -/
theorem eqFold_iff {a b : Bytes} : eqFold a b = true ↔ a.foldKey = b.foldKey := by
  unfold eqFold
  split
  · rename_i ascii
    simp only [Bool.and_eq_true] at ascii
    rw [eqFoldAscii, beq_iff_eq]
    exact lowerAscii_eq_iff_foldKey ascii.1 ascii.2
  · exact foldEq_zip_iff

@[simp] theorem eqFold_self (a : Bytes) : eqFold a a = true := eqFold_iff.2 rfl

theorem eqFold_comm (a b : Bytes) : eqFold a b = eqFold b a := by
  rw [Bool.eq_iff_iff, eqFold_iff, eqFold_iff]
  exact eq_comm

theorem eqFold_symm {a b : Bytes} (h : eqFold a b = true) : eqFold b a = true := by
  rwa [eqFold_comm]

theorem eqFold_trans {a b c : Bytes} (h₁ : eqFold a b = true) (h₂ : eqFold b c = true) :
    eqFold a c = true :=
  eqFold_iff.2 ((eqFold_iff.1 h₁).trans (eqFold_iff.1 h₂))

theorem eqFold_congr_left {a b : Bytes} (h : eqFold a b = true) (c : Bytes) :
    eqFold a c = eqFold b c := by
  rw [Bool.eq_iff_iff, eqFold_iff, eqFold_iff, eqFold_iff.1 h]

end Bytes

end SipCodec
