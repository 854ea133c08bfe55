import Mathlib.Tactic.SplitIfs
import Mathlib.Tactic.Set
import Mathlib.Data.List.TakeWhile
import Mathlib.Data.List.DropRight
import SipCodec.Text.Space

/-! Reading UTF-8 is local, so trimming white space keeps whole units and trimming twice is trimming
once. -/

namespace SipCodec.Utf8

theorem leading_len {b : UInt8} {rest : Bytes} {cp n : Nat}
    (read : leading (b :: rest) = some (cp, n)) : n - 1 ≤ rest.length := by
  simp only [leading] at read
  split_ifs at read <;> (repeat' split at read) <;> simp_all <;> omega

theorem leading_take {b : UInt8} {rest t : Bytes} {cp n : Nat}
    (read : leading (b :: rest) = some (cp, n)) :
    leading (b :: (rest.take (n - 1) ++ t)) = some (cp, n) := by
  simp only [leading] at read ⊢
  split_ifs at read ⊢ <;> (repeat' split at read) <;>
    simp only [Option.some.injEq, Prod.mk.injEq, reduceCtorEq] at read <;>
    obtain ⟨rfl, rfl⟩ := read <;> simp_all

theorem leading_none_shorter {b : UInt8} {rest t : Bytes} (stray : leading (b :: rest) = none)
    (front : t <+: rest) : leading (b :: t) = none := by
  obtain ⟨u, rfl⟩ := front
  cases read : leading (b :: t) with
  | none => rfl
  | some p =>
    -- a character read from the shorter text would be read from the longer one too
    obtain ⟨cp, n⟩ := p
    have longer := leading_take (t := t.drop (n - 1) ++ u) read
    rw [← List.append_assoc, List.take_append_drop] at longer
    rw [longer] at stray
    cases stray

@[simp] theorem units_nil : units [] = [] := by
  rw [units]

theorem units_char {b : UInt8} {rest : Bytes} {cp n : Nat}
    (read : leading (b :: rest) = some (cp, n)) :
    units (b :: rest) = .char cp (b :: rest.take (n - 1)) :: units (rest.drop (n - 1)) := by
  rw [units, read]

theorem units_stray {b : UInt8} {rest : Bytes} (stray : leading (b :: rest) = none) :
    units (b :: rest) = .stray b :: units rest := by
  rw [units, stray]

theorem flatMap_units (s : Bytes) : (units s).flatMap Unit.bytes = s := by
  fun_induction units s with
  | case1 => rfl
  | case2 b rest cp n read ih => simp [ih, Unit.bytes]
  | case3 b rest stray ih => simp [ih, Unit.bytes]

theorem units_of_split {s : Bytes} {A B : List Unit} (split : units s = A ++ B) :
    units (A.flatMap Unit.bytes) = A ∧ units (B.flatMap Unit.bytes) = B := by
  induction s using units.induct generalizing A with
  | case1 =>
    obtain ⟨rfl, rfl⟩ := List.append_eq_nil_iff.1 (units_nil ▸ split).symm
    exact ⟨units_nil, units_nil⟩
  | case2 b rest cp n read ih =>
    rw [units_char read] at split
    cases A with
    | nil =>
      subst split
      exact ⟨units_nil, by rw [← units_char read, flatMap_units]⟩
    | cons u A =>
      rw [List.cons_append, List.cons.injEq] at split
      obtain ⟨rfl, tail⟩ := split
      obtain ⟨front, back⟩ := ih tail
      refine ⟨?_, back⟩
      have whole : (rest.take (n - 1)).length = n - 1 := by
        simp [leading_len read]
      simp only [List.flatMap_cons, Unit.bytes, List.cons_append]
      rw [units_char (leading_take read), List.take_left' whole, List.drop_left' whole, front]
  | case3 b rest stray ih =>
    rw [units_stray stray] at split
    cases A with
    | nil =>
      subst split
      exact ⟨units_nil, by rw [← units_stray stray, flatMap_units]⟩
    | cons u A =>
      rw [List.cons_append, List.cons.injEq] at split
      obtain ⟨rfl, tail⟩ := split
      obtain ⟨front, back⟩ := ih tail
      refine ⟨?_, back⟩
      have shorter : A.flatMap Unit.bytes <+: rest := by
        rw [← flatMap_units rest, tail, List.flatMap_append]
        exact List.prefix_append _ _
      simp only [List.flatMap_cons, Unit.bytes, List.singleton_append]
      rw [units_stray (leading_none_shorter stray shorter), front]

theorem units_cons_ascii {b : UInt8} (ascii : b < 0x80) (rest : Bytes) :
    units (b :: rest) = .char b.toNat [b] :: units rest := by
  have lead : leading (b :: rest) = some (b.toNat, 1) := by simp [leading, ascii]
  rw [units]
  simp [lead]

theorem units_of_ascii {s : Bytes} (ascii : ∀ b ∈ s, b < 0x80) :
    units s = s.map fun b => .char b.toNat [b] := by
  induction s with
  | nil => simp
  | cons b s ih =>
    rw [units_cons_ascii (ascii b List.mem_cons_self),
      ih fun d member => ascii d (List.mem_cons_of_mem b member), List.map_cons]

end SipCodec.Utf8

namespace SipCodec.Bytes

open Utf8

private theorem dropWhile_map_self {α β : Type} {f : α → β} {p : β → Bool} {l : List α}
    (keep : ∀ a ∈ l, p (f a) = false) : (l.map f).dropWhile p = l.map f := by
  cases l with
  | nil => rfl
  | cons a l => simp [keep a List.mem_cons_self]

theorem trimSpace_of_ascii {s : Bytes} (ascii : ∀ b ∈ s, b < 0x80)
    (noSpace : ∀ b ∈ s, isSpaceCode b.toNat = false) : trimSpace s = s := by
  unfold trimSpace
  rw [units_of_ascii ascii]
  rw [dropWhile_map_self fun b member => by change isSpaceCode _ = false; exact noSpace b member,
    ← List.map_reverse, dropWhile_map_self fun b member => by
      change isSpaceCode _ = false; exact noSpace b (List.mem_reverse.1 member)]
  dsimp only
  rw [List.map_reverse, List.reverse_reverse, List.flatMap_map]
  exact List.flatMap_singleton' s

/-- Trimming twice is trimming once. -/
theorem trimSpace_trimSpace (s : Bytes) : trimSpace (trimSpace s) = trimSpace s := by
  set front := (units s).dropWhile Unit.isSpace with frontIs
  set kept := (front.reverse.dropWhile Unit.isSpace).reverse with keptIs
  have trimmed : trimSpace s = kept.flatMap Unit.bytes := rfl
  have keptPrefix : kept <+: front := by
    refine ⟨(front.reverse.takeWhile Unit.isSpace).reverse, ?_⟩
    rw [keptIs, ← List.reverse_append, List.takeWhile_append_dropWhile, List.reverse_reverse]
  have split : units s = (units s).takeWhile Unit.isSpace ++ kept ++
      (front.reverse.takeWhile Unit.isSpace).reverse := by
    rw [List.append_assoc, keptIs, ← List.reverse_append, List.takeWhile_append_dropWhile,
      List.reverse_reverse, frontIs, List.takeWhile_append_dropWhile]
  have read : units (kept.flatMap Unit.bytes) = kept :=
    (units_of_split (units_of_split split).1).2
  have keptStarts : kept.dropWhile Unit.isSpace = kept := by
    rw [List.dropWhile_eq_self_iff]
    intro inside
    rw [keptPrefix.getElem inside]
    exact List.dropWhile_eq_self_iff.1 (List.dropWhile_idempotent Unit.isSpace (units s)) _
  have keptEnds : kept.reverse.dropWhile Unit.isSpace = kept.reverse := by
    rw [keptIs, List.reverse_reverse, List.dropWhile_idempotent]
  rw [trimmed]
  unfold trimSpace
  simp only [read, keptStarts, keptEnds, List.reverse_reverse]

end SipCodec.Bytes
