import SipCodec.Grammar.Node

/-! How the combinators of the grammar match, one membership lemma each, and which match
`matchRule` chooses among them. -/

namespace SipCodec.Grammar

/-- The node lists and rests that a sequence of rules matches, one part after another. -/
def Chain : List Rule → Bytes → List Node → Bytes → Prop
  | [], s, nodes, rest => nodes = [] ∧ rest = s
  | r :: rs, s, nodes, rest =>
    ∃ n mid more, (n, mid) ∈ r s ∧ Chain rs mid more rest ∧ nodes = n :: more

private theorem mem_foldl_paths {parts : List Rule} {acc : List (List Node × Bytes)}
    {nodes : List Node} {rest : Bytes} :
    (nodes, rest) ∈ parts.foldl (fun (acc : List (List Node × Bytes)) (r : Rule) =>
        acc.flatMap fun (nodes, rest) => (r rest).map fun (n, rest') => (nodes ++ [n], rest')) acc ↔
      ∃ pre mid more, (pre, mid) ∈ acc ∧ Chain parts mid more rest ∧ nodes = pre ++ more := by
  induction parts generalizing acc with
  | nil =>
    rw [List.foldl_nil]
    constructor
    · intro member
      exact ⟨nodes, rest, [], member, ⟨rfl, rfl⟩, by simp⟩
    · rintro ⟨pre, mid, more, member, ⟨rfl, rfl⟩, rfl⟩
      simpa using member
  | cons r rs ih =>
    rw [List.foldl_cons, ih]
    constructor
    · rintro ⟨pre, mid, more, member, chain, rfl⟩
      simp only [List.mem_flatMap, List.mem_map, Prod.exists, Prod.mk.injEq] at member
      obtain ⟨start, first, entered, n, after, matched, rfl, rfl⟩ := member
      exact ⟨start, first, n :: more, entered, ⟨n, after, more, matched, chain, rfl⟩, by simp⟩
    · rintro ⟨pre, first, nodes', entered, ⟨n, mid, more, matched, chain, rfl⟩, rfl⟩
      refine ⟨pre ++ [n], mid, more, ?_, chain, by simp⟩
      simp only [List.mem_flatMap, List.mem_map, Prod.exists, Prod.mk.injEq]
      exact ⟨pre, first, entered, n, mid, matched, rfl, rfl⟩

theorem mem_concat {key : String} {parts : List Rule} {s : Bytes} {n : Node} {rest : Bytes} :
    (n, rest) ∈ concat key parts s ↔
      ∃ nodes, Chain parts s nodes rest ∧ n = .mk key (nodes.flatMap Node.text) nodes := by
  simp only [concat, List.mem_map, Prod.exists, Prod.mk.injEq]
  constructor
  · rintro ⟨nodes, after, member, rfl, rfl⟩
    obtain ⟨pre, mid, more, start, chain, rfl⟩ := mem_foldl_paths.1 member
    simp only [List.mem_singleton, Prod.mk.injEq] at start
    obtain ⟨rfl, rfl⟩ := start
    exact ⟨more, chain, by simp⟩
  · rintro ⟨nodes, chain, rfl⟩
    exact ⟨nodes, rest, mem_foldl_paths.2 ⟨[], s, nodes, by simp, chain, by simp⟩, rfl, rfl⟩

theorem mem_optional {key : String} {r : Rule} {s : Bytes} {n : Node} {rest : Bytes} :
    (n, rest) ∈ optional key r s ↔
      (n = .mk key [] [] ∧ rest = s) ∨ ∃ m, (m, rest) ∈ r s ∧ n = .mk key m.text [m] := by
  simp only [optional, List.mem_cons, Prod.mk.injEq, List.mem_map, Prod.exists]
  constructor
  · rintro (same | ⟨m, after, matched, rfl, rfl⟩)
    · exact .inl same
    · exact .inr ⟨m, matched, rfl⟩
  · rintro (same | ⟨m, matched, rfl⟩)
    · exact .inl same
    · exact .inr ⟨m, rest, matched, rfl, rfl⟩

theorem mem_runOf {key : String} {step : Bytes → Nat} {s : Bytes} {n : Node} {rest : Bytes} :
    (n, rest) ∈ runOf key step s ↔
      0 < Bytes.runLength step s ∧ n = .mk key (s.take (Bytes.runLength step s)) [] ∧
        rest = s.drop (Bytes.runLength step s) := by
  simp only [runOf]
  split <;> simp_all [Nat.pos_iff_ne_zero, eq_comm]

theorem mem_literal {key : String} {word s : Bytes} {n : Node} {rest : Bytes} :
    (n, rest) ∈ literal key word s ↔
      Bytes.eqFoldAscii (s.take word.length) word = true ∧ word.length ≤ s.length ∧
        n = .mk key (s.take word.length) [] ∧ rest = s.drop word.length := by
  simp only [literal]
  by_cases matched : Bytes.eqFoldAscii (s.take word.length) word = true ∧ word.length ≤ s.length
  · rw [if_pos (by simpa [Bool.and_eq_true] using matched)]
    simp only [List.mem_singleton, Prod.mk.injEq]
    constructor
    · rintro ⟨rfl, rfl⟩
      exact ⟨matched.1, matched.2, rfl, rfl⟩
    · rintro ⟨-, -, rfl, rfl⟩
      exact ⟨rfl, rfl⟩
  · rw [if_neg (by simpa [Bool.and_eq_true] using matched)]
    simp only [List.not_mem_nil, false_iff]
    rintro ⟨equal, long, -⟩
    exact matched ⟨equal, long⟩


theorem runLength_eq_takeWhile {step : Bytes → Nat} (ok : UInt8 → Bool)
    (unit : ∀ c t, step (c :: t) = if ok c then 1 else 0) (s : Bytes) :
    Bytes.runLength step s = (s.takeWhile ok).length := by
  induction s with
  | nil => simp [Bytes.runLength]
  | cons c s ih =>
    rw [Bytes.runLength]
    by_cases hc : ok c = true
    · simp [unit, hc, ih, Nat.add_comm]
    · simp [unit, hc]

theorem take_length_takeWhile (p : UInt8 → Bool) (s : Bytes) :
    s.take (s.takeWhile p).length = s.takeWhile p := by
  induction s with
  | nil => rfl
  | cons c s ih => by_cases hc : p c = true <;> simp [hc, ih]

theorem drop_length_takeWhile (p : UInt8 → Bool) (s : Bytes) :
    s.drop (s.takeWhile p).length = s.dropWhile p := by
  induction s with
  | nil => rfl
  | cons c s ih => by_cases hc : p c = true <;> simp [hc, ih]

theorem mem_run {key : String} {ok : UInt8 → Bool} {s : Bytes} {n : Node} {rest : Bytes} :
    (n, rest) ∈ run key ok s ↔
      s.takeWhile ok ≠ [] ∧ n = .mk key (s.takeWhile ok) [] ∧ rest = s.dropWhile ok := by
  unfold run
  rw [mem_runOf, runLength_eq_takeWhile ok, take_length_takeWhile, drop_length_takeWhile,
    List.length_pos_iff]
  intro c t
  rfl

theorem longest_eq_none_iff {ms : List (Node × Bytes)} : longest ms = none ↔ ms = [] := by
  cases ms with
  | nil => simp [longest]
  | cons m ms =>
    simp only [longest, reduceCtorEq, iff_false]
    split
    · simp
    · split <;> simp

theorem mem_of_longest {ms : List (Node × Bytes)} {m : Node × Bytes} (chosen : longest ms = some m) :
    m ∈ ms := by
  induction ms generalizing m with
  | nil => simp [longest] at chosen
  | cons first more ih =>
    simp only [longest] at chosen
    split at chosen
    · cases chosen; simp
    · rename_i best found
      split at chosen
      · cases chosen; exact List.mem_cons_of_mem _ (ih found)
      · cases chosen; simp

theorem length_le_of_longest {ms : List (Node × Bytes)} {m other : Node × Bytes}
    (chosen : longest ms = some m) (member : other ∈ ms) :
    other.1.text.length ≤ m.1.text.length := by
  induction ms generalizing m with
  | nil => simp at member
  | cons first more ih =>
    simp only [longest] at chosen
    rcases List.mem_cons.mp member with rfl | member
    · split at chosen
      · cases chosen; exact Nat.le_refl _
      · split at chosen
        · cases chosen; omega
        · cases chosen; exact Nat.le_refl _
    · split at chosen
      · rename_i none
        simp [longest_eq_none_iff.mp none] at member
      · rename_i best found
        have bound := ih found member
        split at chosen
        · cases chosen; exact bound
        · cases chosen; omega

theorem matchRule_eq_ok_iff {r : Rule} {s : Bytes} {n : Node} :
    matchRule r s = .ok n ↔ s ≠ [] ∧ (∃ rest, longest (r s) = some (n, rest)) ∧ n.text ≠ [] := by
  unfold matchRule
  cases s with
  | nil => simp
  | cons c s =>
    simp only [List.isEmpty_cons, Bool.false_eq_true, ↓reduceIte, ne_eq, reduceCtorEq,
      not_false_eq_true, true_and]
    split
    · rename_i none
      simp [none]
    · rename_i m found
      simp only [found, Option.some.injEq]
      split
      · rename_i empty
        constructor
        · intro h; cases h
        · rintro ⟨⟨rest, same⟩, nonempty⟩
          cases same
          simp_all
      · rename_i nonempty
        constructor
        · intro h; cases h
          exact ⟨⟨_, rfl⟩, by simpa using nonempty⟩
        · rintro ⟨⟨rest, same⟩, -⟩
          cases same; rfl

theorem runLength_step {step : Bytes → Nat} {s : Bytes} (nonempty : s ≠ [])
    (moves : step s ≠ 0) : Bytes.runLength step s = step s + Bytes.runLength step (s.drop (step s)) := by
  cases s with
  | nil => contradiction
  | cons c s => rw [Bytes.runLength]; simp [moves]

theorem runLength_stop {step : Bytes → Nat} {s : Bytes} (stops : step s = 0) :
    Bytes.runLength step s = 0 := by
  cases s with
  | nil => simp [Bytes.runLength]
  | cons c s => rw [Bytes.runLength]; simp [stops]

theorem toNat_toLower (d : UInt8) :
    (Octet.toLower d).toNat = if 65 ≤ d.toNat ∧ d.toNat ≤ 90 then d.toNat + 32 else d.toNat := by
  simp only [Octet.toLower, Octet.isUpper, Bool.and_eq_true, decide_eq_true_eq,
    UInt8.le_iff_toNat_le, UInt8.reduceToNat]
  split
  · simp only [UInt8.toNat_add, UInt8.reduceToNat]
    omega
  · rfl

theorem toLower_eq_iff_of_mark {c : UInt8} (notUpper : ¬ (65 ≤ c.toNat ∧ c.toNat ≤ 90))
    (notLower : ¬ (97 ≤ c.toNat ∧ c.toNat ≤ 122)) (d : UInt8) :
    Octet.toLower d = Octet.toLower c ↔ d = c := by
  rw [← UInt8.toNat_inj, ← UInt8.toNat_inj, toNat_toLower, toNat_toLower, if_neg notUpper]
  split <;> omega

theorem mem_octet_mark {c : UInt8} (notUpper : ¬ (65 ≤ c.toNat ∧ c.toNat ≤ 90))
    (notLower : ¬ (97 ≤ c.toNat ∧ c.toNat ≤ 122)) {s : Bytes} {n : Node} {rest : Bytes} :
    (n, rest) ∈ octet c s ↔ s = c :: rest ∧ n = .mk (String.singleton (Char.ofNat c.toNat)) [c] [] := by
  simp only [octet, mem_literal, List.length_singleton]
  cases s with
  | nil => simp
  | cons d s =>
    simp only [List.take_succ_cons, List.take_zero, Bytes.eqFoldAscii, Bytes.lowerAscii,
      List.map_cons, List.map_nil, beq_iff_eq, List.cons.injEq, and_true, List.length_cons,
      Nat.le_add_left, true_and, List.drop_succ_cons, List.drop_zero,
      toLower_eq_iff_of_mark notUpper notLower]
    constructor
    · rintro ⟨rfl, rfl, rfl⟩
      exact ⟨⟨rfl, rfl⟩, rfl⟩
    · rintro ⟨⟨rfl, rfl⟩, rfl⟩
      exact ⟨rfl, rfl, rfl⟩


theorem mem_octet_lf {s : Bytes} {n : Node} {rest : Bytes} :
    (n, rest) ∈ octet 10 s ↔ s = 10 :: rest ∧ n = .mk (String.singleton (Char.ofNat 10)) [10] [] :=
  mem_octet_mark (by decide) (by decide)

theorem mem_octet_cr {s : Bytes} {n : Node} {rest : Bytes} :
    (n, rest) ∈ octet 13 s ↔ s = 13 :: rest ∧ n = .mk (String.singleton (Char.ofNat 13)) [13] [] :=
  mem_octet_mark (by decide) (by decide)

theorem mem_octet_colon {s : Bytes} {n : Node} {rest : Bytes} :
    (n, rest) ∈ octet 58 s ↔ s = 58 :: rest ∧ n = .mk (String.singleton (Char.ofNat 58)) [58] [] :=
  mem_octet_mark (by decide) (by decide)

end SipCodec.Grammar
