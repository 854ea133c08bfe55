import SipCodec.Proofs.Grammar.Lookup
import SipCodec.Proofs.Text.Percent
import SipCodec.Proofs.Text.Lexical

/-! Matching the grammar on written text: on a part written as its own octets and escapes, the
combinators' matches come out as explicit lists, so a rule's matches are computed by unfolding it. -/

namespace SipCodec.Grammar

/-- The step of an escaped run: an octet of the class, or a whole escape `%HH`. -/
def escapedStep (ok : UInt8 → Bool) : Bytes → Nat := fun s =>
  match s with
  | c :: rest =>
    if ok c then 1
    else match c, rest with
      | 37, a :: b :: _ => if Octet.isHex a && Octet.isHex b then 3 else 0
      | _, _ => 0
  | [] => 0

theorem escapedRun_eq (key : String) (ok : UInt8 → Bool) :
    escapedRun key ok = runOf key (escapedStep ok) := rfl

/-- Text made of octets of a class and escapes `%HH`, as an escaped run takes it. -/
inductive Escaped (ok : UInt8 → Bool) : Bytes → Prop
  | nil : Escaped ok []
  | plain {c : UInt8} {t : Bytes} : ok c = true → Escaped ok t → Escaped ok (c :: t)
  | escape {a b : UInt8} {t : Bytes} : (Octet.isHex a && Octet.isHex b) = true → Escaped ok t →
      Escaped ok (37 :: a :: b :: t)

variable {ok : UInt8 → Bool}

theorem Escaped.append {x y : Bytes} (front : Escaped ok x) (back : Escaped ok y) :
    Escaped ok (x ++ y) := by
  induction front with
  | nil => exact back
  | plain kept _ ih => exact .plain kept ih
  | escape digits _ ih => exact .escape digits ih

theorem escapedStep_nil : escapedStep ok [] = 0 := rfl

theorem escapedStep_stop {c : UInt8} (outside : ok c = false) (plain : c ≠ 37) (z : Bytes) :
    escapedStep ok (c :: z) = 0 := by
  simp only [escapedStep, outside, Bool.false_eq_true, if_false]
  split
  · exact absurd rfl plain
  · rfl

theorem runLength_escaped (noPercent : ok 37 = false) {t : Bytes} (written : Escaped ok t)
    (y : Bytes) :
    Bytes.runLength (escapedStep ok) (t ++ y) = t.length + Bytes.runLength (escapedStep ok) y := by
  induction written with
  | nil => simp
  | @plain c t kept _ ih =>
    have one : escapedStep ok (c :: (t ++ y)) = 1 := by simp [escapedStep, kept]
    rw [List.cons_append, runLength_step (List.cons_ne_nil _ _) (by omega), one]
    simp only [List.drop_one, List.tail_cons, ih, List.length_cons]
    omega
  | @escape a b t digits _ ih =>
    have three : escapedStep ok (37 :: a :: b :: (t ++ y)) = 3 := by
      simp [escapedStep, noPercent, digits]
    rw [List.cons_append, List.cons_append, List.cons_append,
      runLength_step (List.cons_ne_nil _ _) (by omega), three]
    simp only [List.drop_succ_cons, List.drop_zero, ih, List.length_cons]
    omega

/-- An escaped run over a non-empty escaped part takes exactly the part when what follows stops
it. -/
theorem escapedRun_written (noPercent : ok 37 = false) {t y : Bytes} (written : Escaped ok t)
    (nonempty : t ≠ []) (stops : escapedStep ok y = 0) (key : String) :
    escapedRun key ok (t ++ y) = [(.mk key t [], y)] := by
  have taken : Bytes.runLength (escapedStep ok) (t ++ y) = t.length := by
    rw [runLength_escaped noPercent written, runLength_stop stops, Nat.add_zero]
  simp only [escapedRun_eq, runOf, taken, List.take_left', List.drop_left']
  rw [if_neg (by simpa using nonempty)]

theorem escapedRun_stopped {y : Bytes} (stops : escapedStep ok y = 0) (key : String) :
    escapedRun key ok y = [] := by
  simp [escapedRun_eq, runOf, runLength_stop stops]

theorem escapedStep_cases {s : Bytes} (moves : escapedStep ok s ≠ 0) :
    (∃ c t, s = c :: t ∧ ok c = true ∧ escapedStep ok s = 1) ∨
      ∃ a b t, s = 37 :: a :: b :: t ∧ (Octet.isHex a && Octet.isHex b) = true ∧
        escapedStep ok s = 3 := by
  rcases s with _ | ⟨c, t⟩
  · exact absurd escapedStep_nil moves
  by_cases kept : ok c = true
  · exact .inl ⟨c, t, rfl, kept, by simp [escapedStep, kept]⟩
  · simp only [escapedStep, kept, Bool.false_eq_true, if_false] at moves ⊢
    split at moves
    · rename_i a b t
      split at moves
      · rename_i digits
        exact .inr ⟨a, b, t, rfl, digits, by simp [digits]⟩
      · exact absurd rfl moves
    · exact absurd rfl moves

theorem escaped_take_runLength (s : Bytes) :
    Escaped ok (s.take (Bytes.runLength (escapedStep ok) s)) := by
  induction size : s.length using Nat.strongRecOn generalizing s with
  | _ k ih =>
    by_cases moves : escapedStep ok s = 0
    · rw [runLength_stop moves]
      exact .nil
    rcases escapedStep_cases moves with ⟨c, t, rfl, kept, one⟩ | ⟨a, b, t, rfl, digits, three⟩
    · rw [runLength_step (List.cons_ne_nil c t) moves, one, Nat.add_comm, List.drop_one,
        List.tail_cons, List.take_succ_cons]
      exact .plain kept (ih t.length (by simp [← size]) t rfl)
    · rw [runLength_step (List.cons_ne_nil _ _) moves, three, Nat.add_comm]
      simp only [List.drop_succ_cons, List.drop_zero, List.take_succ_cons]
      exact .escape digits (ih t.length (by simp only [← size, List.length_cons]; omega) t rfl)

theorem Escaped.mem {t : Bytes} (written : Escaped ok t) {c : UInt8} (member : c ∈ t) :
    ok c = true ∨ c = 37 ∨ Octet.isHex c = true := by
  induction written with
  | nil => cases member
  | plain kept _ ih =>
    rcases List.mem_cons.1 member with rfl | later
    · exact .inl kept
    · exact ih later
  | escape digits _ ih =>
    simp only [Bool.and_eq_true] at digits
    simp only [List.mem_cons] at member
    rcases member with rfl | rfl | rfl | later
    · exact .inr (.inl rfl)
    · exact .inr (.inr digits.1)
    · exact .inr (.inr digits.2)
    · exact ih later

theorem escaped_of_mem_escapedRun {key : String} {s : Bytes} {n : Node} {rest : Bytes}
    (matched : (n, rest) ∈ escapedRun key ok s) : Escaped ok n.text ∧ n.text ≠ [] := by
  rw [escapedRun_eq] at matched
  obtain ⟨positive, rfl, -⟩ := mem_runOf.1 matched
  refine ⟨escaped_take_runLength s, ?_⟩
  simp only [Node.text, ne_eq, List.take_eq_nil_iff, not_or]
  refine ⟨by omega, fun empty => ?_⟩
  subst empty
  simp [Bytes.runLength] at positive

/-! ### Written parts -/

section Encode

variable {keep : UInt8 → Bool}

theorem escaped_escapeOne (within : ∀ c, keep c = true → ok c = true) (c : UInt8) :
    Escaped ok (Percent.encode.escapeOne keep c) := by
  by_cases kept : keep c = true
  · simpa [Percent.encode.escapeOne, kept] using Escaped.plain (within c kept) .nil
  · obtain ⟨high, low, -⟩ := Percent.hexDigits_octet c
    simpa [Percent.encode.escapeOne, kept] using Escaped.escape (by simp [high, low]) .nil

theorem escaped_encode (within : ∀ c, keep c = true → ok c = true) (s : Bytes) :
    Escaped ok (Percent.encode keep s) := by
  induction s using Percent.encode.induct with
  | case1 => exact .nil
  | case2 a b rest digits ih =>
    rw [Percent.encode_escape keep digits]
    exact .escape digits ih
  | case3 a b rest broken ih =>
    rw [Percent.encode_broken keep broken]
    exact (escaped_escapeOne within 37).append ih
  | case4 c rest short ih =>
    rw [Percent.encode.eq_3 keep _ _ short]
    exact (escaped_escapeOne within c).append ih

theorem encode_eq_nil_iff (s : Bytes) : Percent.encode keep s = [] ↔ s = [] := by
  cases s with
  | nil => simp [Percent.encode]
  | cons c s =>
    have opens := Percent.head?_encode_cons keep c s
    constructor
    · intro empty
      rw [empty] at opens
      cases opens
    · intro h
      cases h

end Encode

/-! ### Runs and octets -/

theorem run_eq (key : String) (s : Bytes) :
    run key ok s =
      if s.takeWhile ok = [] then [] else [(.mk key (s.takeWhile ok) [], s.dropWhile ok)] := by
  unfold run runOf
  rw [runLength_eq_takeWhile ok]
  · simp only [take_length_takeWhile, drop_length_takeWhile, List.length_eq_zero_iff]
  · intro c t; rfl

theorem run_written {x y : Bytes} (all : ∀ c ∈ x, ok c = true) (nonempty : x ≠ [])
    (stop : ∀ c, y.head? = some c → ok c = false) (key : String) :
    run key ok (x ++ y) = [(.mk key x [], y)] := by
  have taken : (x ++ y).takeWhile ok = x := by
    rw [List.takeWhile_append_of_pos all]
    cases y with
    | nil => simp
    | cons c y => simp [stop c rfl]
  have left : (x ++ y).dropWhile ok = y := by
    rw [List.dropWhile_append_of_pos all]
    cases y with
    | nil => rfl
    | cons c y => simp [stop c rfl]
  rw [run_eq, taken, left, if_neg nonempty]

theorem octet_cons {c : UInt8} (mark : Octet.isAlpha c = false) (d : UInt8) (z : Bytes) :
    octet c (d :: z) =
      if d = c then [(.mk (String.singleton (Char.ofNat c.toNat)) [c] [], z)] else [] := by
  have notUpper : ¬ (65 ≤ c.toNat ∧ c.toNat ≤ 90) := by
    simp only [Octet.isAlpha, Octet.isUpper, Octet.isLower, Bool.or_eq_false_iff,
      Bool.and_eq_false_iff, decide_eq_false_iff_not, UInt8.not_le, UInt8.lt_iff_toNat_lt,
      UInt8.reduceToNat] at mark
    omega
  have notLower : ¬ (97 ≤ c.toNat ∧ c.toNat ≤ 122) := by
    simp only [Octet.isAlpha, Octet.isUpper, Octet.isLower, Bool.or_eq_false_iff,
      Bool.and_eq_false_iff, decide_eq_false_iff_not, UInt8.not_le, UInt8.lt_iff_toNat_lt,
      UInt8.reduceToNat] at mark
    omega
  simp only [octet, literal, List.take_succ_cons, Bytes.eqFoldAscii, Bytes.lowerAscii,
    List.map_cons, List.map_nil, List.length_cons, List.drop_succ_cons]
  by_cases same : d = c
  · subst same; simp
  · simp [same, toLower_eq_iff_of_mark notUpper notLower]

theorem octet_nil (c : UInt8) : octet c [] = [] := by
  simp [octet, literal]

/-! ### The longest match -/

/-- `longest` chooses a match that every other match is shorter than. -/
theorem longest_eq_of_max {ms : List (Node × Bytes)} {m : Node × Bytes} (member : m ∈ ms)
    (shorter : ∀ x ∈ ms, x = m ∨ x.1.text.length < m.1.text.length) : longest ms = some m := by
  induction ms with
  | nil => cases member
  | cons a as ih =>
    rw [longest]
    by_cases first : a = m
    · subst first
      split
      · rfl
      · rename_i best found
        rcases shorter best (List.mem_cons_of_mem _ (mem_of_longest found)) with rfl | less
        · simp
        · rw [if_neg (by omega)]
    · have later : m ∈ as := (List.mem_cons.1 member).resolve_left (Ne.symm first)
      rw [ih later fun x inside => shorter x (List.mem_cons_of_mem _ inside)]
      have less := (shorter a List.mem_cons_self).resolve_left first
      exact if_pos less

/-! ### Concatenations part by part -/

/-- The node lists and rests of a sequence of rules, one part after another. -/
def chains : List Rule → Bytes → List (List Node × Bytes)
  | [], s => [([], s)]
  | r :: rs, s => (r s).flatMap fun (n, mid) => (chains rs mid).map fun (ns, rest) => (n :: ns, rest)

private theorem foldl_paths (parts : List Rule) (acc : List (List Node × Bytes)) :
    parts.foldl (fun (acc : List (List Node × Bytes)) (r : Rule) =>
        acc.flatMap fun (nodes, rest) => (r rest).map fun (n, rest') => (nodes ++ [n], rest')) acc =
      acc.flatMap fun (pre, mid) => (chains parts mid).map fun (ns, rest) => (pre ++ ns, rest) := by
  induction parts generalizing acc with
  | nil => simp [chains]
  | cons r rs ih =>
    rw [List.foldl_cons, ih]
    simp [chains, List.flatMap_assoc, List.map_flatMap, List.flatMap_map, Function.comp_def]

theorem concat_eq (key : String) (parts : List Rule) (s : Bytes) :
    concat key parts s =
      (chains parts s).map fun (nodes, rest) => (.mk key (nodes.flatMap Node.text) nodes, rest) := by
  simp [concat, foldl_paths]

/-! ### What a match covers -/

/-- Every match of the rule covers a front of the text it is applied to. -/
def Consumes (r : Rule) : Prop := ∀ s n rest, (n, rest) ∈ r s → s = n.text ++ rest

/-- Every octet that a match of the rule covers has the property `p`. -/
def Texts (r : Rule) (p : UInt8 → Prop) : Prop := ∀ s n rest, (n, rest) ∈ r s → ∀ c ∈ n.text, p c

namespace Consumes

theorem literal (key : String) (word : Bytes) : Consumes (literal key word) := by
  intro s n rest matched
  obtain ⟨-, -, rfl, rfl⟩ := mem_literal.1 matched
  exact (List.take_append_drop _ _).symm

theorem octet (c : UInt8) : Consumes (octet c) := literal _ _

theorem runOf (key : String) (step : Bytes → Nat) : Consumes (runOf key step) := by
  intro s n rest matched
  obtain ⟨-, rfl, rfl⟩ := mem_runOf.1 matched
  exact (List.take_append_drop _ _).symm

theorem run (key : String) (ok : UInt8 → Bool) : Consumes (run key ok) := runOf _ _

theorem escapedRun (key : String) (ok : UInt8 → Bool) : Consumes (escapedRun key ok) := runOf _ _

theorem optional {key : String} {r : Rule} (inner : Consumes r) : Consumes (optional key r) := by
  intro s n rest matched
  rcases mem_optional.1 matched with ⟨rfl, rfl⟩ | ⟨m, found, rfl⟩
  · rfl
  · exact inner s m rest found

theorem chain {parts : List Rule} (each : ∀ p ∈ parts, Consumes p) {s : Bytes} {nodes : List Node}
    {rest : Bytes} (covered : Chain parts s nodes rest) : s = nodes.flatMap Node.text ++ rest := by
  induction parts generalizing s nodes with
  | nil =>
    obtain ⟨rfl, rfl⟩ := covered
    rfl
  | cons r rs ih =>
    obtain ⟨n, mid, more, matched, later, rfl⟩ := covered
    rw [each r List.mem_cons_self s n mid matched,
      ih (fun p part => each p (List.mem_cons_of_mem r part)) later]
    simp

theorem concat {key : String} {parts : List Rule} (each : ∀ p ∈ parts, Consumes p) :
    Consumes (concat key parts) := by
  intro s n rest matched
  obtain ⟨nodes, covered, rfl⟩ := mem_concat.1 matched
  exact chain each covered

theorem altFirst {key : String} {rules : List Rule} (each : ∀ p ∈ rules, Consumes p) :
    Consumes (altFirst key rules) := by
  intro s n rest matched
  obtain ⟨c, rfl, r, part, found⟩ := mem_altFirst matched
  exact each r part s c rest found

end Consumes

namespace Texts

variable {p q : UInt8 → Prop}

theorem mono {r : Rule} (texts : Texts r p) (weaker : ∀ c, p c → q c) : Texts r q :=
  fun s n rest matched c member => weaker c (texts s n rest matched c member)

theorem octet {c : UInt8} (mark : Octet.isAlpha c = false) : Texts (octet c) (· = c) := by
  intro s n rest matched d member
  rcases s with _ | ⟨e, z⟩
  · rw [octet_nil] at matched
    cases matched
  · rw [octet_cons mark] at matched
    split at matched
    · rw [List.mem_singleton, Prod.mk.injEq] at matched
      obtain ⟨rfl, -⟩ := matched
      simpa [Node.text] using member
    · cases matched

theorem run (key : String) (ok : UInt8 → Bool) : Texts (run key ok) (ok · = true) := by
  intro s n rest matched c member
  obtain ⟨-, rfl, -⟩ := mem_run.1 matched
  exact List.all_eq_true.1 List.all_takeWhile c member

theorem escapedRun (key : String) (ok : UInt8 → Bool) :
    Texts (escapedRun key ok) (fun c => ok c = true ∨ c = 37 ∨ Octet.isHex c = true) :=
  fun _ _ _ matched _ member => (escaped_of_mem_escapedRun matched).1.mem member

theorem optional {key : String} {r : Rule} (inner : Texts r p) : Texts (optional key r) p := by
  intro s n rest matched c member
  rcases mem_optional.1 matched with ⟨rfl, -⟩ | ⟨m, found, rfl⟩
  · cases member
  · exact inner s m rest found c member

theorem concat {key : String} {parts : List Rule} (each : ∀ r ∈ parts, Texts r p) :
    Texts (concat key parts) p := by
  intro s n rest matched c member
  obtain ⟨nodes, covered, rfl⟩ := mem_concat.1 matched
  obtain ⟨m, node, inside⟩ := List.mem_flatMap.1 member
  obtain ⟨r, part, s', rest', found⟩ := covered.mem_nodes node
  exact each r part s' m rest' found c inside

theorem altFirst {key : String} {rules : List Rule} (each : ∀ r ∈ rules, Texts r p) :
    Texts (altFirst key rules) p := by
  intro s n rest matched c member
  obtain ⟨m, rfl, r, part, found⟩ := mem_altFirst matched
  exact each r part s m rest found c member

end Texts

theorem length_le_of_avoids {s x y text rest : Bytes} {c : UInt8} (split : s = x ++ c :: y)
    (covers : s = text ++ rest) (avoids : c ∉ text) : text.length ≤ x.length := by
  apply Nat.le_of_not_lt
  intro long
  have front : x ++ [c] <+: s := ⟨y, by rw [split, List.append_assoc, List.singleton_append]⟩
  have inside : x ++ [c] <+: text :=
    List.prefix_of_prefix_length_le front ⟨rest, covers.symm⟩ (by simp; omega)
  exact avoids (inside.subset (by simp))

end SipCodec.Grammar
