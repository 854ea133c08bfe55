import SipCodec.Net.IpAddr
import SipCodec.Proofs.Auth.Agreement
import SipCodec.Proofs.Text.Trim

/-! Ports and IPv4 and IPv6 addresses read back from the text they are written as. -/

namespace SipCodec

namespace Bytes

section Split

variable {c : UInt8}

theorem splitOnByte_of_not_mem {s : Bytes} (absent : c ∉ s) : splitOnByte c s = [s] := by
  induction s with
  | nil => rfl
  | cons b s ih =>
    have other : b ≠ c := fun same => absent (same ▸ List.mem_cons_self)
    rw [splitOnByte, ih fun member => absent (List.mem_cons_of_mem b member)]
    simp [other]

theorem splitOnByte_append_cons {s : Bytes} (absent : c ∉ s) (t : Bytes) :
    splitOnByte c (s ++ c :: t) = s :: splitOnByte c t := by
  induction s with
  | nil => simp [splitOnByte]
  | cons b s ih =>
    have other : b ≠ c := fun same => absent (same ▸ List.mem_cons_self)
    rw [List.cons_append, splitOnByte, ih fun member => absent (List.mem_cons_of_mem b member)]
    simp [other]

theorem splitOnByte_joinWith {parts : List Bytes} (absent : ∀ p ∈ parts, c ∉ p)
    (nonempty : parts ≠ []) : splitOnByte c (joinWith [c] parts) = parts := by
  induction parts with
  | nil => contradiction
  | cons p more ih =>
    cases more with
    | nil => exact splitOnByte_of_not_mem (absent p List.mem_cons_self)
    | cons q more =>
      have rest := ih (fun r member => absent r (List.mem_cons_of_mem p member))
        (List.cons_ne_nil q more)
      rw [joinWith, List.append_assoc, List.singleton_append,
        splitOnByte_append_cons (absent p List.mem_cons_self), rest]
      exact List.cons_ne_nil q more

end Split

/-! ### Decimal text -/

theorem digitsOf_eq (n : Nat) (acc : Bytes) : digitsOf n acc = ofNat n ++ acc := by
  induction n using Nat.strongRecOn generalizing acc with
  | _ n ih =>
    unfold ofNat
    rw [digitsOf.eq_1 n acc, digitsOf.eq_1 n []]
    split
    · rfl
    · rw [ih (n / 10) (by omega), ih (n / 10) (by omega) [_]]
      simp

theorem ofNat_of_lt {n : Nat} (small : n < 10) : ofNat n = [(48 + n).toUInt8] := by
  rw [ofNat, digitsOf, if_pos small]

theorem ofNat_of_le {n : Nat} (large : 10 ≤ n) :
    ofNat n = ofNat (n / 10) ++ [(48 + n % 10).toUInt8] := by
  rw [ofNat, digitsOf, if_neg (by omega), digitsOf_eq]

theorem digit_facts {d : Nat} (small : d < 10) :
    Octet.isDigit (48 + d).toUInt8 = true ∧ ((48 + d).toUInt8 - 48).toNat = d ∧
      Numeral.digitValue (48 + d).toUInt8 = some d ∧ (48 + d).toUInt8 ≠ 46 := by
  have table : ∀ m : Fin 10, Octet.isDigit (48 + m.val).toUInt8 = true ∧
      ((48 + m.val).toUInt8 - 48).toNat = m.val ∧
      Numeral.digitValue (48 + m.val).toUInt8 = some m.val ∧ (48 + m.val).toUInt8 ≠ 46 := by
    decide
  exact table ⟨d, small⟩

theorem isDigit_of_mem_ofNat {n : Nat} {c : UInt8} (member : c ∈ ofNat n) : Octet.isDigit c = true := by
  induction n using Nat.strongRecOn with
  | _ n ih =>
    by_cases small : n < 10
    · rw [ofNat_of_lt small, List.mem_singleton] at member
      exact member ▸ (digit_facts small).1
    · rw [ofNat_of_le (by omega), List.mem_append, List.mem_singleton] at member
      rcases member with front | last
      · exact ih (n / 10) (by omega) front
      · exact last ▸ (digit_facts (Nat.mod_lt n (by decide))).1

theorem ofNat_ne_nil (n : Nat) : ofNat n ≠ [] := by
  by_cases small : n < 10
  · simp [ofNat_of_lt small]
  · simp [ofNat_of_le (by omega : 10 ≤ n)]

theorem head?_ofNat {n : Nat} (positive : 0 < n) : (ofNat n).head? ≠ some 48 := by
  induction n using Nat.strongRecOn with
  | _ n ih =>
    by_cases small : n < 10
    · rw [ofNat_of_lt small]
      have table : ∀ m : Fin 10, 0 < m.val → [(48 + m.val).toUInt8].head? ≠ some 48 := by decide
      exact table ⟨n, small⟩ positive
    · rw [ofNat_of_le (by omega), List.head?_append]
      obtain ⟨c, rest, split⟩ := List.exists_cons_of_ne_nil (ofNat_ne_nil (n / 10))
      have first := ih (n / 10) (by omega) (by omega)
      rw [split] at first ⊢
      simpa using first

end Bytes

namespace Numeral

theorem readDigits_ofNat {n limit : Nat} (inRange : n ≤ limit) :
    readDigits 10 limit 0 (Bytes.ofNat n) = .ok n := by
  induction n using Nat.strongRecOn with
  | _ n ih =>
    by_cases small : n < 10
    · rw [Bytes.ofNat_of_lt small]
      simp only [readDigits, (Bytes.digit_facts small).2.2.1]
      rw [if_neg (by omega), if_neg (by omega)]
      simp
    · have low := Nat.mod_lt n (show 0 < 10 by decide)
      rw [Bytes.ofNat_of_le (by omega), readDigits_append, ih (n / 10) (by omega) (by omega)]
      simp only [Except.bind, readDigits, (Bytes.digit_facts low).2.2.1]
      rw [if_neg (by omega), if_neg (by omega)]
      have whole : n / 10 * 10 + n % 10 = n := by omega
      simp [whole]

theorem decimal_ofNat {bits n : Nat} (fits : n < Nat.pow 2 bits) :
    decimal bits (Bytes.ofNat n) = .ok n := by
  have nonempty : (Bytes.ofNat n).isEmpty = false := by
    simpa using Bytes.ofNat_ne_nil n
  simp only [decimal, parseUnsigned, nonempty, Bool.false_eq_true, if_false,
    readDigits_ofNat (show n ≤ Nat.pow 2 bits - 1 by omega)]

end Numeral

/-! ### IPv4 addresses -/

namespace IpAddr

theorem decimalValue_ofNat (n : Nat) : decimalValue (Bytes.ofNat n) = n := by
  induction n using Nat.strongRecOn with
  | _ n ih =>
    by_cases small : n < 10
    · simp only [Bytes.ofNat_of_lt small, decimalValue, List.foldl_cons, List.foldl_nil,
        (Bytes.digit_facts small).2.1]
      omega
    · have low := Nat.mod_lt n (show 0 < 10 by decide)
      rw [Bytes.ofNat_of_le (by omega), decimalValue, List.foldl_append, ← decimalValue,
        ih (n / 10) (by omega)]
      simp only [List.foldl_cons, List.foldl_nil, (Bytes.digit_facts low).2.1]
      omega

theorem quadField_ofNat {n : Nat} (small : n ≤ 255) : quadField (Bytes.ofNat n) = some n := by
  have digits : Bytes.isDigits (Bytes.ofNat n) = true := by
    simpa [Bytes.isDigits, Bytes.ofNat_ne_nil] using fun c member => Bytes.isDigit_of_mem_ofNat member
  have noLeadingZero : (decide ((Bytes.ofNat n).length > 1) && (Bytes.ofNat n).head? == some 48) =
      false := by
    by_cases zero : n = 0
    · subst zero
      simp [Bytes.ofNat_of_lt (show 0 < 10 by decide)]
    · simp [Bytes.head?_ofNat (Nat.pos_of_ne_zero zero)]
  simp only [quadField, digits, Bool.not_true, Bool.false_eq_true, if_false, noLeadingZero,
    decimalValue_ofNat]
  rw [if_neg (by omega)]

theorem dot_not_mem_ofNat (n : Nat) : (46 : UInt8) ∉ Bytes.ofNat n := fun member => by
  have digit := Bytes.isDigit_of_mem_ofNat member
  revert digit
  decide

theorem find?_after {p : UInt8 → Bool} {x y : Bytes} {c : UInt8} (none : ∀ b ∈ x, p b = false)
    (found : p c = true) : (x ++ c :: y).find? p = some c := by
  rw [List.find?_append, List.find?_eq_none.2 (by simpa using none)]
  simp [found]

/-- The first of `.`, `:` and `%` in a text, which decides how `read?` reads it. -/
def isFamilyMark (c : UInt8) : Bool := c == 46 || c == 58 || c == 37

theorem digit_not_familyMark {c : UInt8} (digit : Octet.isDigit c = true) : isFamilyMark c = false := by
  have range : 48 ≤ c.toNat ∧ c.toNat ≤ 57 := by
    simpa [Octet.isDigit, UInt8.le_iff_toNat_le] using digit
  simp only [isFamilyMark, Bool.or_eq_false_iff, beq_eq_false_iff_ne, ne_eq, ← UInt8.toNat_inj,
    UInt8.reduceToNat]
  omega

theorem read?_render_v4 (a b c d : UInt8) : read? (render (.v4 a b c d)) = some (.v4 a b c d) := by
  have none : ∀ x ∈ Bytes.ofNat a.toNat, isFamilyMark x = false :=
    fun x member => digit_not_familyMark (Bytes.isDigit_of_mem_ofNat member)
  have dot : (render (.v4 a b c d)).find? (fun c => c == 46 || c == 58 || c == 37) = some 46 := by
    simp only [render, Bytes.joinWith, List.append_assoc, List.singleton_append]
    exact find?_after none rfl
  have split : Bytes.splitOnByte 46 (render (.v4 a b c d)) =
      [Bytes.ofNat a.toNat, Bytes.ofNat b.toNat, Bytes.ofNat c.toNat, Bytes.ofNat d.toNat] := by
    apply Bytes.splitOnByte_joinWith _ (by simp)
    simpa using ⟨dot_not_mem_ofNat _, dot_not_mem_ofNat _, dot_not_mem_ofNat _, dot_not_mem_ofNat _⟩
  have fits : ∀ x : UInt8, x.toNat ≤ 255 := fun x => by have := x.toNat_lt; omega
  simp only [read?, dot, readQuad, split, quadField_ofNat (fits _), Option.map_some]
  simp

/-! ### IPv6 groups -/

theorem hexDigit_facts {d : Nat} (small : d < 16) :
    Octet.isHex (Octet.hexDigitLower d) = true ∧ Octet.hexValue (Octet.hexDigitLower d) = d ∧
      isFamilyMark (Octet.hexDigitLower d) = false := by
  have table : ∀ m : Fin 16, Octet.isHex (Octet.hexDigitLower m) = true ∧
      Octet.hexValue (Octet.hexDigitLower m) = m ∧ isFamilyMark (Octet.hexDigitLower m) = false := by
    decide
  exact table ⟨d, small⟩

theorem hex_of_mem_hexText {n : Nat} {c : UInt8} (member : c ∈ Bytes.hexText n) :
    Octet.isHex c = true ∧ isFamilyMark c = false := by
  obtain ⟨d, small, rfl⟩ := Bytes.mem_hexText member
  exact ⟨(hexDigit_facts small).1, (hexDigit_facts small).2.2⟩

theorem hexValue_hexText (n : Nat) : hexValue (Bytes.hexText n) = n := by
  induction n using Nat.strongRecOn with
  | _ n ih =>
    rw [Bytes.hexText]
    split
    · rename_i small
      simp [hexValue, (hexDigit_facts small).2.1]
    · have low := Nat.mod_lt n (show 0 < 16 by decide)
      rw [hexValue, List.foldl_append, ← hexValue, ih (n / 16) (by omega)]
      simp only [List.foldl_cons, List.foldl_nil, (hexDigit_facts low).2.1]
      omega

theorem length_hexText_le {n k : Nat} (fits : n < Nat.pow 16 k) (positive : 0 < k) :
    (Bytes.hexText n).length ≤ k := by
  change n < 16 ^ k at fits
  induction k generalizing n with
  | zero => omega
  | succ k ih =>
    rw [Bytes.hexText]
    split
    · simp
    · rename_i large
      cases k with
      | zero => simp at fits; omega
      | succ k =>
        have below : n / 16 < 16 ^ (k + 1) := by rw [Nat.pow_succ] at fits; omega
        simpa using ih (by omega) below

/-- What the reader does after a group, given the octets that follow it (a dot apart, which
would start a dotted quad). -/
def afterGroup (t : Bytes) (groups : List Nat) (gap : Option Nat) :
    Option (List Nat × Option Nat) :=
  match t with
  | [] => some (groups, gap)
  | 58 :: 58 :: more =>
    if gap.isSome then none
    else if more.isEmpty then some (groups, some groups.length)
    else if groups.length ≥ 8 then none
    else readGroups more groups (some groups.length)
  | 58 :: rest => if groups.length ≥ 8 then none else readGroups rest groups gap
  | _ => none

theorem readGroups_hexText {g : Nat} {t : Bytes} (groups : List Nat) (gap : Option Nat)
    (small : g < 65536) (stop : ∀ c, t.head? = some c → Octet.isHex c = false)
    (noDot : t.head? ≠ some 46) :
    readGroups (Bytes.hexText g ++ t) groups gap = afterGroup t (groups ++ [g]) gap := by
  have taken : (Bytes.hexText g ++ t).takeWhile Octet.isHex = Bytes.hexText g := by
    rw [List.takeWhile_append_of_pos fun c member => (hex_of_mem_hexText member).1]
    cases t with
    | nil => simp
    | cons c t => simp [stop c rfl]
  have short : (Bytes.hexText g).length ≤ 4 := length_hexText_le (by simpa using small) (by decide)
  have filled : 0 < (Bytes.hexText g).length := List.length_pos_iff.2 (Bytes.hexText_ne_nil g)
  rw [readGroups]
  simp only [taken, List.take_left, hexValue_hexText]
  rw [if_neg (by omega)]
  split <;> rename_i heq <;> rw [taken, List.drop_left] at heq <;> subst heq
  · simp at noDot
  · rfl
  · simp [afterGroup, readGroups]
  · rfl
  · unfold afterGroup
    split <;> simp_all
  · unfold afterGroup
    split <;> simp_all

theorem afterGroup_colon {c : UInt8} (notColon : c ≠ 58) (rest : Bytes) (groups : List Nat)
    (gap : Option Nat) :
    afterGroup (58 :: c :: rest) groups gap =
      if groups.length ≥ 8 then none else readGroups (c :: rest) groups gap := by
  unfold afterGroup
  split <;> simp_all

/-- The groups joined by colons. -/
def joined (gs : List Nat) : Bytes := Bytes.joinWith [58] (gs.map Bytes.hexText)

theorem joined_cons {g : Nat} {gs : List Nat} (more : gs ≠ []) :
    joined (g :: gs) = Bytes.hexText g ++ 58 :: joined gs := by
  obtain ⟨h, hs, rfl⟩ := List.exists_cons_of_ne_nil more
  simp [joined, Bytes.joinWith]

theorem joined_singleton (g : Nat) : joined [g] = Bytes.hexText g := by
  simp [joined, Bytes.joinWith]

theorem head?_joined {gs : List Nat} (nonempty : gs ≠ []) :
    ∃ c rest, joined gs = c :: rest ∧ Octet.isHex c = true ∧ isFamilyMark c = false := by
  obtain ⟨g, gs, rfl⟩ := List.exists_cons_of_ne_nil nonempty
  obtain ⟨c, text, split⟩ := List.exists_cons_of_ne_nil (Bytes.hexText_ne_nil g)
  have first := hex_of_mem_hexText (split ▸ List.mem_cons_self : c ∈ Bytes.hexText g)
  cases gs with
  | nil => exact ⟨c, text, by rw [joined_singleton, split], first⟩
  | cons h hs =>
    exact ⟨c, text ++ 58 :: joined (h :: hs), by rw [joined_cons (List.cons_ne_nil h hs), split]; rfl,
      first⟩

theorem mem_joined {gs : List Nat} {c : UInt8} (member : c ∈ joined gs) :
    c = 58 ∨ (Octet.isHex c = true ∧ isFamilyMark c = false) := by
  induction gs with
  | nil => simp [joined, Bytes.joinWith] at member
  | cons g gs ih =>
    cases gs with
    | nil => exact .inr (hex_of_mem_hexText (by rwa [joined_singleton] at member))
    | cons h hs =>
      rw [joined_cons (List.cons_ne_nil h hs), List.mem_append, List.mem_cons] at member
      rcases member with front | rfl | later
      · exact .inr (hex_of_mem_hexText front)
      · exact .inl rfl
      · exact ih later

theorem readGroups_joined {gs : List Nat} (nonempty : gs ≠ []) (small : ∀ g ∈ gs, g < 65536)
    (t : Bytes) (stop : ∀ c, t.head? = some c → Octet.isHex c = false) (noDot : t.head? ≠ some 46)
    (groups : List Nat) (gap : Option Nat) (room : groups.length + gs.length ≤ 8) :
    readGroups (joined gs ++ t) groups gap = afterGroup t (groups ++ gs) gap := by
  induction gs generalizing groups with
  | nil => contradiction
  | cons g gs ih =>
    cases gs with
    | nil => rw [joined_singleton, readGroups_hexText groups gap (small g List.mem_cons_self) stop noDot]
    | cons h hs =>
      obtain ⟨c, rest, split, hex, -⟩ := head?_joined (List.cons_ne_nil h hs)
      have colon : ∀ b, (58 :: (joined (h :: hs) ++ t)).head? = some b → Octet.isHex b = false := by
        intro b first
        cases first
        decide
      rw [joined_cons (List.cons_ne_nil h hs), List.append_assoc, List.cons_append,
        readGroups_hexText groups gap (small g List.mem_cons_self) colon (by simp)]
      have notColon : c ≠ 58 := fun same => by rw [same] at hex; exact absurd hex (by decide)
      have fits : ¬ (groups ++ [g]).length ≥ 8 := by simp at room ⊢; omega
      rw [split, List.cons_append, afterGroup_colon notColon, if_neg fits, ← List.cons_append,
        ← split, ih (List.cons_ne_nil h hs) (fun x member => small x (List.mem_cons_of_mem g member))
          (groups ++ [g]) (by simp at room ⊢; omega)]
      simp

/-! ### IPv6 addresses -/

/-- The groups the reader takes from the text of an IPv6 address without its zone. -/
def groupsOf (addr : Bytes) : Option (List Nat) :=
  match addr with
  | [58, 58] => some (List.replicate 8 0)
  | 58 :: 58 :: rest => (readGroups rest [] (some 0)).bind expand
  | _ => (readGroups addr [] none).bind expand

theorem readV6_text {addr : Bytes} (noPercent : (37 : UInt8) ∉ addr) (zone : Bytes) :
    readV6 (addr ++ (if zone.isEmpty then [] else 37 :: zone)) =
      (groupsOf addr).map (.v6 · zone) := by
  have kept : ∀ c ∈ addr, (c != 37) = true := fun c member => by
    simpa using fun same : c = 37 => noPercent (same ▸ member)
  have before : (addr ++ (if zone.isEmpty then [] else 37 :: zone)).takeWhile (· != 37) = addr := by
    rw [List.takeWhile_append_of_pos kept]
    cases zone <;> simp
  have after : (addr ++ (if zone.isEmpty then [] else 37 :: zone)).dropWhile (· != 37) =
      (if zone.isEmpty then [] else 37 :: zone) := by
    rw [List.dropWhile_append_of_pos kept]
    cases zone <;> simp
  simp only [readV6]
  rw [before, after]
  cases zone with
  | nil => rfl
  | cons z zs => rfl

theorem groupsOf_gap {rest : Bytes} (nonempty : rest ≠ []) :
    groupsOf (58 :: 58 :: rest) = (readGroups rest [] (some 0)).bind expand := by
  obtain ⟨c, more, rfl⟩ := List.exists_cons_of_ne_nil nonempty
  rfl

theorem groupsOf_hex {c : UInt8} (notColon : c ≠ 58) (rest : Bytes) :
    groupsOf (c :: rest) = (readGroups (c :: rest) [] none).bind expand := by
  unfold groupsOf
  split <;> simp_all

theorem zeroRun_spec {gs : List Nat} {pos len : Nat} (found : zeroRun gs = some (pos, len)) :
    2 ≤ len ∧ gs.drop pos = List.replicate len 0 ++ gs.drop (pos + len) := by
  -- every candidate the scan keeps is a run of zeros of its recorded length
  have kept : ∀ (is : List Nat) (best : Option (Nat × Nat)),
      (∀ p l, best = some (p, l) → 2 ≤ l ∧ ((gs.drop p).takeWhile (· == 0)).length = l) →
      ∀ p l, is.foldl (fun best i =>
          let len := ((gs.drop i).takeWhile (· == 0)).length
          if len ≥ 2 && len > (best.map Prod.snd).getD 0 then some (i, len) else best) best =
        some (p, l) → 2 ≤ l ∧ ((gs.drop p).takeWhile (· == 0)).length = l := by
    intro is
    induction is with
    | nil => exact fun best inv => inv
    | cons i is ih =>
      intro best inv
      apply ih
      intro p l chosen
      simp only at chosen
      split at chosen
      · rename_i better
        cases chosen
        simp only [Bool.and_eq_true, decide_eq_true_eq] at better
        exact ⟨better.1, rfl⟩
      · exact inv p l chosen
  obtain ⟨long, run⟩ := kept _ none (by simp) pos len found
  have zeros : (gs.drop pos).takeWhile (· == 0) = List.replicate len 0 := by
    rw [List.eq_replicate_iff]
    refine ⟨run, fun x member => ?_⟩
    simpa using List.mem_takeWhile_imp member
  have split : gs.drop pos = (gs.drop pos).takeWhile (· == 0) ++ (gs.drop pos).dropWhile (· == 0) :=
    (List.takeWhile_append_dropWhile ..).symm
  rw [zeros] at split
  generalize (gs.drop pos).dropWhile (· == 0) = after at split
  have rest : gs.drop (pos + len) = after := by
    rw [← List.drop_drop, split, List.drop_left' (by simp)]
  rw [rest]
  exact ⟨long, split⟩

/-- The groups of an IPv6 address are eight numbers of 16 bits. -/
def Valid : IpAddr → Prop
  | .v4 .. => True
  | .v6 groups _ => groups.length = 8 ∧ ∀ g ∈ groups, g < 65536

theorem renderGroups_of_none {gs : List Nat} (none : zeroRun gs = none) :
    renderGroups gs = joined gs := by
  simp [renderGroups, none, joined]

theorem renderGroups_of_some {gs : List Nat} {pos len : Nat} (found : zeroRun gs = some (pos, len)) :
    renderGroups gs = joined (gs.take pos) ++ 58 :: 58 :: joined (gs.drop (pos + len)) := by
  simp [renderGroups, found, joined]

theorem groupsOf_renderGroups {gs : List Nat} (eight : gs.length = 8)
    (small : ∀ g ∈ gs, g < 65536) : groupsOf (renderGroups gs) = some gs := by
  cases found : zeroRun gs with
  | none =>
    obtain ⟨c, rest, split, hex, -⟩ := head?_joined (List.ne_nil_of_length_eq_add_one eight)
    have notColon : c ≠ 58 := fun same => by rw [same] at hex; exact absurd hex (by decide)
    have read : readGroups (joined gs) [] none = afterGroup [] ([] ++ gs) none := by
      simpa using readGroups_joined (List.ne_nil_of_length_eq_add_one eight) small []
        (by simp) (by simp) [] none (by simp [eight])
    rw [renderGroups_of_none found, split, groupsOf_hex notColon, ← split, read]
    simp [afterGroup, expand, eight]
  | some run =>
    obtain ⟨pos, len⟩ := run
    obtain ⟨long, zeros⟩ := zeroRun_spec found
    rw [renderGroups_of_some found]
    have whole : gs = gs.take pos ++ (List.replicate len 0 ++ gs.drop (pos + len)) := by
      rw [← zeros, List.take_append_drop]
    have counted := congrArg List.length whole
    have smallBefore : ∀ g ∈ gs.take pos, g < 65536 :=
      fun g member => small g (List.mem_of_mem_take member)
    have smallAfter : ∀ g ∈ gs.drop (pos + len), g < 65536 :=
      fun g member => small g (List.mem_of_mem_drop member)
    generalize gs.take pos = before at whole counted smallBefore
    generalize gs.drop (pos + len) = after at whole counted smallAfter
    simp only [eight, List.length_append, List.length_replicate] at counted
    have gapLen : len = 8 - (before.length + after.length) := by omega
    have room : before.length + after.length ≤ 6 := by omega
    subst whole gapLen
    cases before with
    | nil =>
      cases after with
      | nil => rfl
      | cons a as =>
        obtain ⟨c, rest, split, -⟩ := head?_joined (List.cons_ne_nil a as)
        have read := readGroups_joined (List.cons_ne_nil a as) smallAfter [] (by simp)
          (by simp) [] (some 0) (by simp at room ⊢; omega)
        rw [List.append_nil] at read
        rw [show joined [] = [] from rfl, List.nil_append, groupsOf_gap (by simp [split]), read]
        simp only [afterGroup, List.nil_append, Option.bind_some, expand]
        rw [if_pos (by simp at room ⊢; omega)]
        simp
    | cons b bs =>
      obtain ⟨c, rest, split, hex, -⟩ := head?_joined (List.cons_ne_nil b bs)
      have notColon : c ≠ 58 := fun same => by rw [same] at hex; exact absurd hex (by decide)
      have front := readGroups_joined (List.cons_ne_nil b bs) smallBefore
        (58 :: 58 :: joined after) (by intro x first; cases first; decide) (by simp) [] none
        (by simp at room ⊢; omega)
      rw [split, List.cons_append, groupsOf_hex notColon, ← List.cons_append, ← split, front]
      cases after with
      | nil =>
        simp only [afterGroup, Option.isSome_none, Bool.false_eq_true, if_false,
          show joined [] = [] from rfl, List.isEmpty_nil, if_true, Option.bind_some, expand]
        rw [if_pos (by simp at room ⊢; omega)]
        simp
      | cons a as =>
        obtain ⟨d, more, splitAfter, -⟩ := head?_joined (List.cons_ne_nil a as)
        have back := readGroups_joined (List.cons_ne_nil a as) smallAfter [] (by simp)
          (by simp) (b :: bs) (some (b :: bs).length) (by simp at room ⊢; omega)
        rw [List.append_nil] at back
        simp only [afterGroup, Option.isSome_none, Bool.false_eq_true, if_false, List.nil_append,
          splitAfter, List.isEmpty_cons]
        rw [if_neg (by simp at room ⊢; omega), ← splitAfter, back]
        simp only [afterGroup, Option.bind_some, expand]
        rw [if_pos (by simp at room ⊢; omega)]
        simp only [List.length_cons, List.length_append, List.take_left', List.drop_left',
          List.append_assoc]

theorem mem_renderGroups {gs : List Nat} {c : UInt8} (member : c ∈ renderGroups gs) :
    c = 58 ∨ (Octet.isHex c = true ∧ isFamilyMark c = false) := by
  cases found : zeroRun gs with
  | none =>
    rw [renderGroups_of_none found] at member
    exact mem_joined member
  | some run =>
    rw [renderGroups_of_some found, List.mem_append, List.mem_cons, List.mem_cons] at member
    rcases member with front | rfl | rfl | back
    · exact mem_joined front
    · exact .inl rfl
    · exact .inl rfl
    · exact mem_joined back

theorem colon_mem_renderGroups {gs : List Nat} (eight : gs.length = 8) : 58 ∈ renderGroups gs := by
  cases found : zeroRun gs with
  | none =>
    rcases gs with _ | ⟨g, _ | ⟨h, rest⟩⟩
    · cases eight
    · cases eight
    · rw [renderGroups_of_none found, joined_cons (List.cons_ne_nil h rest)]
      simp
  | some run => simp [renderGroups_of_some found]

theorem find?_renderGroups {gs : List Nat} (eight : gs.length = 8) (t : Bytes) :
    (renderGroups gs ++ t).find? isFamilyMark = some 58 := by
  obtain ⟨c, found⟩ : ∃ c, (renderGroups gs).find? isFamilyMark = some c :=
    Option.isSome_iff_exists.1 (List.find?_isSome.2 ⟨58, colon_mem_renderGroups eight, rfl⟩)
  have colon : c = 58 := by
    rcases mem_renderGroups (List.mem_of_find?_eq_some found) with same | ⟨-, none⟩
    · exact same
    · have mark := List.find?_some found
      rw [none] at mark
      cases mark
  rw [List.find?_append, found, colon]
  rfl

theorem read?_render_v6 {gs : List Nat} (eight : gs.length = 8) (small : ∀ g ∈ gs, g < 65536)
    (zone : Bytes) : read? (render (.v6 gs zone)) = some (.v6 gs zone) := by
  have noPercent : (37 : UInt8) ∉ renderGroups gs := fun member => by
    rcases mem_renderGroups member with same | ⟨-, mark⟩
    · cases same
    · cases mark
  have family := find?_renderGroups eight (if zone.isEmpty then [] else 37 :: zone)
  unfold read?
  simp only [render]
  rw [show (fun c => c == 46 || c == 58 || c == 37) = isFamilyMark from rfl, family]
  simp only
  rw [readV6_text noPercent, groupsOf_renderGroups eight small]
  rfl

/-- Every address whose groups are in range is read back from its text. -/
theorem read?_render {a : IpAddr} (valid : a.Valid) : read? a.render = some a := by
  cases a with
  | v4 a b c d => exact read?_render_v4 a b c d
  | v6 gs zone => exact read?_render_v6 valid.1 valid.2 zone

/-! ### Addresses the reader gives -/

theorem readV6_eq (t : Bytes) :
    readV6 t = if t.dropWhile (· != 37) = [37] then none
      else (groupsOf (t.takeWhile (· != 37))).map (.v6 · ((t.dropWhile (· != 37)).drop 1)) := by
  unfold readV6
  simp only
  split
  · rename_i percent
    rw [if_pos percent]
  · rename_i notPercent
    rw [if_neg (by simpa using notPercent)]
    rfl

theorem quadField_le {ds : Bytes} {v : Nat} (read : quadField ds = some v) : v ≤ 255 := by
  unfold quadField at read
  dsimp only at read
  split at read
  · cases read
  · split at read
    · cases read
    · split at read
      · cases read
      · rename_i small
        cases read
        omega

theorem readQuad_le {s : Bytes} {a b c d : Nat} (read : readQuad s = some (a, b, c, d)) :
    a ≤ 255 ∧ b ≤ 255 ∧ c ≤ 255 ∧ d ≤ 255 := by
  unfold readQuad at read
  split at read
  · split at read
    · rename_i fa fb fc fd
      cases read
      exact ⟨quadField_le fa, quadField_le fb, quadField_le fc, quadField_le fd⟩
    · cases read
  · cases read


theorem hexDigitValue_lt (c : UInt8) : Octet.hexValue c < 16 := by
  have range := c.toNat_lt
  unfold Octet.hexValue Octet.isDigit
  split
  · rename_i digit
    simp only [Bool.and_eq_true, decide_eq_true_eq, UInt8.le_iff_toNat_le, UInt8.reduceToNat] at digit
    rw [UInt8.toNat_sub_of_le _ _ (by simp only [UInt8.le_iff_toNat_le, UInt8.reduceToNat]; omega)]
    simp only [UInt8.reduceToNat]
    omega
  · split
    · rename_i upper
      simp only [Bool.and_eq_true, decide_eq_true_eq, UInt8.le_iff_toNat_le, UInt8.reduceToNat] at upper
      rw [UInt8.toNat_sub_of_le _ _ (by simp only [UInt8.le_iff_toNat_le, UInt8.reduceToNat]; omega)]
      simp only [UInt8.reduceToNat]
      omega
    · split
      · rename_i lower
        simp only [Bool.and_eq_true, decide_eq_true_eq, UInt8.le_iff_toNat_le, UInt8.reduceToNat] at lower
        rw [UInt8.toNat_sub_of_le _ _ (by simp only [UInt8.le_iff_toNat_le, UInt8.reduceToNat]; omega)]
        simp only [UInt8.reduceToNat]
        omega
      · decide

theorem hexValue_lt (ds : Bytes) : hexValue ds < Nat.pow 16 ds.length := by
  show hexValue ds < 16 ^ ds.length
  suffices bound : ∀ acc, ds.foldl (fun acc c => acc * 16 + Octet.hexValue c) acc <
      (acc + 1) * 16 ^ ds.length by
    unfold hexValue
    simpa using bound 0
  induction ds with
  | nil => intro acc; simp
  | cons c ds ih =>
    intro acc
    have digit := hexDigitValue_lt c
    calc ds.foldl (fun acc c => acc * 16 + Octet.hexValue c) (acc * 16 + Octet.hexValue c)
        < (acc * 16 + Octet.hexValue c + 1) * 16 ^ ds.length := ih _
      _ ≤ (acc + 1) * 16 * 16 ^ ds.length := Nat.mul_le_mul_right _ (by omega)
      _ = (acc + 1) * 16 ^ (c :: ds).length := by
        rw [List.length_cons, Nat.pow_succ, Nat.mul_assoc, Nat.mul_comm 16]

theorem hexValue_take_lt {s : Bytes} {n : Nat} (short : n ≤ 4) : hexValue (s.take n) < 65536 :=
  calc hexValue (s.take n) < 16 ^ (s.take n).length := hexValue_lt _
    _ ≤ 16 ^ 4 := Nat.pow_le_pow_right (by decide) (by simp; omega)
    _ = 65536 := rfl

theorem readGroups_small {s : Bytes} {groups : List Nat} {gap : Option Nat} {gs : List Nat}
    {gap' : Option Nat} (small : ∀ g ∈ groups, g < 65536)
    (read : readGroups s groups gap = some (gs, gap')) : ∀ g ∈ gs, g < 65536 := by
  have step : ∀ {s : Bytes} {groups : List Nat}, (∀ g ∈ groups, g < 65536) →
      ¬((s.takeWhile Octet.isHex).length = 0 ∨ (s.takeWhile Octet.isHex).length > 4) →
      ∀ g ∈ groups ++ [hexValue (s.take (s.takeWhile Octet.isHex).length)], g < 65536 := by
    intro s groups small bounded g member
    rw [List.mem_append, List.mem_singleton] at member
    rcases member with old | rfl
    · exact small g old
    · exact hexValue_take_lt (by omega)
  revert read
  fun_induction readGroups s groups gap
  all_goals intro read
  all_goals try (cases read; done)
  case case3 a b c d quad =>
    cases read
    obtain ⟨ha, hb, hc, hd⟩ := readQuad_le quad
    intro g member
    rw [List.mem_append] at member
    rcases member with old | last
    · exact small g old
    · simp only [List.mem_cons, List.not_mem_nil, or_false] at last
      omega
  case case5 bounded _ =>
    cases read
    exact step small bounded
  case case8 bounded _ _ _ _ _ =>
    simp only [Option.some.injEq, Prod.mk.injEq] at read
    rw [← read.1]
    exact step small bounded
  case case10 bounded _ _ _ _ _ _ ih =>
    exact ih (step small bounded) read
  case case12 bounded _ _ _ _ _ _ ih =>
    exact ih (step small bounded) read

theorem expand_spec {groups : List Nat} {gap : Option Nat} {gs : List Nat}
    (filled : expand (groups, gap) = some gs) : gs.length = 8 ∧ ∀ g ∈ gs, g ∈ groups ∨ g = 0 := by
  cases gap with
  | none =>
    simp only [expand] at filled
    split at filled
    · rename_i eight
      cases filled
      exact ⟨eight, fun g member => .inl member⟩
    · cases filled
  | some pos =>
    simp only [expand] at filled
    split at filled
    · rename_i short
      cases filled
      refine ⟨by simp; omega, fun g member => ?_⟩
      simp only [List.mem_append, List.mem_replicate] at member
      rcases member with (front | ⟨-, zero⟩) | back
      · exact .inl (List.mem_of_mem_take front)
      · exact .inr zero
      · exact .inl (List.mem_of_mem_drop back)
    · cases filled

theorem groupsOf_valid {addr : Bytes} {gs : List Nat} (read : groupsOf addr = some gs) :
    gs.length = 8 ∧ ∀ g ∈ gs, g < 65536 := by
  have expanded : ∀ {s : Bytes} {gap : Option Nat},
      (readGroups s [] gap).bind expand = some gs → gs.length = 8 ∧ ∀ g ∈ gs, g < 65536 := by
    intro s gap found
    obtain ⟨⟨groups, gap'⟩, read, filled⟩ := Option.bind_eq_some_iff.1 found
    obtain ⟨eight, from_read⟩ := expand_spec filled
    have small := readGroups_small (by simp) read
    refine ⟨eight, fun g member => ?_⟩
    rcases from_read g member with old | rfl
    · exact small g old
    · decide
  unfold groupsOf at read
  split at read
  · cases read
    exact ⟨rfl, by simp⟩
  · exact expanded read
  · exact expanded read

/-- Every address the reader gives has its groups in range. -/
theorem read?_valid {t : Bytes} {a : IpAddr} (read : read? t = some a) : a.Valid := by
  unfold read? at read
  split at read
  · obtain ⟨quad, -, rfl⟩ := Option.map_eq_some_iff.1 read
    trivial
  · rw [readV6_eq] at read
    split at read
    · cases read
    · obtain ⟨gs, found, rfl⟩ := Option.map_eq_some_iff.1 read
      exact groupsOf_valid found
  · cases read

theorem read?_zone {t : Bytes} {gs : List Nat} {zone : Bytes} (read : read? t = some (.v6 gs zone))
    (noPercent : (37 : UInt8) ∉ t) : zone = [] := by
  have kept : ∀ c ∈ t, (c != 37) = true := fun c member => by
    simpa using fun same : c = 37 => noPercent (same ▸ member)
  unfold read? at read
  split at read
  · obtain ⟨quad, -, found⟩ := Option.map_eq_some_iff.1 read
    cases found
  · rw [readV6_eq, List.dropWhile_eq_nil_iff.2 kept] at read
    obtain ⟨gs, -, found⟩ := Option.map_eq_some_iff.1 read
    cases found
    rfl
  · cases read

theorem unmap_cases (a : IpAddr) : unmap a = a ∨ ∃ w x y z, unmap a = .v4 w x y z := by
  unfold unmap
  split
  · exact .inr ⟨_, _, _, _, rfl⟩
  · exact .inl rfl

theorem unmap_unmap (a : IpAddr) : unmap (unmap a) = unmap a := by
  rcases unmap_cases a with same | ⟨w, x, y, z, quad⟩
  · rw [same, same]
  · rw [quad]
    rfl

theorem unmap_valid {a : IpAddr} (valid : a.Valid) : (unmap a).Valid := by
  unfold unmap
  split
  · trivial
  · exact valid

end IpAddr

end SipCodec
