import SipCodec.Proofs.Text.QuotedString

/-! The quoting law: the output of `quote` is read whole exactly when every octet of the text may
stand between quotes as it is. -/

namespace SipCodec.Lexical

/-- DEL, or an octet below 0x20 other than HTAB. -/
def Control (c : UInt8) : Prop := c = 0x7F ∨ (c < 0x20 ∧ c ≠ 9)

theorem plain_of_not_control {c : UInt8} (low : c ≤ 0x7F) (harmless : ¬Control c) : Plain c := by
  simp only [Control, Plain, not_or, not_and, ne_eq, UInt8.le_iff_toNat_le,
    UInt8.lt_iff_toNat_lt, ← UInt8.toNat_inj, UInt8.reduceToNat] at harmless low ⊢
  omega

/-! ### Octets that stand between quotes as they are -/

/-- Octet `i` of `s` may stand between quotes as it is: it is a blank or printable ASCII, it is
the CR or the LF of a line break followed by a blank, or it belongs to a UTF-8 character of two
octets or more. -/
def BareAt (s : Bytes) (i : Nat) : Prop :=
  (∃ c, s[i]? = some c ∧ Plain c) ∨
  (∃ j w, j ≤ i ∧ i ≤ j + 1 ∧ Octet.isWsp w = true ∧ [13, 10, w] <+: s.drop j) ∨
  (∃ j u, j ≤ i ∧ i < j + u.length ∧ Utf8.Wide u ∧ u <+: s.drop j)

/-- Every octet of `s` may stand between quotes as it is. -/
def Bare (s : Bytes) : Prop := ∀ i < s.length, BareAt s i

/-- A piece of text that stands between quotes as it is: a blank or printable ASCII octet, a
line break folded onto a blank, or a UTF-8 character of two octets or more. -/
inductive Glyph : Bytes → Prop where
  | plain {c : UInt8} : Plain c → Glyph [c]
  | fold {w : UInt8} : Octet.isWsp w = true → Glyph [13, 10, w]
  | wide {u : Bytes} : Utf8.Wide u → Glyph u

theorem Glyph.length_pos {g : Bytes} (glyph : Glyph g) : 0 < g.length := by
  cases glyph with
  | wide wide => exact wide.length_pos
  | _ => simp

theorem plain_of_isWsp {w : UInt8} (blank : Octet.isWsp w = true) : Plain w := by
  rcases isWsp_cases blank with rfl | rfl
  · exact .inl rfl
  · exact .inr (.inl rfl)

theorem BareAt.shift {s : Bytes} {i : Nat} (bare : BareAt s i) (p : Bytes) :
    BareAt (p ++ s) (p.length + i) := by
  rcases bare with ⟨c, get, plain⟩ | ⟨j, w, le, near, blank, front⟩ |
    ⟨j, u, le, within, wide, front⟩
  · refine .inl ⟨c, ?_, plain⟩
    rw [List.getElem?_append_right (by omega), Nat.add_sub_cancel_left]
    exact get
  · exact .inr (.inl ⟨p.length + j, w, by omega, by omega, blank,
      by rwa [List.drop_length_add_append]⟩)
  · exact .inr (.inr ⟨p.length + j, u, by omega, by omega, wide,
      by rwa [List.drop_length_add_append]⟩)

theorem BareAt.unshift {p s : Bytes} {i : Nat} (bare : BareAt (p ++ s) (p.length + i))
    (folds : ∀ j w, j < p.length → [13, 10, w] <+: (p ++ s).drop j → j + 2 ≤ p.length)
    (wides : ∀ j u, j < p.length → Utf8.Wide u → u <+: (p ++ s).drop j →
      j + u.length ≤ p.length) :
    BareAt s i := by
  rcases bare with ⟨c, get, plain⟩ | ⟨j, w, le, near, blank, front⟩ |
    ⟨j, u, le, within, wide, front⟩
  · refine .inl ⟨c, ?_, plain⟩
    rwa [List.getElem?_append_right (by omega), Nat.add_sub_cancel_left] at get
  · by_cases inside : j < p.length
    · have := folds j w inside front
      omega
    · obtain ⟨k, rfl⟩ := Nat.exists_eq_add_of_le (Nat.le_of_not_lt inside)
      rw [List.drop_length_add_append] at front
      exact .inr (.inl ⟨k, w, by omega, by omega, blank, front⟩)
  · by_cases inside : j < p.length
    · have := wides j u inside wide front
      omega
    · obtain ⟨k, rfl⟩ := Nat.exists_eq_add_of_le (Nat.le_of_not_lt inside)
      rw [List.drop_length_add_append] at front
      exact .inr (.inr ⟨k, u, by omega, by omega, wide, front⟩)

theorem getElem?_of_front {s v : Bytes} {i j : Nat} (front : v <+: s.drop j) (after : j ≤ i)
    (within : i < j + v.length) : s[i]? = v[i - j]? := by
  obtain ⟨t, eq⟩ := front
  have inside : s[i]? = (s.drop j)[i - j]? := by
    rw [List.getElem?_drop, Nat.add_sub_cancel' after]
  rw [inside, ← eq, List.getElem?_append_left (by omega)]

theorem get_of_front {p s v : Bytes} {a : UInt8} {j : Nat} (inside : j < p.length)
    (front : a :: v <+: (p ++ s).drop j) : p[j]? = some a := by
  have get := getElem?_of_front front (Nat.le_refl j) (by simp)
  rwa [List.getElem?_append_left inside, Nat.sub_self, List.getElem?_cons_zero] at get

theorem Glyph.bareAt {g : Bytes} (glyph : Glyph g) (s : Bytes) :
    ∀ i < g.length, BareAt (g ++ s) i := by
  intro i inside
  cases glyph with
  | plain plain =>
    obtain rfl : i = 0 := by simpa using inside
    exact .inl ⟨_, rfl, plain⟩
  | fold blank =>
    by_cases lineBreak : i ≤ 1
    · exact .inr (.inl ⟨0, _, Nat.zero_le i, lineBreak, blank, List.prefix_append _ _⟩)
    · obtain rfl : i = 2 := by simp at inside; omega
      exact .inl ⟨_, rfl, plain_of_isWsp blank⟩
  | wide wide => exact .inr (.inr ⟨0, g, Nat.zero_le i, by omega, wide, List.prefix_append _ _⟩)

theorem Glyph.fold_ends {g : Bytes} (glyph : Glyph g) {j : Nat} (get : g[j]? = some 13) :
    j + 2 ≤ g.length := by
  cases glyph with
  | plain plain =>
    rcases j with _ | j
    · simp only [List.getElem?_cons_zero, Option.some.injEq] at get
      subst get
      simp [Plain] at plain
    · simp at get
  | @fold w blank =>
    rcases j with _ | _ | _ | j
    · simp
    · simp at get
    · simp only [List.getElem?_cons_succ, List.getElem?_cons_zero, Option.some.injEq] at get
      rcases isWsp_cases blank with rfl | rfl <;> simp at get
    · simp at get
  | wide wide => exact absurd (List.mem_of_getElem? get) (wide.ascii_free (by decide))

theorem Glyph.lead_first {g : Bytes} (glyph : Glyph g) {j : Nat} {a : UInt8}
    (get : g[j]? = some a) (lead : 0xC2 ≤ a) : j = 0 ∧ Utf8.Wide g := by
  have member := List.mem_of_getElem? get
  cases glyph with
  | plain plain =>
    obtain rfl := List.mem_singleton.1 member
    simp only [Plain, UInt8.le_iff_toNat_le, ← UInt8.toNat_inj, UInt8.reduceToNat] at plain lead
    omega
  | @fold w blank =>
    simp only [List.mem_cons, List.not_mem_nil, or_false] at member
    rcases isWsp_cases blank with rfl | rfl <;> rcases member with rfl | rfl | rfl <;> simp at lead
  | wide wide =>
    refine ⟨?_, wide⟩
    rcases g with _ | ⟨b, rest⟩
    · cases wide
    rcases j with _ | j
    · rfl
    rw [List.getElem?_cons_succ] at get
    have tail := wide.lead.2 a (List.mem_of_getElem? get)
    simp only [Utf8.Tail, UInt8.le_iff_toNat_le, UInt8.reduceToNat] at tail lead
    omega

theorem Glyph.closed {g s : Bytes} (glyph : Glyph g) :
    (∀ j w, j < g.length → [13, 10, w] <+: (g ++ s).drop j → j + 2 ≤ g.length) ∧
    (∀ j u, j < g.length → Utf8.Wide u → u <+: (g ++ s).drop j → j + u.length ≤ g.length) := by
  refine ⟨fun j w inside front => glyph.fold_ends (get_of_front inside front), ?_⟩
  intro j u inside wide front
  rcases u with _ | ⟨a, t⟩
  · cases wide
  obtain ⟨rfl, whole⟩ := glyph.lead_first (get_of_front inside front) wide.lead.1
  rw [List.drop_zero] at front
  rw [Utf8.Wide.eq_of_prefix wide whole front (List.prefix_append g s)]
  omega

theorem bare_flatten {gs : List Bytes} (glyphs : ∀ g ∈ gs, Glyph g) : Bare gs.flatten := by
  induction gs with
  | nil => simp [Bare]
  | cons g gs ih =>
    intro i lt
    have glyph := glyphs g List.mem_cons_self
    have later := ih fun h member => glyphs h (List.mem_cons_of_mem g member)
    rw [List.flatten_cons] at lt ⊢
    by_cases inside : i < g.length
    · exact glyph.bareAt _ i inside
    · rw [List.length_append] at lt
      have shifted := (later (i - g.length) (by omega)).shift g
      rwa [Nat.add_sub_cancel' (by omega)] at shifted

theorem BareAt.opens {c : UInt8} {rest : Bytes} (bare : BareAt (c :: rest) 0) :
    ∃ g after, Glyph g ∧ c :: rest = g ++ after := by
  rcases bare with ⟨d, get, plain⟩ | ⟨j, w, le, -, blank, front⟩ | ⟨j, u, le, -, wide, front⟩
  · simp only [List.getElem?_cons_zero, Option.some.injEq] at get
    subst get
    exact ⟨[c], rest, .plain plain, rfl⟩
  · obtain rfl : j = 0 := by omega
    obtain ⟨after, eq⟩ := front
    exact ⟨[13, 10, w], after, .fold blank, eq.symm⟩
  · obtain rfl : j = 0 := by omega
    obtain ⟨after, eq⟩ := front
    exact ⟨u, after, .wide wide, eq.symm⟩

theorem Bare.glyphs {s : Bytes} (bare : Bare s) :
    ∃ gs : List Bytes, (∀ g ∈ gs, Glyph g) ∧ gs.flatten = s := by
  -- induction on the length of the text, one glyph at a time
  induction size : s.length using Nat.strongRecOn generalizing s with
  | _ k ih =>
  rcases s with _ | ⟨c, rest⟩
  · exact ⟨[], by simp, rfl⟩
  obtain ⟨g, after, glyph, front⟩ := (bare 0 (by simp)).opens
  rw [front] at bare size
  have later : Bare after := by
    intro i lt
    obtain ⟨folds, wides⟩ := glyph.closed (s := after)
    exact (bare (g.length + i) (by simp; omega)).unshift folds wides
  have shorter : after.length < k := by
    have := glyph.length_pos
    simp at size
    omega
  obtain ⟨gs, glyphs, flat⟩ := ih after.length shorter later rfl
  refine ⟨g :: gs, ?_, by rw [List.flatten_cons, flat, front]⟩
  intro h member
  rcases List.mem_cons.1 member with rfl | other
  · exact glyph
  · exact glyphs h other

theorem bare_iff_glyphs {s : Bytes} :
    Bare s ↔ ∃ gs : List Bytes, (∀ g ∈ gs, Glyph g) ∧ gs.flatten = s :=
  ⟨Bare.glyphs, fun ⟨_, glyphs, flat⟩ => flat ▸ bare_flatten glyphs⟩

/-! ### Quoting -/

/-- The text that `quote` writes between the quotes: a backslash before every quote and
backslash. -/
def escaped (s : Bytes) : Bytes := s.flatMap fun c => if c == 34 || c == 92 then [92, c] else [c]

theorem quote_eq_escaped (s : Bytes) : quote s = 34 :: (escaped s ++ [34]) := quote_eq_wrap s

theorem escaped_flatten (gs : List Bytes) : escaped gs.flatten = (gs.map escaped).flatten := by
  induction gs with
  | nil => rfl
  | cons g gs ih => simp only [List.flatten_cons, escaped, List.flatMap_append, List.map_cons] at ih ⊢; rw [ih]

theorem escaped_of_plain {u : Bytes} (plain : ∀ c ∈ u, c ≠ 34 ∧ c ≠ 92) : escaped u = u := by
  induction u with
  | nil => rfl
  | cons c u ih =>
    obtain ⟨quoteMark, backslash⟩ := plain c List.mem_cons_self
    have rest := ih fun d member => plain d (List.mem_cons_of_mem c member)
    simp only [escaped, List.flatMap_cons] at rest ⊢
    rw [rest, if_neg (by simp [quoteMark, backslash])]
    rfl

theorem Glyph.escaped_qchar {g : Bytes} (glyph : Glyph g) : Qchar (escaped g) := by
  cases glyph with
  | @plain c plain =>
    by_cases special : c = 34 ∨ c = 92
    · have pair : escaped [c] = [92, c] := by
        simp [escaped, special]
      rw [pair]
      rcases special with rfl | rfl <;> exact .pair (by decide) (by decide) (by decide)
    · simp only [not_or] at special
      have single : escaped [c] = [c] := by
        simp [escaped, special.1, special.2]
      rw [single]
      exact .text plain special.1 special.2
  | @fold w blank =>
    rw [escaped_of_plain (by rcases isWsp_cases blank with rfl | rfl <;> simp)]
    exact .fold blank
  | wide wide =>
    rw [escaped_of_plain fun c member => by
      constructor <;> (rintro rfl; exact wide.ascii_free (by decide) member)]
    exact .wide wide

theorem escaped_eq_append {u s r : Bytes} (plain : ∀ c ∈ u, c ≠ 92) (written : escaped s = u ++ r) :
    ∃ s', s = u ++ s' ∧ escaped s' = r := by
  induction u generalizing s with
  | nil => exact ⟨s, rfl, written⟩
  | cons c u ih =>
    rcases s with _ | ⟨x, s⟩
    · simp [escaped] at written
    have backslash : c ≠ 92 := plain c List.mem_cons_self
    simp only [escaped, List.flatMap_cons, List.cons_append] at written
    by_cases special : (x == 34 || x == 92) = true
    · rw [if_pos special] at written
      simp only [List.cons_append, List.nil_append, List.cons.injEq] at written
      exact absurd written.1.symm backslash
    · rw [if_neg special] at written
      simp only [List.cons_append, List.nil_append, List.cons.injEq] at written
      obtain ⟨rfl, rest⟩ := written
      obtain ⟨s', rfl, written⟩ := ih (fun d member => plain d (List.mem_cons_of_mem x member)) rest
      exact ⟨s', rfl, written⟩

theorem escaped_eq_pair {c : UInt8} {s r : Bytes} (written : escaped s = 92 :: c :: r) :
    ∃ s', s = c :: s' ∧ (c = 34 ∨ c = 92) ∧ escaped s' = r := by
  rcases s with _ | ⟨x, s⟩
  · simp [escaped] at written
  simp only [escaped, List.flatMap_cons] at written
  by_cases special : (x == 34 || x == 92) = true
  · rw [if_pos special] at written
    simp only [List.cons_append, List.nil_append, List.cons.injEq] at written
    obtain ⟨-, rfl, rest⟩ := written
    exact ⟨s, rfl, by simpa using special, rest⟩
  · rw [if_neg special] at written
    simp only [List.cons_append, List.nil_append, List.cons.injEq] at written
    obtain ⟨rfl, -⟩ := written
    simp at special

theorem Qchar.glyph_of_ne_pair {u : Bytes} (char : Qchar u) (single : ∀ c, u ≠ [92, c]) :
    Glyph u := by
  cases char with
  | text plain _ _ => exact .plain plain
  | @pair c _ _ _ => exact absurd rfl (single c)
  | fold blank => exact .fold blank
  | wide wide => exact .wide wide

theorem escaped_eq_nil {s : Bytes} (written : escaped s = []) : s = [] := by
  rcases s with _ | ⟨x, s⟩
  · rfl
  · simp only [escaped, List.flatMap_cons, List.append_eq_nil_iff] at written
    split at written <;> simp at written

theorem glyphs_of_escaped {us : List Bytes} (chars : ∀ u ∈ us, Qchar u) {s : Bytes}
    (written : us.flatten = escaped s) : ∃ gs : List Bytes, (∀ g ∈ gs, Glyph g) ∧ gs.flatten = s := by
  induction us generalizing s with
  | nil => exact ⟨[], by simp, (escaped_eq_nil written.symm).symm⟩
  | cons u us ih =>
    have char := chars u List.mem_cons_self
    rw [List.flatten_cons] at written
    obtain ⟨g, s', glyph, rfl, rest⟩ :
        ∃ g s', Glyph g ∧ s = g ++ s' ∧ escaped s' = us.flatten := by
      by_cases pair : ∃ c, u = [92, c]
      · obtain ⟨c, rfl⟩ := pair
        obtain ⟨s', rfl, special, rest⟩ := escaped_eq_pair written.symm
        refine ⟨[c], s', .plain (.inr (.inr ?_)), rfl, rest⟩
        rcases special with rfl | rfl <;> decide
      · have single : ∀ c, u ≠ [92, c] := fun c same => pair ⟨c, same⟩
        obtain ⟨s', rfl, rest⟩ := escaped_eq_append (char.backslash_free single) written.symm
        exact ⟨u, s', char.glyph_of_ne_pair single, rfl, rest⟩
    obtain ⟨gs, glyphs, rfl⟩ := ih (fun v member => chars v (List.mem_cons_of_mem u member))
      rest.symm
    refine ⟨g :: gs, ?_, rfl⟩
    intro h member
    rcases List.mem_cons.1 member with rfl | other
    · exact glyph
    · exact glyphs h other

theorem quotedStringLen_quote_append {s : Bytes} (bare : Bare s) (t : Bytes) :
    quotedStringLen (quote s ++ t) = (quote s).length := by
  obtain ⟨gs, glyphs, rfl⟩ := bare.glyphs
  have chars : ∀ u ∈ gs.map escaped, Qchar u := by
    intro u member
    obtain ⟨g, listed, rfl⟩ := List.mem_map.1 member
    exact (glyphs g listed).escaped_qchar
  rw [quote_eq_escaped, escaped_flatten, List.cons_append, List.append_assoc, List.singleton_append,
    quotedStringLen_chars chars]
  simp

theorem Quotable.bare {s : Bytes} (quotable : Quotable s) : Bare s := by
  obtain ⟨us, chars, written⟩ := isQuoted_iff_chars.1 quotable
  rw [quote_eq_escaped] at written
  simp only [List.cons.injEq, true_and] at written
  obtain ⟨gs, glyphs, rfl⟩ := glyphs_of_escaped chars (List.append_cancel_right written).symm
  exact bare_flatten glyphs

theorem quotable_of_whole {s : Bytes} (whole : quotedStringLen (quote s) = (quote s).length) :
    Quotable s := by
  have long : (quote s).length > 1 := by simp [quote_eq_escaped]
  simp only [Quotable, isQuoted, whole, beq_self_eq_true, Bool.and_true, decide_eq_true_eq]
  exact long

/-- Quoting writes a quoted string exactly for the bare texts. -/
theorem quotable_iff_bare {s : Bytes} : Quotable s ↔ Bare s := by
  refine ⟨Quotable.bare, fun bare => quotable_of_whole ?_⟩
  simpa using quotedStringLen_quote_append bare []

theorem quotedStringLen_quote_append_iff {s : Bytes} :
    (∀ t, quotedStringLen (quote s ++ t) = (quote s).length) ↔ Bare s := by
  refine ⟨fun whole => Quotable.bare (quotable_of_whole ?_), quotedStringLen_quote_append⟩
  simpa using whole []

/-! ### Unquoting -/

theorem Qchar.glyph_unpair {u : Bytes} (char : Qchar u) (escapes : ∀ c, u = [92, c] → ¬Control c) :
    Glyph (unpair u) := by
  by_cases pair : ∃ c, u = [92, c]
  · obtain ⟨c, rfl⟩ := pair
    show Glyph [c]
    exact .plain (plain_of_not_control char.pair_facts.1 (escapes c rfl))
  · have single : ∀ c, u ≠ [92, c] := fun c same => pair ⟨c, same⟩
    rw [unpair_of_plain (char.backslash_free single)]
    exact char.glyph_of_ne_pair single

theorem not_bareAt_control {s : Bytes} {i : Nat} {c : UInt8} (get : s[i]? = some c)
    (control : Control c) (cr : c ≠ 13) (lf : c ≠ 10) : ¬BareAt s i := by
  have low : c < 0x80 := by
    simp only [Control, ne_eq, UInt8.lt_iff_toNat_lt, ← UInt8.toNat_inj, UInt8.reduceToNat]
      at control ⊢
    omega
  rintro (⟨d, found, plain⟩ | ⟨j, w, after, near, blank, front⟩ |
    ⟨j, u, after, within, wide, front⟩)
  · rw [get, Option.some.injEq] at found
    subst found
    simp only [Control, Plain, ne_eq, UInt8.le_iff_toNat_le, UInt8.lt_iff_toNat_lt,
      ← UInt8.toNat_inj, UInt8.reduceToNat] at control plain
    omega
  · have octet : [13, 10, w][i - j]? = some c := by
      rw [← getElem?_of_front front after (by simp; omega), get]
    rcases Nat.le.dest after with ⟨k, rfl⟩
    rcases k with _ | _ | k
    · simp at octet
      exact cr octet.symm
    · simp at octet
      exact lf octet.symm
    · omega
  · have octet : u[i - j]? = some c := by
      rw [← getElem?_of_front front after within, get]
    exact wide.ascii_free low (List.mem_of_getElem? octet)

/-- The text of a run of characters is bare exactly when no character is a quoted pair of a
control octet. -/
theorem bare_unpair_iff {us : List Bytes} (chars : ∀ u ∈ us, Qchar u) :
    Bare (us.map unpair).flatten ↔ ∀ c, [92, c] ∈ us → ¬Control c := by
  constructor
  · intro bare c member control
    obtain ⟨pre, post, rfl⟩ := List.append_of_mem member
    obtain ⟨-, cr, lf⟩ := (chars _ member).pair_facts
    have get : ((pre ++ [92, c] :: post).map unpair).flatten[(pre.map unpair).flatten.length]? =
        some c := by
      have single : unpair [92, c] = [c] := rfl
      simp [List.map_append, List.flatten_append, single]
    obtain ⟨bound, -⟩ := List.getElem?_eq_some_iff.1 get
    exact not_bareAt_control get control cr lf (bare _ bound)
  · intro escapes
    apply bare_flatten
    intro g member
    obtain ⟨u, listed, rfl⟩ := List.mem_map.1 member
    exact (chars u listed).glyph_unpair fun c same => escapes c (same ▸ listed)

/-- No quoted pair of `q` escapes a control octet: however `q` is read as quotes around a run of
characters, no character is a backslash before DEL or before an octet below 0x20 other than
HTAB. -/
def EscapesNoControl (q : Bytes) : Prop :=
  ∀ us : List Bytes, (∀ u ∈ us, Qchar u) → q = 34 :: (us.flatten ++ [34]) →
    ∀ c, [92, c] ∈ us → ¬Control c

theorem quotable_unquote_iff {q : Bytes} (quoted : isQuoted q = true) :
    Quotable (unquote q) ↔ EscapesNoControl q := by
  have text : ∀ us : List Bytes, (∀ u ∈ us, Qchar u) → q = 34 :: (us.flatten ++ [34]) →
      unquote q = (us.map unpair).flatten := by
    intro us chars shape
    rw [shape, unquote_chars chars]
  constructor
  · intro quotable us chars shape
    rw [quotable_iff_bare, text us chars shape] at quotable
    exact (bare_unpair_iff chars).1 quotable
  · intro escapes
    obtain ⟨us, chars, shape⟩ := isQuoted_iff_chars.1 quoted
    rw [quotable_iff_bare, text us chars shape]
    exact (bare_unpair_iff chars).2 (escapes us chars shape)

/-- The quoting law. Unquoting a quoted text gives the text back; the quoted form of a text is
read whole before anything that may follow it exactly when the text is bare; and the text of a
quoted string can be quoted again exactly when none of its quoted pairs escapes a control
octet. -/
theorem quoting_law :
    (∀ s, unquote (quote s) = s) ∧
    (∀ s, ((∀ t, quotedStringLen (quote s ++ t) = (quote s).length) ↔ Bare s)) ∧
    (∀ q, isQuoted q = true → (isQuoted (quote (unquote q)) = true ↔ EscapesNoControl q)) :=
  ⟨unquote_quote, fun _ => quotedStringLen_quote_append_iff,
    fun _ quoted => quotable_unquote_iff quoted⟩

/-- A quoted pair that escapes SOH makes a quoted string whose text cannot be quoted again. -/
theorem quoting_law_control_pair :
    isQuoted [34, 92, 1, 34] = true ∧ isQuoted (quote (unquote [34, 92, 1, 34])) = false := by
  have chars : ∀ u ∈ [[92, 1]], Qchar u := by
    intro u member
    rw [List.mem_singleton.1 member]
    exact .pair (by decide) (by decide) (by decide)
  have quoted : isQuoted [34, 92, 1, 34] = true := isQuoted_iff_chars.2 ⟨[[92, 1]], chars, rfl⟩
  have escapes : ¬EscapesNoControl [34, 92, 1, 34] := fun harmless =>
    harmless [[92, 1]] chars rfl 1 List.mem_cons_self (.inr ⟨by decide, by decide⟩)
  refine ⟨quoted, Bool.eq_false_iff.2 fun requoted => escapes ?_⟩
  exact (quoting_law.2.2 _ quoted).1 requoted

end SipCodec.Lexical
