import SipCodec.Text.Percent

/-! Escaping a URI part never changes what it reads as, since writing and decoding stay in step
escape by escape. -/

namespace SipCodec.Percent

/-- Whether the octets open with two hexadecimal digits, as the digits of an escape do. -/
def hexPairFront : Bytes → Bool
  | a :: b :: _ => Octet.isHex a && Octet.isHex b
  | _ => false

/-! ### Hexadecimal digits -/

theorem isHex_percent : Octet.isHex 37 = false := by decide

theorem hexDigitUpper_facts : ∀ n < 16,
    Octet.isHex (Octet.hexDigitUpper n) = true ∧ Octet.hexValue (Octet.hexDigitUpper n) = n := by
  decide

theorem hexDigits_octet (c : UInt8) :
    Octet.isHex (Octet.hexDigitUpper (c.toNat / 16)) = true ∧
    Octet.isHex (Octet.hexDigitUpper (c.toNat % 16)) = true ∧
    (Octet.hexValue (Octet.hexDigitUpper (c.toNat / 16)) * 16 +
      Octet.hexValue (Octet.hexDigitUpper (c.toNat % 16))).toUInt8 = c := by
  have bound : c.toNat < 256 := c.toNat_lt
  have high := hexDigitUpper_facts (c.toNat / 16) (by omega)
  have low := hexDigitUpper_facts (c.toNat % 16) (by omega)
  refine ⟨high.1, low.1, ?_⟩
  rw [high.2, low.2, Nat.div_add_mod']
  exact UInt8.ofNat_toNat

/-! ### Reading -/

theorem decode_escape {a b : UInt8} (digits : (Octet.isHex a && Octet.isHex b) = true)
    (rest : Bytes) :
    decode (37 :: a :: b :: rest) =
      (Octet.hexValue a * 16 + Octet.hexValue b).toUInt8 :: decode rest := by
  simp [decode, digits]

theorem decode_cons_of_not_escape {c : UInt8} {s : Bytes}
    (plain : c = 37 → hexPairFront s = false) : decode (c :: s) = c :: decode s := by
  match s with
  | [] =>
    cases c using UInt8.casesOn
    simp [decode]
  | [a] => simp [decode]
  | a :: b :: rest =>
    by_cases percent : c = 37
    · subst percent
      have broken : (Octet.isHex a && Octet.isHex b) = false := plain rfl
      simp [decode, broken]
    · simp [decode, percent]

/-! ### Writing -/

theorem hexPairFront_of_short {c : UInt8} {rest : Bytes}
    (short : ∀ a b more, c = 37 → rest = a :: b :: more → False) :
    c = 37 → hexPairFront rest = false := by
  intro percent
  match rest with
  | [] => rfl
  | [_] => rfl
  | a :: b :: more => exact (short a b more percent rfl).elim

variable (keep : UInt8 → Bool)

theorem encode_escape {a b : UInt8} (digits : (Octet.isHex a && Octet.isHex b) = true)
    (rest : Bytes) : encode keep (37 :: a :: b :: rest) = 37 :: a :: b :: encode keep rest := by
  simp [encode, digits]

theorem encode_broken {a b : UInt8} (broken : ¬(Octet.isHex a && Octet.isHex b) = true)
    (rest : Bytes) :
    encode keep (37 :: a :: b :: rest) =
      encode.escapeOne keep 37 ++ encode keep (a :: b :: rest) := by
  simp [encode, broken]

theorem head?_escapeOne (c : UInt8) (t : Bytes) :
    (encode.escapeOne keep c ++ t).head? = some (if keep c then c else 37) := by
  by_cases kept : keep c = true <;> simp [encode.escapeOne, kept]

theorem head?_encode_cons (c : UInt8) (s : Bytes) :
    (encode keep (c :: s)).head? = some (if keep c then c else 37) := by
  by_cases opens : c = 37 ∧ ∃ a b more, s = a :: b :: more
  · obtain ⟨rfl, a, b, more, rfl⟩ := opens
    by_cases digits : (Octet.isHex a && Octet.isHex b) = true
    · rw [encode_escape keep digits]
      by_cases kept : keep 37 = true <;> simp [kept]
    · rw [encode_broken keep digits, head?_escapeOne]
  · have short : ∀ a b more, c = 37 → s = a :: b :: more → False :=
      fun a b more percent split => opens ⟨percent, a, b, more, split⟩
    rw [encode.eq_3 keep _ _ short, head?_escapeOne]

theorem encode_cons_of_plain {c : UInt8} (kept : keep c = true) (plain : c ≠ 37) (s : Bytes) :
    encode keep (c :: s) = c :: encode keep s := by
  have short : ∀ a b more, c = 37 → s = a :: b :: more → False :=
    fun _ _ _ percent _ => plain percent
  rw [encode.eq_3 keep _ _ short]
  simp [encode.escapeOne, kept]

theorem hexPairFront_encode {s : Bytes} (front : hexPairFront (encode keep s) = true) :
    hexPairFront s = true := by
  match s with
  | [] => simp [encode, hexPairFront] at front
  | c :: s =>
    obtain ⟨t, written⟩ := List.head?_eq_some_iff.1 (head?_encode_cons keep c s)
    have kept : keep c = true := by
      by_cases kept : keep c = true
      · exact kept
      · rw [written] at front
        match t with
        | [] => simp [hexPairFront] at front
        | _ :: _ => simp [hexPairFront, kept, isHex_percent] at front
    have digit : Octet.isHex c = true := by
      rw [written] at front
      match t with
      | [] => simp [hexPairFront] at front
      | _ :: _ => simp_all [hexPairFront]
    have plain : c ≠ 37 := fun percent => by simp [percent, isHex_percent] at digit
    rw [encode_cons_of_plain keep kept plain] at front
    match s with
    | [] => simp [encode, hexPairFront] at front
    | d :: s =>
      obtain ⟨u, second⟩ := List.head?_eq_some_iff.1 (head?_encode_cons keep d s)
      rw [second] at front
      by_cases keptNext : keep d = true
      · simpa [hexPairFront, keptNext] using front
      · simp [hexPairFront, keptNext, isHex_percent] at front

theorem hexPairFront_encode_eq_false {s : Bytes} (noPair : hexPairFront s = false) :
    hexPairFront (encode keep s) = false := by
  cases front : hexPairFront (encode keep s)
  · rfl
  · rw [hexPairFront_encode keep front] at noPair
    cases noPair

theorem decode_escapeOne {c : UInt8} {rest : Bytes}
    (apart : keep c = true → c = 37 → hexPairFront rest = false) :
    decode (encode.escapeOne keep c ++ rest) = c :: decode rest := by
  by_cases kept : keep c = true
  · simpa [encode.escapeOne, kept] using decode_cons_of_not_escape (apart kept)
  · obtain ⟨high, low, value⟩ := hexDigits_octet c
    simp only [encode.escapeOne, kept, Bool.false_eq_true, if_false, List.cons_append,
      List.nil_append]
    rw [decode_escape (by simp [high, low]), value]

/-- Reading written text gives what reading the text gives. -/
theorem decode_encode (s : Bytes) : decode (encode keep s) = decode s := by
  induction s using encode.induct with
  | case1 => rfl
  | case2 a b rest digits ih =>
    rw [encode_escape keep digits, decode_escape digits, decode_escape digits, ih]
  | case3 a b rest broken ih =>
    have noPair : hexPairFront (a :: b :: rest) = false := by simpa [hexPairFront] using broken
    rw [encode_broken keep broken,
      decode_escapeOne keep fun _ _ => hexPairFront_encode_eq_false keep noPair, ih,
      decode_cons_of_not_escape fun _ => noPair]
  | case4 c rest short ih =>
    have noPair := hexPairFront_of_short short
    rw [encode.eq_3 keep _ _ short,
      decode_escapeOne keep fun _ percent => hexPairFront_encode_eq_false keep (noPair percent),
      ih, decode_cons_of_not_escape noPair]

/-! ### Strict reading -/

theorem wellEscaped_escape {a b : UInt8} (digits : (Octet.isHex a && Octet.isHex b) = true)
    (rest : Bytes) : wellEscaped (37 :: a :: b :: rest) = wellEscaped rest := by
  simp [wellEscaped, digits]

theorem wellEscaped_escapeOne (dropped : keep 37 = false) (c : UInt8) (rest : Bytes) :
    wellEscaped (encode.escapeOne keep c ++ rest) = wellEscaped rest := by
  by_cases kept : keep c = true
  · have plain : c ≠ 37 := fun percent => by simp [percent, dropped] at kept
    simp only [encode.escapeOne, kept, if_true, List.singleton_append]
    match rest with
    | [] => simp [wellEscaped]
    | [a] => simp [wellEscaped]
    | a :: b :: more => simp [wellEscaped, plain]
  · obtain ⟨high, low, -⟩ := hexDigits_octet c
    simp only [encode.escapeOne, kept, Bool.false_eq_true, if_false, List.cons_append,
      List.nil_append]
    exact wellEscaped_escape (by simp [high, low]) rest

theorem wellEscaped_encode (dropped : keep 37 = false) (s : Bytes) :
    wellEscaped (encode keep s) = true := by
  induction s using encode.induct with
  | case1 => rfl
  | case2 a b rest digits ih => rw [encode_escape keep digits, wellEscaped_escape digits, ih]
  | case3 a b rest broken ih =>
    rw [encode_broken keep broken, wellEscaped_escapeOne keep dropped, ih]
  | case4 c rest short ih =>
    rw [encode.eq_3 keep _ _ short, wellEscaped_escapeOne keep dropped, ih]

/-! ### Texts that read as themselves -/

theorem length_decode_le (s : Bytes) : (decode s).length ≤ s.length := by
  induction s using decode.induct with
  | case1 => simp [decode]
  | case2 a b rest digits ih =>
    rw [decode_escape digits]
    simp only [List.length_cons]
    omega
  | case3 a b rest broken ih =>
    rw [decode_cons_of_not_escape fun _ => by simpa [hexPairFront] using broken]
    simp only [List.length_cons] at ih ⊢
    omega
  | case4 c rest short ih =>
    rw [decode_cons_of_not_escape (hexPairFront_of_short short)]
    simp only [List.length_cons]
    omega

theorem length_decode_lt {a b : UInt8} (digits : (Octet.isHex a && Octet.isHex b) = true)
    {s : Bytes} (inside : [37, a, b] <:+: s) : (decode s).length < s.length := by
  induction s using decode.induct with
  | case1 => simp at inside
  | case2 x y rest pair _ =>
    rw [decode_escape pair]
    have := length_decode_le rest
    simp only [List.length_cons]
    omega
  | case3 x y rest broken ih =>
    rw [decode_cons_of_not_escape fun _ => by simpa [hexPairFront] using broken]
    rcases List.infix_cons_iff.1 inside with front | later
    · obtain ⟨rfl, rfl⟩ : a = x ∧ b = y := by simpa using front
      exact absurd digits broken
    · simpa using ih later
  | case4 c rest short ih =>
    rw [decode_cons_of_not_escape (hexPairFront_of_short short)]
    rcases List.infix_cons_iff.1 inside with front | later
    · obtain ⟨percent, more, split⟩ : 37 = c ∧ [a, b] <+: rest := by
        simpa [List.cons_prefix_cons] using front
      exact (short a b more percent.symm split.symm).elim
    · simpa using ih later

theorem decode_of_no_escape {s : Bytes}
    (escapeFree : ∀ a b, (Octet.isHex a && Octet.isHex b) = true → ¬ [37, a, b] <:+: s) :
    decode s = s := by
  induction s using decode.induct with
  | case1 => rfl
  | case2 a b rest digits _ => exact absurd (List.prefix_append _ _).isInfix (escapeFree a b digits)
  | case3 a b rest broken ih =>
    rw [decode_cons_of_not_escape fun _ => by simpa [hexPairFront] using broken,
      ih fun x y pair inside => escapeFree x y pair (List.infix_cons inside)]
  | case4 c rest short ih =>
    rw [decode_cons_of_not_escape (hexPairFront_of_short short),
      ih fun x y pair inside => escapeFree x y pair (List.infix_cons inside)]

theorem decode_eq_self_iff (s : Bytes) :
    decode s = s ↔ ∀ a b, (Octet.isHex a && Octet.isHex b) = true → ¬ [37, a, b] <:+: s := by
  constructor
  · intro same a b digits inside
    have shorter := length_decode_lt digits inside
    rw [same] at shorter
    exact Nat.lt_irrefl _ shorter
  · exact decode_of_no_escape

/-- The escaping law: for every set `keep` of octets that stand for themselves and every text
`s`, reading `s` written with `keep` gives what reading `s` gives; when `%` is not kept, strict
reading accepts the written text; and so reading the written text gives `s` back exactly when
`s` holds no `%` followed by two hexadecimal digits. -/
theorem escaping_law (s : Bytes) :
    decode (encode keep s) = decode s ∧
    (keep 37 = false → decodeStrict (encode keep s) = .ok (decode s)) ∧
    (decode (encode keep s) = s ↔
      ∀ a b, (Octet.isHex a && Octet.isHex b) = true → ¬ [37, a, b] <:+: s) := by
  refine ⟨decode_encode keep s, fun dropped => ?_, ?_⟩
  · rw [decodeStrict, wellEscaped_encode keep dropped, if_pos rfl, decode_encode]
  · rw [decode_encode, decode_eq_self_iff]

/-- Writing a broken escape, a kept escape and a plus sign for the unreserved set. -/
theorem escaping_law_unreserved :
    isUnreserved 37 = false ∧
    decodeStrict (encode isUnreserved (lit "a%zz%41+")) = .ok (decode (lit "a%zz%41+")) :=
  ⟨by decide, (escaping_law isUnreserved (lit "a%zz%41+")).2.1 (by decide)⟩

end SipCodec.Percent
