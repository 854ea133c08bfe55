import SipCodec.Header.Field
import SipCodec.Proofs.Text.Trim

/-! Canonical header names are stable, so a made field is made again the same from its own name
and value. -/

namespace SipCodec.HeaderName

private theorem octet_facts_below : ∀ n < 256, let c := n.toUInt8
    Octet.toLower (Octet.toUpper c) = Octet.toLower c ∧
    Octet.toLower (Octet.toLower c) = Octet.toLower c ∧
    Octet.toUpper (Octet.toUpper c) = Octet.toUpper c ∧
    (isFieldChar c = true → isFieldChar (Octet.toUpper c) = true ∧
      isFieldChar (Octet.toLower c) = true ∧ c < 0x80 ∧ isSpaceCode c.toNat = false) := by
  decide +kernel

theorem octet_facts (c : UInt8) :
    Octet.toLower (Octet.toUpper c) = Octet.toLower c ∧
    Octet.toLower (Octet.toLower c) = Octet.toLower c ∧
    Octet.toUpper (Octet.toUpper c) = Octet.toUpper c ∧
    (isFieldChar c = true → isFieldChar (Octet.toUpper c) = true ∧
      isFieldChar (Octet.toLower c) = true ∧ c < 0x80 ∧ isSpaceCode c.toNat = false) := by
  have facts := octet_facts_below c.toNat c.toNat_lt
  simpa only [Nat.toUInt8, UInt8.ofNat_toNat] using facts

/-! ### MIME case -/

/-- MIME casing from a state: upper case where `up` holds, and after each hyphen. -/
def mimeRun : Bytes → Bool → Bytes
  | [], _ => []
  | c :: s, up =>
    let c' := if up then Octet.toUpper c else Octet.toLower c
    c' :: mimeRun s (c' == 45)

private theorem foldl_mimeRun (s acc : Bytes) (up : Bool) :
    (s.foldl (fun (acc : Bytes × Bool) c =>
      let c' := if acc.2 then Octet.toUpper c else Octet.toLower c
      (c' :: acc.1, c' == 45)) (acc, up)).1 = (mimeRun s up).reverse ++ acc := by
  induction s generalizing acc up with
  | nil => rfl
  | cons c s ih => simp [mimeRun, ih]

theorem mimeCase_eq (s : Bytes) : mimeCase s = mimeRun s true := by
  simp [mimeCase, foldl_mimeRun]

theorem lowerAscii_mimeRun (s : Bytes) (up : Bool) :
    Bytes.lowerAscii (mimeRun s up) = Bytes.lowerAscii s := by
  induction s generalizing up with
  | nil => rfl
  | cons c s ih =>
    have cased : Octet.toLower (if up then Octet.toUpper c else Octet.toLower c) =
        Octet.toLower c := by
      cases up
      · exact (octet_facts c).2.1
      · exact (octet_facts c).1
    simpa [mimeRun, Bytes.lowerAscii, cased] using ih _

theorem mimeRun_mimeRun (s : Bytes) (up : Bool) : mimeRun (mimeRun s up) up = mimeRun s up := by
  induction s generalizing up with
  | nil => rfl
  | cons c s ih =>
    have again : (if up then Octet.toUpper (if up then Octet.toUpper c else Octet.toLower c)
        else Octet.toLower (if up then Octet.toUpper c else Octet.toLower c)) =
        if up then Octet.toUpper c else Octet.toLower c := by
      cases up
      · exact (octet_facts c).2.1
      · exact (octet_facts c).2.2.1
    simp only [mimeRun, again, ih]

theorem mimeRun_fieldChars {s : Bytes} (fields : ∀ c ∈ s, isFieldChar c = true) (up : Bool) :
    ∀ c ∈ mimeRun s up, isFieldChar c = true := by
  induction s generalizing up with
  | nil => simp [mimeRun]
  | cons c s ih =>
    intro d member
    simp only [mimeRun, List.mem_cons] at member
    rcases member with rfl | member
    · have cased := (octet_facts c).2.2.2 (fields c List.mem_cons_self)
      cases up
      · exact cased.2.1
      · exact cased.1
    · exact ih (fun d inside => fields d (List.mem_cons_of_mem c inside)) _ d member

/-! ### Canonical names -/

theorem lookup?_mem {lowered k : Bytes} (found : lookup? lowered = some k) : k ∈ knownNames := by
  unfold lookup? at found
  split at found
  · rename_i n known
    obtain rfl := Option.some.inj found
    exact List.mem_of_find?_eq_some known
  · obtain ⟨p, compactFound, rfl⟩ := Option.map_eq_some_iff.1 found
    have compactKnown : ∀ p ∈ compactNames, p.1 ∈ knownNames := by decide +kernel
    exact compactKnown p (List.mem_of_find?_eq_some compactFound)

theorem canonic_known {k : Bytes} (known : k ∈ knownNames) :
    canonic k = k ∧ isKnown k = true := by
  have table : ∀ k ∈ knownNames, canonic k = k ∧ isKnown k = true := by decide +kernel
  exact table k known

theorem toLower_of_ascii {s : Bytes} (ascii : ∀ c ∈ s, c < 0x80) :
    Bytes.toLower s = Bytes.lowerAscii s := by
  have allAscii : s.all (· < 0x80) = true :=
    List.all_eq_true.2 fun c member => decide_eq_true (ascii c member)
  simp [Bytes.toLower, allAscii]

/-- Canonicalising a canonical name changes nothing. -/
theorem canonic_canonic (name : Bytes) : canonic (canonic name) = canonic name := by
  cases found : lookup? (Bytes.toLower (Bytes.trimSpace name)) with
  | some k =>
    have named : canonic name = k := by simp [canonic, found]
    rw [named, (canonic_known (lookup?_mem found)).1]
  | none =>
    by_cases fields : (Bytes.trimSpace name).all isFieldChar = true
    · set s := Bytes.trimSpace name with trimmed
      have named : canonic name = mimeRun s true := by
        simp [canonic, ← trimmed, found, fields, mimeCase_eq]
      have fieldChars := mimeRun_fieldChars (List.all_eq_true.1 fields) true
      have ascii : ∀ c ∈ mimeRun s true, c < 0x80 :=
        fun c member => ((octet_facts c).2.2.2 (fieldChars c member)).2.2.1
      have plain : ∀ c ∈ s, c < 0x80 :=
        fun c member => ((octet_facts c).2.2.2 (List.all_eq_true.1 fields c member)).2.2.1
      have kept : Bytes.trimSpace (mimeRun s true) = mimeRun s true :=
        Bytes.trimSpace_of_ascii ascii
          fun c member => ((octet_facts c).2.2.2 (fieldChars c member)).2.2.2
      have lowered : Bytes.toLower (mimeRun s true) = Bytes.toLower s := by
        rw [toLower_of_ascii ascii, toLower_of_ascii plain, lowerAscii_mimeRun]
      rw [named]
      simp [canonic, kept, lowered, found, List.all_eq_true.2 fieldChars, mimeCase_eq,
        mimeRun_mimeRun]
    · have named : canonic name = Bytes.trimSpace name := by simp [canonic, found, fields]
      rw [named]
      simp [canonic, Bytes.trimSpace_trimSpace, found, fields]

end SipCodec.HeaderName

namespace SipCodec.Header

theorem make_made (name value : Bytes) :
    make (make name value).name (make name value).value = make name value := by
  by_cases known : HeaderName.isKnown (HeaderName.canonic name) = true
  · simp [make, known, HeaderName.canonic_canonic]
  · simp [make, known]

theorem made_named {h : Header} (made : ∃ name value, h = make name value) {k : Bytes}
    (known : k ∈ HeaderName.knownNames) (named : HeaderName.equal h.name k = true) :
    h.isKnown = true ∧ h.name = k := by
  obtain ⟨name, value, rfl⟩ := made
  have canonical : HeaderName.canonic (make name value).name = k := by
    simpa [HeaderName.equal, (HeaderName.canonic_known known).1] using named
  by_cases knownName : HeaderName.isKnown (HeaderName.canonic name) = true
  · have isName : (make name value).name = HeaderName.canonic name := by simp [make, knownName]
    rw [isName, HeaderName.canonic_canonic] at canonical
    exact ⟨by simp [isKnown, isName, knownName], by rw [isName, canonical]⟩
  · have isName : (make name value).name = name := by simp [make, knownName]
    rw [isName] at canonical
    exact absurd (canonical ▸ (HeaderName.canonic_known known).2) knownName

end SipCodec.Header
