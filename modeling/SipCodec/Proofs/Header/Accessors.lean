import SipCodec.Header.List
import SipCodec.Proofs.Header.Names

/-! Typed and named lookups agree: on a list of made fields, selecting by class and selecting by
canonical name give the same fields in the same order. -/

namespace SipCodec.Headers

variable {hs : List Header} {k : Bytes}

theorem classed_iff_named {h : Header} (made : ∃ name value, h = Header.make name value)
    (known : k ∈ HeaderName.knownNames) :
    (h.isKnown && h.name == k) = HeaderName.equal h.name k := by
  by_cases named : HeaderName.equal h.name k = true
  · obtain ⟨isKnown, same⟩ := Header.made_named made known named
    simp [isKnown, same, HeaderName.equal]
  · have unclassed : ¬ (h.isKnown = true ∧ h.name = k) := by
      rintro ⟨-, same⟩
      exact named (by simp [HeaderName.equal, same])
    simpa [named] using unclassed

section Made

variable (made : ∀ h ∈ hs, ∃ name value, h = Header.make name value)
  (known : k ∈ HeaderName.knownNames)
include made known

theorem ofClass_eq_byName : ofClass hs k = byName hs k :=
  List.filter_congr fun h member => classed_iff_named (made h member) known

theorem first?_eq_get? : first? hs k = get? hs k := by
  rw [first?, ofClass_eq_byName made known, byName, List.head?_filter, get?]

theorem has_eq_isSome_first? : has hs k = (first? hs k).isSome := by
  rw [has, first?_eq_get? made known]

/-- A required field is there exactly when name lookup finds it, and it is the field found. -/
theorem required_eq_ok_iff (h : Header) : required hs k = .ok h ↔ get? hs k = some h := by
  rw [← first?_eq_get? made known, required]
  cases first? hs k with
  | none => simp
  | some found => simp

end Made

/-- On a list of fields each made from a name and a value, every known name's accessors agree
with lookup by that name: the name is there exactly when its accessor finds a field, a required
field is found exactly when name lookup finds one and is the same field, the first field of
the class is the one name lookup finds, and the fields of the class are those found by the
name, in order. -/
theorem typed_lookups_agree_with_names
    (made : ∀ h ∈ hs, ∃ name value, h = Header.make name value)
    (known : k ∈ HeaderName.knownNames) :
    has hs k = (first? hs k).isSome ∧
    (∀ h, required hs k = .ok h ↔ get? hs k = some h) ∧
    first? hs k = get? hs k ∧
    ofClass hs k = byName hs k :=
  ⟨has_eq_isSome_first? made known, required_eq_ok_iff made known,
    first?_eq_get? made known, ofClass_eq_byName made known⟩

/-- Via fields written compactly, in upper case and with blanks, beside an extension field
whose name only starts like it. -/
theorem typed_lookups_agree_on_via_spellings :
    let hs := [Header.make (lit " v ") (lit "SIP/2.0/UDP a"), Header.make (lit "X-Via") (lit "1"),
      Header.make (lit "VIA") (lit "SIP/2.0/TCP b")]
    (∀ h ∈ hs, ∃ name value, h = Header.make name value) ∧ lit "Via" ∈ HeaderName.knownNames ∧
    (has hs (lit "Via") = (first? hs (lit "Via")).isSome ∧
      (∀ h, required hs (lit "Via") = .ok h ↔ get? hs (lit "Via") = some h) ∧
      first? hs (lit "Via") = get? hs (lit "Via") ∧
      ofClass hs (lit "Via") = byName hs (lit "Via")) := by
  intro hs
  have made : ∀ h ∈ hs, ∃ name value, h = Header.make name value := by
    intro h member
    simp only [hs, List.mem_cons, List.not_mem_nil, or_false] at member
    rcases member with rfl | rfl | rfl <;> exact ⟨_, _, rfl⟩
  have known : lit "Via" ∈ HeaderName.knownNames :=
    List.mem_map.2 ⟨"Via", by simp, rfl⟩
  exact ⟨made, known, typed_lookups_agree_with_names made known⟩

end SipCodec.Headers
