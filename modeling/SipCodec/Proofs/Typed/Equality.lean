import SipCodec.Typed.Header
import SipCodec.Proofs.Uri.Equality
import Mathlib.Data.List.Forall2

/-! Equality of hops, contacts and the typed values built on URIs, addresses and hops is an
equivalence on values whose parameter lists are sound. -/

namespace SipCodec

/-- `r` is reflexive, symmetric and transitive on the values that satisfy `P`. -/
structure EquivalenceOn {α : Type} (P : α → Prop) (r : α → α → Bool) : Prop where
  refl : ∀ a, P a → r a a = true
  symm : ∀ {a b}, P a → P b → r a b = true → r b a = true
  trans : ∀ {a b c}, P a → P b → r a b = true → r b c = true → r a c = true

/-- Lists compared entry by entry, as every list equality of the typed values is. -/
def entrywise {α : Type} (r : α → α → Bool) (a b : List α) : Bool :=
  a.length == b.length && (a.zip b).all fun p => r p.1 p.2

section Entrywise

variable {α : Type} {P : α → Prop} {r : α → α → Bool}

theorem entrywise_iff {a b : List α} :
    entrywise r a b = true ↔ List.Forall₂ (fun x y => r x y = true) a b := by
  simp [entrywise, List.forall₂_iff_zip, List.all_eq_true]

theorem EquivalenceOn.list (e : EquivalenceOn P r) :
    EquivalenceOn (fun l => ∀ x ∈ l, P x) (entrywise r) where
  refl l pl := entrywise_iff.2 (List.forall₂_same.2 fun x m => e.refl x (pl x m))
  symm {a b} pa pb h := by
    rw [entrywise_iff] at h ⊢
    induction h with
    | nil => exact .nil
    | cons head _ ih =>
      simp only [List.forall_mem_cons] at pa pb
      exact .cons (e.symm pa.1 pb.1 head) (ih pa.2 pb.2)
  trans {a b c} pa pb h₁ h₂ := by
    rw [entrywise_iff] at h₁ h₂ ⊢
    induction h₁ generalizing c with
    | nil => exact h₂
    | cons head _ ih =>
      cases h₂ with
      | cons head₂ rest₂ =>
        simp only [List.forall_mem_cons] at pa pb
        exact .cons (e.trans pa.1 pb.1 head head₂) (ih pa.2 pb.2 rest₂)

end Entrywise

theorem Params.equivalenceOn : EquivalenceOn Params.Sound Params.equal :=
  ⟨fun _ s => equal_refl s.1, equal_symm, fun sa sb => equal_trans sa.2 sb.2⟩

theorem Uri.equivalenceOn : EquivalenceOn (fun u : Uri => Params.Sound u.params) Uri.equal :=
  ⟨fun u s => equal_refl u s.1, equal_symm, equal_trans⟩

theorem UriWithParams.equivalenceOn : EquivalenceOn UriWithParams.Sound UriWithParams.equal :=
  ⟨equal_refl, equal_symm, equal_trans⟩

theorem NameAddr.equivalenceOn : EquivalenceOn NameAddr.Sound NameAddr.equal :=
  ⟨equal_refl, equal_symm, equal_trans⟩

theorem UriWithParams.equalList_eq : UriWithParams.equalList = entrywise UriWithParams.equal :=
  rfl

theorem NameAddr.equalList_eq : NameAddr.equalList = entrywise NameAddr.equal := rfl

theorem Version.beq_iff {a b : Version} : (a == b) = true ↔ a = b := by
  rcases a with ⟨major, minor⟩
  rcases b with ⟨major', minor'⟩
  show (major == major' && minor == minor') = true ↔ _
  simp

namespace ViaHop

/-- A hop whose URI parameters and hop parameters are both sound lists. -/
def Sound (h : ViaHop) : Prop := Params.Sound h.uri.params ∧ Params.Sound h.params

instance : DecidablePred Sound := fun _ => inferInstanceAs (Decidable (_ ∧ _))

theorem equal_refl (h : ViaHop) (s : h.Sound) : h.equal h = true := by
  simp [equal, Transport.equal, Version.beq_iff, Uri.equal_refl h.uri s.1.1,
    Params.equal_refl s.2.1]

theorem equal_symm {a b : ViaHop} (sa : a.Sound) (sb : b.Sound) (e : a.equal b = true) :
    b.equal a = true := by
  simp only [equal, Transport.equal, Bool.and_eq_true, Version.beq_iff] at e ⊢
  obtain ⟨⟨⟨version, transport⟩, uri⟩, params⟩ := e
  exact ⟨⟨⟨version.symm, Bytes.eqFold_symm transport⟩, Uri.equal_symm sa.1 sb.1 uri⟩,
    Params.equal_symm sa.2 sb.2 params⟩

theorem equal_trans {a b c : ViaHop} (sa : a.Sound) (sb : b.Sound) (e₁ : a.equal b = true)
    (e₂ : b.equal c = true) : a.equal c = true := by
  simp only [equal, Transport.equal, Bool.and_eq_true, Version.beq_iff] at e₁ e₂ ⊢
  obtain ⟨⟨⟨version₁, transport₁⟩, uri₁⟩, params₁⟩ := e₁
  obtain ⟨⟨⟨version₂, transport₂⟩, uri₂⟩, params₂⟩ := e₂
  exact ⟨⟨⟨version₁.trans version₂, Bytes.eqFold_trans transport₁ transport₂⟩,
    Uri.equal_trans sa.1 sb.1 uri₁ uri₂⟩, Params.equal_trans sa.2.2 sb.2.2 params₁ params₂⟩

theorem equivalenceOn : EquivalenceOn Sound equal := ⟨equal_refl, equal_symm, equal_trans⟩

theorem equalList_eq : equalList = entrywise equal := rfl

end ViaHop

namespace Contact

/-- A contact whose addresses are all sound. -/
def Sound (c : Contact) : Prop := ∀ a ∈ c.addrs, a.Sound

theorem equivalenceOn : EquivalenceOn Sound equal where
  refl c s := by
    simp [equal, NameAddr.equalList_eq, NameAddr.equivalenceOn.list.refl c.addrs s]
  symm {a b} sa sb e := by
    simp only [equal, Bool.and_eq_true, beq_iff_eq, NameAddr.equalList_eq] at e ⊢
    exact ⟨e.1.symm, NameAddr.equivalenceOn.list.symm sa sb e.2⟩
  trans {a b c} sa sb e₁ e₂ := by
    simp only [equal, Bool.and_eq_true, beq_iff_eq, NameAddr.equalList_eq] at e₁ e₂ ⊢
    exact ⟨e₁.1.trans e₂.1, NameAddr.equivalenceOn.list.trans sa sb e₁.2 e₂.2⟩

end Contact

namespace TypedHeader

/-- A value of a header built from URIs, addresses or hops, all of whose parameter lists are
sound; no value of another header is. -/
def Sound : TypedHeader → Prop
  | alertInfo l | callInfo l | errorInfo l => ∀ e ∈ l, e.Sound
  | contact c => c.Sound
  | fromAddr a | toAddr a | replyTo a => a.Sound
  | recordRoute l | route l => ∀ a ∈ l, a.Sound
  | via l => ∀ h ∈ l, h.Sound
  | _ => False

theorem equal_refl (s : TypedHeader) (hs : s.Sound) : s.equal s = true := by
  cases s <;> simp only [Sound] at hs
  case alertInfo l | callInfo l | errorInfo l => exact UriWithParams.equivalenceOn.list.refl l hs
  case contact c => exact Contact.equivalenceOn.refl c hs
  case fromAddr a | toAddr a | replyTo a => exact NameAddr.equivalenceOn.refl a hs
  case recordRoute l | route l => exact NameAddr.equivalenceOn.list.refl l hs
  case via l => exact ViaHop.equivalenceOn.list.refl l hs

theorem equal_symm {s t : TypedHeader} (hs : s.Sound) (ht : t.Sound) (e : s.equal t = true) :
    t.equal s = true := by
  cases s <;> simp only [Sound] at hs <;> cases t <;> simp only [Sound] at ht <;>
    try exact absurd e Bool.false_ne_true
  case alertInfo.alertInfo | callInfo.callInfo | errorInfo.errorInfo =>
    exact UriWithParams.equivalenceOn.list.symm hs ht e
  case contact.contact => exact Contact.equivalenceOn.symm hs ht e
  case fromAddr.fromAddr | toAddr.toAddr | replyTo.replyTo =>
    exact NameAddr.equivalenceOn.symm hs ht e
  case recordRoute.recordRoute | route.route => exact NameAddr.equivalenceOn.list.symm hs ht e
  case via.via => exact ViaHop.equivalenceOn.list.symm hs ht e

theorem equal_trans {s t r : TypedHeader} (hs : s.Sound) (ht : t.Sound) (e₁ : s.equal t = true)
    (e₂ : t.equal r = true) : s.equal r = true := by
  cases s <;> simp only [Sound] at hs <;> cases t <;> simp only [Sound] at ht <;>
    try exact absurd e₁ Bool.false_ne_true
  all_goals cases r <;> try exact absurd e₂ Bool.false_ne_true
  case alertInfo.alertInfo.alertInfo | callInfo.callInfo.callInfo | errorInfo.errorInfo.errorInfo =>
    exact UriWithParams.equivalenceOn.list.trans hs ht e₁ e₂
  case contact.contact.contact => exact Contact.equivalenceOn.trans hs ht e₁ e₂
  case fromAddr.fromAddr.fromAddr | toAddr.toAddr.toAddr | replyTo.replyTo.replyTo =>
    exact NameAddr.equivalenceOn.trans hs ht e₁ e₂
  case recordRoute.recordRoute.recordRoute | route.route.route =>
    exact NameAddr.equivalenceOn.list.trans hs ht e₁ e₂
  case via.via.via => exact ViaHop.equivalenceOn.list.trans hs ht e₁ e₂

theorem equivalenceOn : EquivalenceOn Sound equal := ⟨equal_refl, equal_symm, equal_trans⟩

end TypedHeader

end SipCodec
