import SipCodec.Typed.NameAddr
import SipCodec.Proofs.Text.Folding
import Mathlib.Data.List.Perm.Subperm
import Mathlib.Data.List.Pairwise
import Mathlib.Data.List.Nodup

/-! Parameter-list equality is an equivalence on lists whose names fold and lower alike, and it is
lopsided on a name such as `tranſport` that does not. -/

namespace SipCodec

namespace ParamKind

/-- The kind of a name read by folding: the known kind whose name folds onto it. -/
def ofFold (s : Bytes) : ParamKind :=
  (known.find? fun k => Bytes.eqFold (lit k.name) s).getD .other

theorem ofFold_congr {s t : Bytes} (h : Bytes.eqFold s t = true) : ofFold s = ofFold t := by
  have same : (fun k : ParamKind => Bytes.eqFold (lit k.name) s) =
      fun k => Bytes.eqFold (lit k.name) t := by
    funext k
    rw [Bytes.eqFold_comm, Bytes.eqFold_congr_left h, Bytes.eqFold_comm]
  simp only [ofFold, same]

end ParamKind

namespace Param

/-- The kind read from the name by lower-casing is the kind read by folding. -/
def Coherent (p : Param) : Prop := p.kind = ParamKind.ofFold p.name

instance (p : Param) : Decidable p.Coherent := inferInstanceAs (Decidable (_ = _))

theorem kind_eq_of_eqFold {p q : Param} (hp : p.Coherent) (hq : q.Coherent)
    (h : Bytes.eqFold p.name q.name = true) : p.kind = q.kind := by
  rw [hp, hq, ParamKind.ofFold_congr h]

/-- Whether the values of parameters of a kind compare exactly rather than up to case. -/
def exactValues : ParamKind → Bool
  | .other | .branch | .tag => true
  | _ => false

/-- How the values of two parameters compare, by the kind of the first one's name. -/
def valuesMatch (k : ParamKind) : Option Bytes → Option Bytes → Bool
  | none, none => true
  | some x, some y => if exactValues k then x == y else Bytes.eqFold x y
  | _, _ => false

theorem equal_eq (a b : Param) :
    a.equal b = (Bytes.eqFold a.name b.name && valuesMatch a.kind a.value b.value) := by
  unfold equal valuesMatch
  rcases a.value with _ | x <;> rcases b.value with _ | y <;> try rfl
  cases a.kind <;> rfl

theorem valuesMatch_refl (k : ParamKind) (v : Option Bytes) : valuesMatch k v v = true := by
  rcases v with _ | x
  · rfl
  · simp only [valuesMatch]
    split <;> simp

theorem valuesMatch_symm {k : ParamKind} {v w : Option Bytes} (h : valuesMatch k v w = true) :
    valuesMatch k w v = true := by
  rcases v with _ | x <;> rcases w with _ | y <;> simp only [valuesMatch, reduceCtorEq] at h ⊢
  split
  · rename_i exact
    rw [if_pos exact, beq_iff_eq] at h
    rw [beq_iff_eq, h]
  · rename_i folded
    rw [if_neg folded] at h
    exact Bytes.eqFold_symm h

theorem valuesMatch_trans {k : ParamKind} {u v w : Option Bytes} (h₁ : valuesMatch k u v = true)
    (h₂ : valuesMatch k v w = true) : valuesMatch k u w = true := by
  rcases u with _ | x <;> rcases v with _ | y <;> rcases w with _ | z <;>
    simp only [valuesMatch, reduceCtorEq] at h₁ h₂ ⊢
  split
  · rename_i exact
    rw [if_pos exact, beq_iff_eq] at h₁ h₂
    rw [beq_iff_eq, h₁, h₂]
  · rename_i folded
    rw [if_neg folded] at h₁ h₂
    exact Bytes.eqFold_trans h₁ h₂

@[simp] theorem equal_self (p : Param) : p.equal p = true := by
  simp [equal_eq, valuesMatch_refl]

theorem equal_symm {p q : Param} (same : p.kind = q.kind) (h : p.equal q = true) :
    q.equal p = true := by
  rw [equal_eq, Bool.and_eq_true] at h ⊢
  exact ⟨Bytes.eqFold_symm h.1, same ▸ valuesMatch_symm h.2⟩

theorem equal_trans {p q r : Param} (same : p.kind = q.kind) (h₁ : p.equal q = true)
    (h₂ : q.equal r = true) : p.equal r = true := by
  rw [equal_eq, Bool.and_eq_true] at h₁ h₂ ⊢
  exact ⟨Bytes.eqFold_trans h₁.1 h₂.1, valuesMatch_trans h₁.2 (same ▸ h₂.2)⟩

end Param

namespace Params

/-- No two parameters of the list have names equal up to case. -/
def Distinct (ps : List Param) : Prop := ps.Pairwise fun p q => Bytes.eqFold p.name q.name = false

/-- The lists on which parameter-list equality is an equivalence: distinct names, each
classified alike by lower-casing and by folding. -/
def Sound (ps : List Param) : Prop := Distinct ps ∧ ∀ p ∈ ps, p.Coherent

instance : DecidablePred Distinct := fun ps => inferInstanceAs (Decidable (List.Pairwise _ ps))

instance : DecidablePred Sound := fun _ => inferInstanceAs (Decidable (_ ∧ _))

theorem Distinct.nodup {ps : List Param} (d : Distinct ps) : ps.Nodup :=
  d.imp fun {p q} differ same => by simp [same] at differ

theorem Distinct.eq_of_eqFold {ps : List Param} (d : Distinct ps) {p q : Param} (hp : p ∈ ps)
    (hq : q ∈ ps) (h : Bytes.eqFold p.name q.name = true) : p = q := by
  have symm : Std.Symm fun p q : Param => Bytes.eqFold p.name q.name = false :=
    ⟨fun p q h => by rwa [Bytes.eqFold_comm]⟩
  by_contra differ
  have apart := List.Pairwise.forall d hp hq differ
  simp [h] at apart

theorem get?_spec {ps : List Param} {n : Bytes} {q : Param} (found : get? ps n = some q) :
    q ∈ ps ∧ Bytes.eqFold q.name n = true :=
  ⟨List.mem_of_find?_eq_some found, by simpa using List.find?_some found⟩

theorem get?_congr (ps : List Param) {n m : Bytes} (h : Bytes.eqFold n m = true) :
    get? ps n = get? ps m := by
  have same : (fun p : Param => Bytes.eqFold p.name n) = fun p => Bytes.eqFold p.name m := by
    funext p
    rw [Bytes.eqFold_comm, Bytes.eqFold_congr_left h, Bytes.eqFold_comm]
  simp only [get?, same]

theorem get?_of_mem {ps : List Param} (d : Distinct ps) {p : Param} (hp : p ∈ ps) :
    get? ps p.name = some p := by
  cases found : get? ps p.name with
  | none =>
    have missing := List.find?_eq_none.1 found p hp
    simp at missing
  | some q =>
    obtain ⟨hq, named⟩ := get?_spec found
    rw [d.eq_of_eqFold hq hp named]

theorem equal_iff {a b : List Param} :
    equal a b = true ↔
      a.length = b.length ∧ ∀ p ∈ a, ∃ q, get? b p.name = some q ∧ p.equal q = true := by
  simp only [equal, Bool.and_eq_true, beq_iff_eq, List.all_eq_true]
  refine and_congr_right fun _ => forall₂_congr fun p _ => ?_
  cases get? b p.name <;> simp

theorem equal_refl {ps : List Param} (d : Distinct ps) : equal ps ps = true :=
  equal_iff.2 ⟨rfl, fun p hp => ⟨p, get?_of_mem d hp, Param.equal_self p⟩⟩

private theorem partner_onto {a b : List Param} (da : Distinct a)
    (len : a.length = b.length) (found : ∀ p ∈ a, ∃ q, get? b p.name = some q)
    {q : Param} (hq : q ∈ b) : ∃ p ∈ a, get? b p.name = some q := by
  let partner := fun p : Param => (get? b p.name).getD p
  have partner_eq : ∀ p ∈ a, get? b p.name = some (partner p) := by
    intro p hp
    obtain ⟨q, hq⟩ := found p hp
    simp [partner, hq]
  have into : a.map partner ⊆ b := by
    intro q hq
    obtain ⟨p, hp, rfl⟩ := List.mem_map.1 hq
    exact (get?_spec (partner_eq p hp)).1
  have injective : ∀ x ∈ a, ∀ y ∈ a, partner x = partner y → x = y := by
    intro x hx y hy same
    have nx := (get?_spec (partner_eq x hx)).2
    have ny := (get?_spec (partner_eq y hy)).2
    rw [same] at nx
    exact da.eq_of_eqFold hx hy (Bytes.eqFold_trans (Bytes.eqFold_symm nx) ny)
  have perm : List.Perm (a.map partner) b :=
    (List.subperm_of_subset (List.Nodup.map_on injective da.nodup) into).perm_of_length_le
      (by simp [len])
  obtain ⟨p, hp, rfl⟩ := List.mem_map.1 (perm.mem_iff.2 hq)
  exact ⟨p, hp, partner_eq p hp⟩

theorem equal_symm {a b : List Param} (sa : Sound a) (sb : Sound b) (h : equal a b = true) :
    equal b a = true := by
  obtain ⟨len, matched⟩ := equal_iff.1 h
  refine equal_iff.2 ⟨len.symm, fun q hq => ?_⟩
  obtain ⟨p, hp, found⟩ :=
    partner_onto sa.1 len (fun p hp => (matched p hp).imp fun _ h => h.1) hq
  obtain ⟨q', found', equal⟩ := matched p hp
  rw [found] at found'
  cases found'
  have named := (get?_spec found).2
  refine ⟨p, ?_, Param.equal_symm ?_ equal⟩
  · rw [get?_congr a named, get?_of_mem sa.1 hp]
  · exact Param.kind_eq_of_eqFold (sa.2 p hp) (sb.2 q hq) (Bytes.eqFold_symm named)

theorem equal_trans {a b c : List Param} (ca : ∀ p ∈ a, p.Coherent) (cb : ∀ q ∈ b, q.Coherent)
    (h₁ : equal a b = true) (h₂ : equal b c = true) : equal a c = true := by
  obtain ⟨len₁, matched₁⟩ := equal_iff.1 h₁
  obtain ⟨len₂, matched₂⟩ := equal_iff.1 h₂
  refine equal_iff.2 ⟨len₁.trans len₂, fun p hp => ?_⟩
  obtain ⟨q, found, pq⟩ := matched₁ p hp
  obtain ⟨hq, named⟩ := get?_spec found
  obtain ⟨r, found', qr⟩ := matched₂ q hq
  refine ⟨r, ?_, Param.equal_trans ?_ pq qr⟩
  · rw [get?_congr c (Bytes.eqFold_symm named), found']
  · exact Param.kind_eq_of_eqFold (ca p hp) (cb q hq) (Bytes.eqFold_symm named)

end Params

namespace Host

theorem equal_refl (h : Host) : h.equal h = true := by
  cases h <;> simp [equal]

theorem equal_symm {g h : Host} (e : g.equal h = true) : h.equal g = true := by
  cases g <;> cases h <;> simp only [equal, beq_iff_eq, reduceCtorEq] at e ⊢
  · exact e.symm
  · exact Bytes.eqFold_symm e

theorem equal_trans {g h k : Host} (e₁ : g.equal h = true) (e₂ : h.equal k = true) :
    g.equal k = true := by
  cases g <;> cases h <;> cases k <;> simp_all [equal]
  exact Bytes.eqFold_trans e₁ e₂

end Host

namespace HostPort

theorem equal_refl (hp : HostPort) : hp.equal hp = true := by
  simp [equal, Host.equal_refl]

theorem equal_symm {a b : HostPort} (e : a.equal b = true) : b.equal a = true := by
  simp only [equal, Bool.and_eq_true, beq_iff_eq] at e ⊢
  exact ⟨e.1.symm, Host.equal_symm e.2⟩

theorem equal_trans {a b c : HostPort} (e₁ : a.equal b = true) (e₂ : b.equal c = true) :
    a.equal c = true := by
  simp only [equal, Bool.and_eq_true, beq_iff_eq] at e₁ e₂ ⊢
  exact ⟨e₁.1.trans e₂.1, Host.equal_trans e₁.2 e₂.2⟩

end HostPort

namespace Uri

/-- URI headers compare pairwise: names up to case, values exactly. -/
def headersMatch (a b : List (Bytes × Bytes)) : Bool :=
  a.length == b.length && (a.zip b).all fun (h, h') => Bytes.eqFold h.1 h'.1 && h.2 == h'.2

theorem equal_eq (a b : Uri) :
    a.equal b = (Bytes.eqFold a.schemeName b.schemeName && a.userinfo == b.userinfo &&
      a.hostPort.equal b.hostPort && a.path == b.path && Params.equal a.params b.params &&
      headersMatch a.headers b.headers) := by
  simp only [equal, headersMatch, Bool.and_assoc]

theorem headersMatch_refl (hs : List (Bytes × Bytes)) : headersMatch hs hs = true := by
  induction hs with
  | nil => rfl
  | cons h hs ih =>
    simp only [headersMatch, List.zip_cons_cons, List.all_cons, Bool.and_eq_true, beq_iff_eq,
      Bytes.eqFold_self, and_true, true_and] at ih ⊢
    exact ih

theorem headersMatch_symm {a b : List (Bytes × Bytes)} (e : headersMatch a b = true) :
    headersMatch b a = true := by
  induction a generalizing b with
  | nil => cases b <;> simp_all [headersMatch]
  | cons h a ih =>
    cases b with
    | nil => simp [headersMatch] at e
    | cons h' b =>
      simp only [headersMatch, List.length_cons, List.zip_cons_cons, List.all_cons,
        Bool.and_eq_true, beq_iff_eq, Nat.add_right_cancel_iff] at e ih ⊢
      obtain ⟨len, ⟨names, values⟩, rest⟩ := e
      exact ⟨len.symm, ⟨Bytes.eqFold_symm names, values.symm⟩, (ih ⟨len, rest⟩).2⟩

theorem headersMatch_trans {a b c : List (Bytes × Bytes)} (e₁ : headersMatch a b = true)
    (e₂ : headersMatch b c = true) : headersMatch a c = true := by
  induction a generalizing b c with
  | nil => cases b <;> cases c <;> simp_all [headersMatch]
  | cons h a ih =>
    cases b with
    | nil => simp [headersMatch] at e₁
    | cons h' b =>
      cases c with
      | nil => simp [headersMatch] at e₂
      | cons h'' c =>
        simp only [headersMatch, List.length_cons, List.zip_cons_cons, List.all_cons,
          Bool.and_eq_true, beq_iff_eq, Nat.add_right_cancel_iff] at e₁ e₂ ih ⊢
        obtain ⟨len₁, ⟨names₁, values₁⟩, rest₁⟩ := e₁
        obtain ⟨len₂, ⟨names₂, values₂⟩, rest₂⟩ := e₂
        exact ⟨len₁.trans len₂, ⟨Bytes.eqFold_trans names₁ names₂, values₁.trans values₂⟩,
          (ih ⟨len₁, rest₁⟩ ⟨len₂, rest₂⟩).2⟩

theorem equal_refl (u : Uri) (d : Params.Distinct u.params) : u.equal u = true := by
  simp [equal_eq, HostPort.equal_refl, Params.equal_refl d, headersMatch_refl]

theorem equal_symm {u v : Uri} (su : Params.Sound u.params) (sv : Params.Sound v.params)
    (e : u.equal v = true) : v.equal u = true := by
  simp only [equal_eq, Bool.and_eq_true, beq_iff_eq] at e ⊢
  obtain ⟨⟨⟨⟨⟨scheme, userinfo⟩, hostPort⟩, path⟩, params⟩, headers⟩ := e
  exact ⟨⟨⟨⟨⟨Bytes.eqFold_symm scheme, userinfo.symm⟩, HostPort.equal_symm hostPort⟩, path.symm⟩,
    Params.equal_symm su sv params⟩, headersMatch_symm headers⟩

theorem equal_trans {u v w : Uri} (su : Params.Sound u.params) (sv : Params.Sound v.params)
    (e₁ : u.equal v = true) (e₂ : v.equal w = true) : u.equal w = true := by
  simp only [equal_eq, Bool.and_eq_true, beq_iff_eq] at e₁ e₂ ⊢
  obtain ⟨⟨⟨⟨⟨scheme₁, userinfo₁⟩, hostPort₁⟩, path₁⟩, params₁⟩, headers₁⟩ := e₁
  obtain ⟨⟨⟨⟨⟨scheme₂, userinfo₂⟩, hostPort₂⟩, path₂⟩, params₂⟩, headers₂⟩ := e₂
  exact ⟨⟨⟨⟨⟨Bytes.eqFold_trans scheme₁ scheme₂, userinfo₁.trans userinfo₂⟩,
    HostPort.equal_trans hostPort₁ hostPort₂⟩, path₁.trans path₂⟩,
    Params.equal_trans su.2 sv.2 params₁ params₂⟩, headersMatch_trans headers₁ headers₂⟩

end Uri

namespace UriWithParams

/-- A URI with header parameters whose two parameter lists are both sound. -/
def Sound (wp : UriWithParams) : Prop := Params.Sound wp.uri.params ∧ Params.Sound wp.params

instance : DecidablePred Sound := fun _ => inferInstanceAs (Decidable (_ ∧ _))

theorem equal_refl (wp : UriWithParams) (s : wp.Sound) : wp.equal wp = true := by
  simp [equal, Uri.equal_refl wp.uri s.1.1, Params.equal_refl s.2.1]

theorem equal_symm {a b : UriWithParams} (sa : a.Sound) (sb : b.Sound) (e : a.equal b = true) :
    b.equal a = true := by
  simp only [equal, Bool.and_eq_true] at e ⊢
  exact ⟨Uri.equal_symm sa.1 sb.1 e.1, Params.equal_symm sa.2 sb.2 e.2⟩

theorem equal_trans {a b c : UriWithParams} (sa : a.Sound) (sb : b.Sound) (e₁ : a.equal b = true)
    (e₂ : b.equal c = true) : a.equal c = true := by
  simp only [equal, Bool.and_eq_true] at e₁ e₂ ⊢
  exact ⟨Uri.equal_trans sa.1 sb.1 e₁.1 e₂.1, Params.equal_trans sa.2.2 sb.2.2 e₁.2 e₂.2⟩

end UriWithParams

namespace NameAddr

/-- An address whose URI parameters and header parameters are both sound lists. -/
def Sound (a : NameAddr) : Prop := Params.Sound a.uri.params ∧ Params.Sound a.params

instance : DecidablePred Sound := fun _ => inferInstanceAs (Decidable (_ ∧ _))

theorem equal_refl (a : NameAddr) (s : a.Sound) : a.equal a = true := by
  simp [equal, Uri.equal_refl a.uri s.1.1, Params.equal_refl s.2.1]

theorem equal_symm {a b : NameAddr} (sa : a.Sound) (sb : b.Sound) (e : a.equal b = true) :
    b.equal a = true := by
  simp only [equal, Bool.and_eq_true] at e ⊢
  exact ⟨Uri.equal_symm sa.1 sb.1 e.1, Params.equal_symm sa.2 sb.2 e.2⟩

theorem equal_trans {a b c : NameAddr} (sa : a.Sound) (sb : b.Sound) (e₁ : a.equal b = true)
    (e₂ : b.equal c = true) : a.equal c = true := by
  simp only [equal, Bool.and_eq_true] at e₁ e₂ ⊢
  exact ⟨Uri.equal_trans sa.1 sb.1 e₁.1 e₂.1, Params.equal_trans sa.2.2 sb.2.2 e₁.2 e₂.2⟩

end NameAddr

end SipCodec
