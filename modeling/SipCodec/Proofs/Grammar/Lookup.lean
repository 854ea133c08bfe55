import SipCodec.Proofs.Grammar.Matches
import SipCodec.Grammar.Rules

/-! Looking up the parts of a match: a node that a rule requires is found in every match of it
(`Finds`), so the readers never fall back to an empty text for it. -/

namespace SipCodec.Grammar

namespace Node

theorem find?_self (key : String) (text : Bytes) (children : List Node) :
    (Node.mk key text children).find? key = some (.mk key text children) := by
  simp [find?]

theorem findIn?_isSome_of_mem {k : String} {ns : List Node} {c : Node} (member : c ∈ ns)
    (found : (c.find? k).isSome) : (findIn? k ns).isSome := by
  induction ns with
  | nil => cases member
  | cons n ns ih =>
    rw [findIn?]
    split
    · rfl
    · rename_i missing
      rcases List.mem_cons.1 member with rfl | later
      · rw [missing] at found
        cases found
      · exact ih later

theorem find?_isSome_of_child {k key : String} {text : Bytes} {cs : List Node} {c : Node}
    (member : c ∈ cs) (found : (c.find? k).isSome) : ((Node.mk key text cs).find? k).isSome := by
  rw [find?]
  split
  · rfl
  · exact findIn?_isSome_of_mem member found

theorem find?_of_ne {k key : String} (text : Bytes) (cs : List Node) (other : key ≠ k) :
    (Node.mk key text cs).find? k = findIn? k cs := by
  simp [find?, other]

theorem findIn?_eq_some {k : String} {ns : List Node} {m : Node} (found : findIn? k ns = some m) :
    ∃ c ∈ ns, c.find? k = some m := by
  induction ns with
  | nil => simp [findIn?] at found
  | cons n ns ih =>
    rw [findIn?] at found
    split at found
    · rename_i here
      cases found
      exact ⟨n, List.mem_cons_self, here⟩
    · obtain ⟨c, member, inner⟩ := ih found
      exact ⟨c, List.mem_cons_of_mem n member, inner⟩

end Node

/-- Every match of the rule, on every text, has a node named `k`. -/
def Finds (r : Rule) (k : String) : Prop :=
  ∀ s n rest, (n, rest) ∈ r s → (n.find? k).isSome

theorem Chain.mem {parts : List Rule} {s : Bytes} {nodes : List Node} {rest : Bytes}
    (chain : Chain parts s nodes rest) {r : Rule} (part : r ∈ parts) :
    ∃ n ∈ nodes, ∃ s' rest', (n, rest') ∈ r s' := by
  induction parts generalizing s nodes with
  | nil => cases part
  | cons first more ih =>
    obtain ⟨n, mid, tail, matched, chain, rfl⟩ := chain
    rcases List.mem_cons.1 part with rfl | later
    · exact ⟨n, List.mem_cons_self, s, mid, matched⟩
    · obtain ⟨m, member, s', rest', found⟩ := ih chain later
      exact ⟨m, List.mem_cons_of_mem n member, s', rest', found⟩

theorem Chain.mem_nodes {parts : List Rule} {s : Bytes} {nodes : List Node} {rest : Bytes}
    (chain : Chain parts s nodes rest) {c : Node} (member : c ∈ nodes) :
    ∃ r ∈ parts, ∃ s' rest', (c, rest') ∈ r s' := by
  induction parts generalizing s nodes with
  | nil =>
    obtain ⟨rfl, -⟩ := chain
    cases member
  | cons first more ih =>
    obtain ⟨n, mid, tail, matched, chain, rfl⟩ := chain
    rcases List.mem_cons.1 member with rfl | later
    · exact ⟨first, List.mem_cons_self, s, mid, matched⟩
    · obtain ⟨r, part, s', rest', found⟩ := ih chain later
      exact ⟨r, List.mem_cons_of_mem first part, s', rest', found⟩

private theorem mem_foldl_first {s : Bytes} {rules : List Rule} {acc : List (Node × Bytes)}
    {x : Node × Bytes}
    (member : x ∈ rules.foldl (fun acc r => if acc.isEmpty then r s else acc) acc) :
    x ∈ acc ∨ ∃ r ∈ rules, x ∈ r s := by
  induction rules generalizing acc with
  | nil => exact .inl member
  | cons r rules ih =>
    rw [List.foldl_cons] at member
    rcases ih member with earlier | later
    · split at earlier
      · exact .inr ⟨r, List.mem_cons_self, earlier⟩
      · exact .inl earlier
    · obtain ⟨r', part, found⟩ := later
      exact .inr ⟨r', List.mem_cons_of_mem r part, found⟩

theorem mem_altFirst {key : String} {rules : List Rule} {s : Bytes} {n : Node} {rest : Bytes}
    (matched : (n, rest) ∈ altFirst key rules s) :
    ∃ c, n = .mk key c.text [c] ∧ ∃ r ∈ rules, (c, rest) ∈ r s := by
  simp only [altFirst, List.mem_map, Prod.exists, Prod.mk.injEq] at matched
  obtain ⟨c, after, found, rfl, rfl⟩ := matched
  rcases mem_foldl_first found with none | ⟨r, part, inner⟩
  · cases none
  · exact ⟨c, rfl, r, part, inner⟩

namespace Finds

theorem literal (key : String) (word : Bytes) : Finds (literal key word) key := by
  intro s n rest matched
  obtain ⟨-, -, rfl, -⟩ := mem_literal.1 matched
  rw [Node.find?_self]
  rfl

theorem runOf (key : String) (step : Bytes → Nat) : Finds (runOf key step) key := by
  intro s n rest matched
  obtain ⟨-, rfl, -⟩ := mem_runOf.1 matched
  rw [Node.find?_self]
  rfl

theorem run (key : String) (ok : UInt8 → Bool) : Finds (run key ok) key :=
  runOf key _

theorem escapedRun (key : String) (ok : UInt8 → Bool) : Finds (escapedRun key ok) key :=
  runOf key _

theorem concat_self (key : String) (parts : List Rule) : Finds (concat key parts) key := by
  intro s n rest matched
  obtain ⟨nodes, -, rfl⟩ := mem_concat.1 matched
  rw [Node.find?_self]
  rfl

theorem altFirst_self (key : String) (rules : List Rule) : Finds (altFirst key rules) key := by
  intro s n rest matched
  obtain ⟨c, rfl, -⟩ := mem_altFirst matched
  rw [Node.find?_self]
  rfl

theorem concat {r : Rule} {k key : String} {parts : List Rule} (part : r ∈ parts)
    (finds : Finds r k) : Finds (concat key parts) k := by
  intro s n rest matched
  obtain ⟨nodes, chain, rfl⟩ := mem_concat.1 matched
  obtain ⟨c, member, s', rest', found⟩ := chain.mem part
  exact Node.find?_isSome_of_child member (finds s' c rest' found)

theorem matchRule {r : Rule} {k : String} (finds : Finds r k) {s : Bytes} {n : Node}
    (matched : Grammar.matchRule r s = .ok n) : (n.find? k).isSome := by
  obtain ⟨-, ⟨rest, chosen⟩, -⟩ := matchRule_eq_ok_iff.1 matched
  exact finds s n rest (mem_of_longest chosen)

end Finds

/-- The node named `k` that a lookup finds in a match of `r`, if any, is a match of `r'`. -/
def Within (r : Rule) (k : String) (r' : Rule) : Prop :=
  ∀ s n rest, (n, rest) ∈ r s → ∀ m, n.find? k = some m → ∃ s' rest', (m, rest') ∈ r' s'

namespace Within

variable {k : String} {r' : Rule}

theorem concat_self (key : String) (parts : List Rule) :
    Within (concat key parts) key (concat key parts) := by
  intro s n rest matched m found
  obtain ⟨nodes, -, rfl⟩ := mem_concat.1 matched
  rw [Node.find?_self] at found
  cases found
  exact ⟨s, rest, matched⟩

theorem literal {key : String} (word : Bytes) (other : key ≠ k) : Within (literal key word) k r' := by
  intro s n rest matched m found
  obtain ⟨-, -, rfl, -⟩ := mem_literal.1 matched
  simp [Node.find?_of_ne _ _ other, Node.findIn?] at found

theorem octet {c : UInt8} (other : String.singleton (Char.ofNat c.toNat) ≠ k) :
    Within (octet c) k r' :=
  literal _ other

theorem runOf {key : String} (step : Bytes → Nat) (other : key ≠ k) : Within (runOf key step) k r' := by
  intro s n rest matched m found
  obtain ⟨-, rfl, -⟩ := mem_runOf.1 matched
  simp [Node.find?_of_ne _ _ other, Node.findIn?] at found

theorem run {key : String} (ok : UInt8 → Bool) (other : key ≠ k) : Within (run key ok) k r' :=
  runOf _ other

theorem escapedRun {key : String} (ok : UInt8 → Bool) (other : key ≠ k) :
    Within (escapedRun key ok) k r' :=
  runOf _ other

theorem concat {key : String} {parts : List Rule} (other : key ≠ k)
    (each : ∀ p ∈ parts, Within p k r') : Within (concat key parts) k r' := by
  intro s n rest matched m found
  obtain ⟨nodes, chain, rfl⟩ := mem_concat.1 matched
  rw [Node.find?_of_ne _ _ other] at found
  obtain ⟨c, member, inner⟩ := Node.findIn?_eq_some found
  obtain ⟨p, part, s', rest', partMatched⟩ := chain.mem_nodes member
  exact each p part s' c rest' partMatched m inner

theorem optional {key : String} {r : Rule} (other : key ≠ k) (inner : Within r k r') :
    Within (optional key r) k r' := by
  intro s n rest matched m found
  rcases mem_optional.1 matched with ⟨rfl, -⟩ | ⟨c, innerMatched, rfl⟩
  · simp [Node.find?_of_ne _ _ other, Node.findIn?] at found
  · rw [Node.find?_of_ne _ _ other] at found
    obtain ⟨c', member, deeper⟩ := Node.findIn?_eq_some found
    rw [List.mem_singleton] at member
    subst member
    exact inner s c' rest innerMatched m deeper

theorem altFirst {key : String} {rules : List Rule} (other : key ≠ k)
    (each : ∀ p ∈ rules, Within p k r') : Within (altFirst key rules) k r' := by
  intro s n rest matched m found
  obtain ⟨c, rfl, p, part, innerMatched⟩ := mem_altFirst matched
  rw [Node.find?_of_ne _ _ other] at found
  obtain ⟨c', member, deeper⟩ := Node.findIn?_eq_some found
  rw [List.mem_singleton] at member
  subst member
  exact each p part s c' rest innerMatched m deeper

end Within

/-! ### The required parts of the rules -/

theorem messageHeader_finds_name : Finds messageHeader "header-name" := by
  unfold messageHeader
  exact Finds.concat List.mem_cons_self (Finds.run _ _)

theorem userinfo_finds_user : Finds userinfo "user" := by
  unfold userinfo
  exact Finds.concat List.mem_cons_self (Finds.escapedRun _ _)

theorem hostport_finds_host : Finds hostport "host" := by
  unfold hostport
  exact Finds.concat List.mem_cons_self (Finds.altFirst_self _ _)

theorem server_finds_hostport : Finds server "hostport" := by
  unfold server
  exact Finds.concat (List.mem_cons_of_mem _ List.mem_cons_self) (Finds.concat_self _ _)

theorem uriHeader_finds_name : Finds uriHeader "hname" := by
  unfold uriHeader
  exact Finds.concat List.mem_cons_self (Finds.escapedRun _ _)

theorem uriParameter_finds_name : Finds uriParameter "pname" := by
  unfold uriParameter
  exact Finds.concat (List.mem_cons_of_mem _ List.mem_cons_self) (Finds.escapedRun _ _)

theorem genericParam_finds_name : Finds genericParam "gen-name" := by
  unfold genericParam
  exact Finds.concat (by simp only [List.mem_cons, true_or, or_true])
    (Finds.run "gen-name" isGenericParamChar)

theorem versionNum_finds_digits : Finds versionNum "major" ∧ Finds versionNum "minor" := by
  unfold versionNum
  exact ⟨Finds.concat List.mem_cons_self (Finds.run _ _),
    Finds.concat (by simp only [List.mem_cons, true_or, or_true]) (Finds.run "minor" Octet.isDigit)⟩

theorem sipVersion_finds_digits : Finds sipVersion "major" ∧ Finds sipVersion "minor" := by
  unfold sipVersion
  have last : versionNum ∈ [literal "protocol-name" (lit "SIP"), octet 47, versionNum] := by
    simp only [List.mem_cons, true_or, or_true]
  exact ⟨Finds.concat last versionNum_finds_digits.1, Finds.concat last versionNum_finds_digits.2⟩

theorem sentVersion_finds_digits : Finds sentVersion "major" ∧ Finds sentVersion "minor" := by
  unfold sentVersion
  have last : versionNum ∈ [literal "protocol-name" (lit "SIP"), sws, octet 47, sws, versionNum] := by
    simp only [List.mem_cons, true_or, or_true]
  exact ⟨Finds.concat last versionNum_finds_digits.1, Finds.concat last versionNum_finds_digits.2⟩

/-! ### Parts found inside a server

A server is an optional user part and a host with its port. Neither part has a node of the
other's name, so the lookups of the two parts in a server's match find the matches of those
parts, and the lookups of their own required parts succeed in turn. -/

theorem userinfo_within_hostport : Within userinfo "hostport" hostport := by
  unfold userinfo
  refine Within.concat (by decide) ?_
  simp only [List.mem_cons, List.not_mem_nil, or_false, forall_eq_or_imp, forall_eq]
  refine ⟨Within.escapedRun _ (by decide),
    Within.optional (by decide) (Within.concat (by decide) ?_), Within.octet (by decide)⟩
  simp only [List.mem_cons, List.not_mem_nil, or_false, forall_eq_or_imp, forall_eq]
  exact ⟨Within.octet (by decide), Within.optional (by decide) (Within.escapedRun _ (by decide))⟩

theorem hostport_within_userinfo : Within hostport "userinfo" userinfo := by
  unfold hostport host
  refine Within.concat (by decide) ?_
  simp only [List.mem_cons, List.not_mem_nil, or_false, forall_eq_or_imp, forall_eq]
  refine ⟨Within.altFirst (by decide) ?_, Within.optional (by decide) (Within.concat (by decide) ?_)⟩
  · simp only [List.mem_cons, List.not_mem_nil, or_false, forall_eq_or_imp, forall_eq]
    refine ⟨Within.concat (by decide) ?_, Within.run _ (by decide)⟩
    simp only [List.mem_cons, List.not_mem_nil, or_false, forall_eq_or_imp, forall_eq]
    exact ⟨Within.octet (by decide), Within.run _ (by decide), Within.octet (by decide)⟩
  · simp only [List.mem_cons, List.not_mem_nil, or_false, forall_eq_or_imp, forall_eq]
    exact ⟨Within.octet (by decide), Within.run _ (by decide)⟩

theorem server_within_hostport : Within server "hostport" hostport := by
  unfold server
  refine Within.concat (by decide) ?_
  simp only [List.mem_cons, List.not_mem_nil, or_false, forall_eq_or_imp, forall_eq]
  exact ⟨Within.optional (by decide) userinfo_within_hostport, Within.concat_self _ _⟩

theorem server_within_userinfo : Within server "userinfo" userinfo := by
  unfold server
  refine Within.concat (by decide) ?_
  simp only [List.mem_cons, List.not_mem_nil, or_false, forall_eq_or_imp, forall_eq]
  exact ⟨Within.optional (by decide) (Within.concat_self _ _), hostport_within_userinfo⟩

theorem server_finds_host {s : Bytes} {n : Node} (matched : matchRule server s = .ok n) :
    ∃ m, n.find? "hostport" = some m ∧ (m.find? "host").isSome := by
  obtain ⟨-, ⟨rest, chosen⟩, -⟩ := matchRule_eq_ok_iff.1 matched
  have member := mem_of_longest chosen
  obtain ⟨m, found⟩ := Option.isSome_iff_exists.1 (server_finds_hostport s n rest member)
  obtain ⟨s', rest', inner⟩ := server_within_hostport s n rest member m found
  exact ⟨m, found, hostport_finds_host s' m rest' inner⟩

theorem server_userinfo_finds_user {s : Bytes} {n m : Node} (matched : matchRule server s = .ok n)
    (found : n.find? "userinfo" = some m) : (m.find? "user").isSome := by
  obtain ⟨-, ⟨rest, chosen⟩, -⟩ := matchRule_eq_ok_iff.1 matched
  obtain ⟨s', rest', inner⟩ := server_within_userinfo s n rest (mem_of_longest chosen) m found
  exact userinfo_finds_user s' m rest' inner

end SipCodec.Grammar
