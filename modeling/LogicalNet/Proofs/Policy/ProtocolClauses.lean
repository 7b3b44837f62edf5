import LogicalNet.Proofs.Outcome
import LogicalNet.Proofs.Policy.ExpressionText
import LogicalNet.Proofs.Policy.RulePackets

/-!
# The clauses of protocols

Some clauses are true only of packets that meet the clauses before them, so the
meaning of a list of clauses is stated for the headers that have met what came
before.  In that sense the clauses for the ports and for the types ask what the rule
asks, and so do the clauses of its protocol.
-/

namespace LogicalNet

/-! ## Clauses in sequence -/

/-- The clauses are read as terms on headers, which together ask `Q` of a header of which `W` is
known. -/
def Clause.Ask (W : IpHeader → Prop) (clauses : List Clause) (Q : IpHeader → Prop) : Prop :=
  ∃ terms, List.Forall₂ Clause.Denotes clauses terms ∧
    (∀ t ∈ terms, ∀ side group, t ≠ Term.member side group) ∧
    ∀ h, W h → ((∀ t ∈ terms, t.HoldsOf h) ↔ Q h)

namespace Clause.Ask

variable {W Q Q' : IpHeader → Prop} {clauses more : List Clause}

theorem nil (h : ∀ x, W x → Q x) : Ask W [] Q := by
  refine ⟨[], .nil, by simp, ?_⟩
  intro x hx
  simpa using h x hx

theorem one {c : Clause} {t : Term} (hc : Denotes c t)
    (ht : ∀ side group, t ≠ Term.member side group) (h : ∀ x, W x → (t.HoldsOf x ↔ Q x)) :
    Ask W [c] Q := by
  refine ⟨[t], .cons hc .nil, by simpa using ht, ?_⟩
  intro x hx
  simpa using h x hx

/-- The second list may rely on what the first one asks. -/
theorem append (h : Ask W clauses Q) (h' : Ask (fun x => W x ∧ Q x) more Q') :
    Ask W (clauses ++ more) (fun x => Q x ∧ Q' x) := by
  rcases h with ⟨terms, hread, hheader, hmean⟩
  rcases h' with ⟨terms', hread', hheader', hmean'⟩
  refine ⟨terms ++ terms', List.rel_append hread hread', ?_, ?_⟩
  · intro t ht
    rcases List.mem_append.mp ht with ht | ht
    · exact hheader t ht
    · exact hheader' t ht
  · intro x hx
    rw [List.forall_mem_append, hmean x hx]
    exact and_congr_right fun hq => hmean' x ⟨hx, hq⟩

/-- More may be known of the header. -/
theorem mono (h : Ask W clauses Q) (hw : ∀ x, Q' x → W x) : Ask Q' clauses Q := by
  rcases h with ⟨terms, hread, hheader, hmean⟩
  exact ⟨terms, hread, hheader, fun x hx => hmean x (hw x hx)⟩

theorem congr (h : Ask W clauses Q) (hq : ∀ x, W x → (Q x ↔ Q' x)) : Ask W clauses Q' := by
  rcases h with ⟨terms, hread, hheader, hmean⟩
  exact ⟨terms, hread, hheader, fun x hx => (hmean x hx).trans (hq x hx)⟩

end Clause.Ask

namespace SecurityRule

variable {r : SecurityRule}

/-! ## Ports -/

theorem portClauses_isOk_iff (r : SecurityRule) (t : Transport) :
    (∃ cs, r.portClauses t = .ok cs) ↔
      (r.portMin ≠ 0 → r.portMin.toNat ≤ 65535 ∧ r.portMax.toNat ≤ 65535 ∧
        (r.portMax = 0 ∨ r.portMin.toNat ≤ r.portMax.toNat)) := by
  have hgreatest : greatestPort.toNat = 65535 := rfl
  unfold portClauses
  simp only [Bool.or_eq_true, decide_eq_true_eq, UInt32.lt_iff_toNat_lt, hgreatest]
  split
  · rename_i hmin
    simp [hmin]
  · rename_i hmin
    split
    · simp [hmin]
      omega
    · split
      · rename_i hone
        have hrange : r.portMax = 0 ∨ r.portMin.toNat ≤ r.portMax.toNat := by
          rcases hone with h | h
          · exact .inl h
          · exact .inr (Nat.le_of_eq (by rw [h]))
        simp [hmin, hrange]
        omega
      · split
        · simp_all
        · simp [hmin]
          omega

/-- A term on the port of a protocol, of a header of that protocol. -/
theorem holdsOf_port {t : Transport} {x : IpHeader} (hx : x.protocol = t.number)
    (c : Comparison) (n : Nat) :
    (Term.number (.port t) c n).HoldsOf x ↔
      ∃ port, x.port = some port ∧ c.Holds port.toNat n := by
  simp [Term.HoldsOf, NumberField.value?, hx]

theorem ask_portClauses {t : Transport} {cs : List Clause} (h : r.portClauses t = .ok cs) :
    Clause.Ask (fun x => x.protocol = t.number) cs r.AdmitsPort := by
  unfold portClauses at h
  split at h
  · rename_i hmin
    cases h
    exact .nil fun x _ hne => absurd hmin hne
  · rename_i hmin
    split at h
    · cases h
    · split at h
      · rename_i hone
        cases h
        have hlast : (if r.portMax = 0 then r.portMin else r.portMax) = r.portMin := by
          simp only [Bool.or_eq_true, decide_eq_true_eq] at hone
          rcases hone with h | h <;> simp [h]
        refine .one (.portIs t r.portMin) (by simp) fun x hx => ?_
        rw [holdsOf_port hx, AdmitsPort, hlast]
        simp only [Comparison.Holds, ne_eq, hmin, not_false_eq_true, true_imp_iff]
        refine exists_congr fun n => and_congr_right fun _ => ?_
        omega
      · rename_i hone
        split at h
        · cases h
        · cases h
          have hlast : (if r.portMax = 0 then r.portMin else r.portMax) = r.portMax := by
            simp only [Bool.or_eq_true, decide_eq_true_eq, not_or] at hone
            rw [if_neg hone.1]
          have hfrom : Clause.Ask (fun x => x.protocol = t.number) [.portFrom t r.portMin]
              (fun x => ∃ n, x.port = some n ∧ r.portMin.toNat ≤ n.toNat) :=
            .one (.portFrom t r.portMin) (by simp) fun x hx => holdsOf_port hx _ _
          have hto : Clause.Ask (fun x => x.protocol = t.number ∧
                ∃ n, x.port = some n ∧ r.portMin.toNat ≤ n.toNat) [.portTo t r.portMax]
              (fun x => ∃ n, x.port = some n ∧ n.toNat ≤ r.portMax.toNat) :=
            .one (.portTo t r.portMax) (by simp) fun x hx => holdsOf_port hx.1 _ _
          refine (hfrom.append hto).congr fun x _ => ?_
          rw [AdmitsPort, hlast]
          cases x.port with
          | none =>
              simp [hmin]
          | some n =>
              simp [hmin]

/-! ## Types and codes -/

theorem icmpClauses_isOk_iff (r : SecurityRule) (v : Icmp) (field : IcmpField) (value : Int32) :
    (∃ cs, r.icmpClauses v field value = .ok cs) ↔ -1 ≤ value.toInt ∧ value.toInt ≤ 255 := by
  have hleast : (-1 : Int32).toInt = -1 := rfl
  have hgreatest : (255 : Int32).toInt = 255 := rfl
  unfold icmpClauses
  simp only [Bool.or_eq_true, decide_eq_true_eq, Int32.lt_iff_toInt_lt, hleast, hgreatest]
  split
  · simp
    omega
  · split
    · simp
      omega
    · simp
      omega

theorem ask_icmpClauses {v : Icmp} {field : IcmpField} {value : Int32} {cs : List Clause}
    (h : r.icmpClauses v field value = .ok cs) :
    Clause.Ask (fun x => x.family = v.family ∧ x.protocol = v.number) cs
      (fun x => AdmitsIcmpValue value (x.icmpField field)) := by
  have hleast : (-1 : Int32).toInt = -1 := rfl
  have hzero : (0 : Int32).toInt = 0 := rfl
  unfold icmpClauses at h
  simp only [Bool.or_eq_true, decide_eq_true_eq, Int32.lt_iff_toInt_lt, Int32.le_iff_toInt_le,
    hleast, hzero] at h
  split at h
  · cases h
  · split at h
    · rename_i hvalue
      cases h
      refine .one (.icmpIs v field hvalue) (by simp) fun x hx => ?_
      have hgiven : value.toInt ≠ -1 := by
        omega
      simp only [Term.HoldsOf, NumberField.value?, hx, and_self, if_true, Comparison.Holds,
        AdmitsIcmpValue, ne_eq, hgiven, not_false_eq_true, true_imp_iff]
      cases x.icmpField field with
      | none =>
          simp
      | some n =>
          simp
          omega
    · rename_i hvalue
      cases h
      exact .nil fun x _ hne => absurd (by omega) hne

/-! ## The clauses of the protocol -/

theorem protocolClauses_isOk_iff (r : SecurityRule) :
    (∃ cs, r.protocolClauses = .ok cs) ↔
      (Protocol.ofText? r.protocol).isSome ∧
      (r.HasPorts → r.portMin ≠ 0 → r.portMin.toNat ≤ 65535 ∧ r.portMax.toNat ≤ 65535 ∧
        (r.portMax = 0 ∨ r.portMin.toNat ≤ r.portMax.toNat)) ∧
      (r.IsIcmp → (-1 ≤ r.icmpType.toInt ∧ r.icmpType.toInt ≤ 255) ∧
        (-1 ≤ r.icmpCode.toInt ∧ r.icmpCode.toInt ≤ 255)) := by
  unfold protocolClauses
  cases hp : Protocol.ofText? r.protocol with
  | none =>
      simp
  | some p =>
      cases p with
      | any =>
          have hname := not_hasPorts_of_any (protocolName_of_any hp)
          simp [hname]
      | transport t =>
          have hname := hasPorts_of_transport (protocolName_of_transport hp)
          have hok := portClauses_isOk_iff r t
          simp only [hname, true_imp_iff, false_imp_iff, and_true, Option.isSome_some, true_and]
          rw [← hok]
          exact Outcome.exists_bind_eq_ok_iff fun ports => ⟨_, rfl⟩
      | icmp v =>
          have hname := isIcmp_of_icmp (protocolName_of_icmp hp)
          have hkind := icmpClauses_isOk_iff r v .kind r.icmpType
          have hcode := icmpClauses_isOk_iff r v .code r.icmpCode
          simp only [hname.1, hname.2.1, true_imp_iff, false_imp_iff, Option.isSome_some, true_and]
          rw [← hkind, ← hcode]
          constructor
          · intro hfound
            rcases hfound with ⟨cs, h⟩
            rcases Outcome.bind_eq_ok_iff.mp h with ⟨kind, hk, h⟩
            rcases Outcome.bind_eq_ok_iff.mp h with ⟨code, hc, _⟩
            exact ⟨⟨kind, hk⟩, ⟨code, hc⟩⟩
          · intro hfound
            rcases hfound with ⟨⟨kind, hk⟩, ⟨code, hc⟩⟩
            rw [hk, hc]
            exact ⟨_, rfl⟩
      | number n =>
          have hname := protocolName_of_number hp
          simp [hname]

theorem ask_protocolClauses {f : Family} {cs : List Clause} (h : r.protocolClauses = .ok cs) :
    Clause.Ask (fun x => x.family = f) cs r.AdmitsProtocol := by
  unfold protocolClauses at h
  cases hp : Protocol.ofText? r.protocol with
  | none =>
      rw [hp] at h
      cases h
  | some p =>
      rw [hp] at h
      cases p with
      | any =>
          cases h
          rcases not_hasPorts_of_any (protocolName_of_any hp) with ⟨hports, hicmp, hnumber⟩
          refine .nil fun x _ => ?_
          rw [admitsProtocol_iff hports hicmp, hnumber]
          simp
      | transport t =>
          rcases Outcome.bind_eq_ok_iff.mp h with ⟨ports, hports, hcs⟩
          cases hcs
          have hfirst : Clause.Ask (fun x => x.family = f) [.transport t]
              (fun x => x.protocol = t.number) :=
            .one (.transport t) (by simp) fun x _ => Iff.rfl
          refine (hfirst.append ((ask_portClauses hports).mono fun x hx => hx.2)).congr ?_
          intro x _
          exact (admitsProtocol_iff_of_transport (protocolName_of_transport hp) x).symm
      | icmp v =>
          rcases Outcome.bind_eq_ok_iff.mp h with ⟨kind, hkind, h⟩
          rcases Outcome.bind_eq_ok_iff.mp h with ⟨code, hcode, hcs⟩
          cases hcs
          have hfirst : Clause.Ask (fun x => x.family = f) [.icmp v]
              (fun x => x.family = v.family ∧ x.protocol = v.number) :=
            .one (.icmp v) (by simp) fun x _ => Iff.rfl
          have hboth := (hfirst.append ((ask_icmpClauses hkind).mono fun x hx => hx.2)).append
            ((ask_icmpClauses hcode).mono fun x hx => hx.2.1)
          refine hboth.congr fun x _ => ?_
          exact (admitsProtocol_iff_of_icmp (protocolName_of_icmp hp) x).symm
      | number n =>
          cases h
          rcases protocolName_of_number hp with ⟨hnumber, hports, hicmp⟩
          refine .one (.protocolIs n) (by simp) fun x _ => ?_
          rw [admitsProtocol_iff hports hicmp, hnumber]
          simp only [Term.HoldsOf, NumberField.value?, Comparison.Holds, Option.some.injEq,
            exists_eq_left', forall_eq']
          exact UInt8.toNat_inj

end SecurityRule
end LogicalNet
