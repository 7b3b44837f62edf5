import LogicalNet.Proofs.Policy.ProtocolClauses

/-!
# The meaning of match expressions

What the expression of a rule says of a packet is what the rule says of it.  The
two sides have nothing in common but the packet: the expression is read as terms,
and the rule is taken by its fields.  The clause for the remote address is left out
where it follows from the family.
-/

namespace LogicalNet
namespace SecurityRule

variable {r : SecurityRule}

/-! ## The remote end -/

theorem addressClauses_isOk_iff (r : SecurityRule) :
    (∃ cs, r.addressClauses = .ok cs) ↔
      r.remoteText = "" ∨ (NetAddress.ofText? r.remoteText).isSome := by
  unfold addressClauses
  split
  · rename_i hempty
    simp [String.isEmpty_iff.mp hempty]
  · rename_i hempty
    have hne : r.remoteText ≠ "" := by
      simpa [String.isEmpty_iff] using hempty
    cases NetAddress.ofText? r.remoteText <;> simp [hne]

/-- The family that goes by the colon is that of the address. -/
theorem addressFamily_eq_ip6_iff (r : SecurityRule) :
    r.addressFamily = .ip6 ↔ ':' ∈ r.remoteAddress.toList := by
  have hmem := Text.mem_trim_iff (c := ':') (by decide) r.remoteAddress
  unfold addressFamily remoteText
  rw [← hmem]
  simp

theorem isV6_eq_addressFamily {a : NetAddress} (h : NetAddress.ofText? r.remoteText = some a) :
    a.isV6 = (r.addressFamily == .ip6) := by
  have hv6 : a.isV6 = true ↔ ':' ∈ r.remoteText.toList := NetAddress.isV6_iff_of_ofChars? h
  unfold addressFamily
  cases ha : a.isV6 <;> simp_all

theorem ask_addressClauses {cs : List Clause} (h : r.addressClauses = .ok cs) :
    Clause.Ask (fun x => x.family = r.addressFamily) cs r.AdmitsAddress := by
  unfold addressClauses at h
  split at h
  · rename_i hempty
    cases h
    refine .nil fun x _ a ha => ?_
    rw [String.isEmpty_iff.mp hempty] at ha
    cases ha
  · cases ha : NetAddress.ofText? r.remoteText with
    | none =>
        rw [ha] at h
        cases h
    | some a =>
        rw [ha] at h
        cases h
        have hv6 := isV6_eq_addressFamily ha
        have hfield : ∀ x : IpHeader,
            r.direction.remoteIp x = r.direction.addressField.ip x := by
          intro x
          cases r.direction <;> rfl
        have hadmits : ∀ x, r.AdmitsAddress x ↔ a.Covers (r.direction.addressField.ip x) := by
          intro x
          unfold AdmitsAddress
          rw [hfield, ha]
          simp
        split
        · rename_i hany
          refine .nil fun x hx => (hadmits x).mpr (NetAddress.covers_of_isAny hany ?_)
          rw [IpHeader.isV6_ip, hx, hv6]
        · refine .one (.address r.direction ha hv6) (by simp) fun x hx => ?_
          rw [hadmits x]
          simp [Term.HoldsOf, hx]

/-! ## The expression of a rule -/

theorem clauses_isOk_iff (r : SecurityRule) (group : String) :
    (∃ cs, r.clauses group = .ok cs) ↔ r.Compiles := by
  have hprotocol := protocolClauses_isOk_iff r
  rw [protocol_isSome_iff] at hprotocol
  have haddress := addressClauses_isOk_iff r
  constructor
  · intro hfound
    rcases hfound with ⟨cs, h⟩
    rcases Outcome.bind_eq_ok_iff.mp h with ⟨protocol, hp, h⟩
    rcases Outcome.bind_eq_ok_iff.mp h with ⟨address, ha, _⟩
    rcases hprotocol.mp ⟨protocol, hp⟩ with ⟨hname, hports, hicmp⟩
    exact ⟨hname, hports, hicmp, haddress.mp ⟨address, ha⟩⟩
  · intro h
    rcases hprotocol.mpr ⟨h.protocol, h.ports, h.icmp⟩ with ⟨protocol, hp⟩
    rcases haddress.mpr h.address with ⟨address, ha⟩
    exact ⟨_, Outcome.bind_eq_ok_iff.mpr ⟨protocol, hp,
      Outcome.bind_eq_ok_iff.mpr ⟨address, ha, rfl⟩⟩⟩

/-- A group of plain letters has a port group with a plain name. -/
theorem isName_portGroup {group : String} (h : Expression.IsName group) :
    Expression.IsName (Name.portGroup group) := by
  have hmem : ∀ c : Char, c ≠ '_' → c ∉ group.toList → c ∉ (Name.underscored group).toList := by
    intro c hc hnot
    rw [Name.underscored, String.toList_ofList]
    intro hin
    rcases List.mem_map.mp hin with ⟨d, hd, hdc⟩
    split at hdc
    · exact hc hdc.symm
    · subst hdc
      exact hnot hd
  unfold Expression.IsName Name.portGroup
  rw [String.toList_append]
  constructor
  · simpa using hmem ' ' (by decide) h.1
  · simpa using hmem '&' (by decide) h.2

theorem ask_headerClauses {protocol address : List Clause} (hp : r.protocolClauses = .ok protocol)
    (ha : r.addressClauses = .ok address) :
    Clause.Ask (fun _ => True) (.family r.addressFamily :: (protocol ++ address))
      r.AdmitsHeader := by
  have hfamily : Clause.Ask (fun _ => True) [.family r.addressFamily]
      (fun x => x.family = r.addressFamily) :=
    .one (.family _) (by simp) fun x _ => Iff.rfl
  have hprotocol := hfamily.append ((ask_protocolClauses hp).mono fun x hx => hx.2)
  have hall := hprotocol.append ((ask_addressClauses ha).mono fun x hx => hx.2.1)
  refine hall.congr fun x _ => ?_
  have hcolon : x.family = r.addressFamily ↔
      (x.family = .ip6 ↔ ':' ∈ r.remoteAddress.toList) := by
    rw [← addressFamily_eq_ip6_iff]
    cases x.family <;> cases r.addressFamily <;> simp
  constructor
  · intro hfound
    rcases hfound with ⟨⟨hf, hprotocol⟩, haddress⟩
    exact ⟨hcolon.mp hf, hprotocol, haddress⟩
  · intro hfound
    rcases hfound with ⟨hf, hprotocol, haddress⟩
    exact ⟨⟨hcolon.mpr hf, hprotocol⟩, haddress⟩

/-- The terms of the clauses on the header need a header. -/
theorem holds_iff_of_header {members : Membership} {p : Packet} {t : Term}
    (h : ∀ side group, t ≠ Term.member side group) :
    t.Holds members p ↔ ∃ x, p.header = some x ∧ t.HoldsOf x := by
  cases t with
  | member side group =>
      exact absurd rfl (h side group)
  | _ =>
      exact Iff.rfl

theorem forall_holds_iff_of_header {members : Membership} {p : Packet} {terms : List Term}
    (hne : terms ≠ []) (h : ∀ t ∈ terms, ∀ side group, t ≠ Term.member side group) :
    (∀ t ∈ terms, t.Holds members p) ↔
      ∃ x, p.header = some x ∧ ∀ t ∈ terms, t.HoldsOf x := by
  constructor
  · intro hall
    cases hx : p.header with
    | none =>
        rcases List.exists_mem_of_ne_nil terms hne with ⟨t, ht⟩
        rcases (holds_iff_of_header (h t ht)).mp (hall t ht) with ⟨x, hx', _⟩
        rw [hx] at hx'
        cases hx'
    | some x =>
        refine ⟨x, rfl, fun t ht => ?_⟩
        rcases (holds_iff_of_header (h t ht)).mp (hall t ht) with ⟨y, hy, hholds⟩
        rw [hx] at hy
        cases hy
        exact hholds
  · intro hfound t ht
    rcases hfound with ⟨x, hx, hall⟩
    exact (holds_iff_of_header (h t ht)).mpr ⟨x, hx, hall t ht⟩

theorem forall₂_groupClauses (h : Expression.IsName r.remoteGroup) :
    ∃ terms, List.Forall₂ Clause.Denotes r.groupClauses terms ∧
      ∀ (members : Membership) (p : Packet), (∀ t ∈ terms, t.Holds members p) ↔
        (r.remoteGroup ≠ "" →
          members (Name.portGroup r.remoteGroup) (r.direction.remotePort p)) := by
  unfold groupClauses
  split
  · rename_i hempty
    refine ⟨[], .nil, fun members p => ?_⟩
    simp [String.isEmpty_iff.mp hempty]
  · rename_i hempty
    have hne : r.remoteGroup ≠ "" := by
      simpa [String.isEmpty_iff] using hempty
    refine ⟨[.member (.ofRemote r.direction) (Name.portGroup r.remoteGroup)],
      .cons (.port (isName_portGroup h)) .nil, fun members p => ?_⟩
    have hport : r.direction.remotePort p = (PortSide.ofRemote r.direction).port p := by
      cases r.direction <;> rfl
    rw [hport]
    simp [Term.Holds, hne]

/-- A rule has an expression exactly if its protocol, ports, types and address are in order, and the
expression holds of the packets that the rule admits and of no others. -/
theorem matchText_meaning (r : SecurityRule) (group : String) :
    ((∃ text, r.matchText group = .ok text) ↔ r.Compiles) ∧
    ∀ text, r.matchText group = .ok text → Expression.IsName group →
      Expression.IsName r.remoteGroup →
      ∃ terms, Expression.read? text = some terms ∧
        ∀ (members : Membership) (p : Packet),
          (∀ t ∈ terms, t.Holds members p) ↔ r.Admits group members p := by
  constructor
  · rw [← clauses_isOk_iff r group]
    exact Outcome.exists_bind_eq_ok_iff fun cs => ⟨_, rfl⟩
  · intro text h hgroup hremote
    rcases Outcome.bind_eq_ok_iff.mp h with ⟨cs, hcs, htext⟩
    cases htext
    rcases Outcome.bind_eq_ok_iff.mp hcs with ⟨protocol, hp, hcs⟩
    rcases Outcome.bind_eq_ok_iff.mp hcs with ⟨address, ha, hcs⟩
    cases hcs
    rcases ask_headerClauses hp ha with ⟨header, hread, hheader, hmean⟩
    rcases forall₂_groupClauses hremote with ⟨remote, hread', hmean'⟩
    have hclauses : [.port (.ofMember r.direction) group, .family r.addressFamily] ++ protocol ++
        address ++ r.groupClauses = .port (.ofMember r.direction) group ::
          ((.family r.addressFamily :: (protocol ++ address)) ++ r.groupClauses) := by
      simp
    have hterms : List.Forall₂ Clause.Denotes
        ([.port (.ofMember r.direction) group, .family r.addressFamily] ++ protocol ++ address ++
          r.groupClauses) (.member (.ofMember r.direction) group :: (header ++ remote)) := by
      rw [hclauses]
      exact .cons (.port hgroup) (List.rel_append hread hread')
    refine ⟨_, Expression.read?_join (by simp) hterms, fun members p => ?_⟩
    have hne : header ≠ [] := by
      intro hnil
      subst hnil
      cases hread
    have hport : r.direction.memberPort p = (PortSide.ofMember r.direction).port p := by
      cases r.direction <;> rfl
    rw [List.forall_mem_cons, List.forall_mem_append, hmean',
      forall_holds_iff_of_header hne hheader]
    constructor
    · intro hfound
      rcases hfound with ⟨hmember, ⟨x, hx, hall⟩, hgroups⟩
      refine ⟨?_, ⟨x, hx, (hmean x trivial).mp hall⟩, hgroups⟩
      rw [hport]
      exact hmember
    · intro hfound
      rcases hfound with ⟨hmember, ⟨x, hx, hall⟩, hgroups⟩
      rw [hport] at hmember
      exact ⟨hmember, ⟨x, hx, (hmean x trivial).mpr hall⟩, hgroups⟩

/-- HTTP and HTTPS from the machines of a subnet that are in a group. -/
def webFromSubnet : SecurityRule where
  id := "web"
  direction := .ingress
  protocol := "TCP"
  portMin := 80
  portMax := 443
  remoteAddress := " 10.0.0.0/8"
  remoteGroup := "front-end"

theorem matchText_meaning_webFromSubnet :
    ∃ terms, Expression.read? ("outport == @pg_sg_web && ip4 && tcp && tcp.dst >= 80 && " ++
        "tcp.dst <= 443 && ip4.src == 10.0.0.0/8 && inport == @pg_sg_front_end") = some terms ∧
      ∀ (members : Membership) (p : Packet),
        (∀ t ∈ terms, t.Holds members p) ↔ webFromSubnet.Admits "pg_sg_web" members p :=
  (matchText_meaning webFromSubnet "pg_sg_web").2 _ (by decide +kernel) (by decide) (by decide)

end SecurityRule
end LogicalNet
