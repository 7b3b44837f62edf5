import LogicalNet.Proofs.Policy.MatchMeaning

/-!
# Rules that no packet meets

A rule whose protocol belongs to the other family than its remote address compiles,
and no packet meets its expression.  Every other rule that compiles admits a packet,
given that its groups have ports: one can be made from the fields of the rule.  The
clauses are taken as terms first, for groups of any name, and read from the text
where the names are plain.
-/

namespace LogicalNet

/-! ## Clauses as terms -/

/-- The term that a clause stands for, whatever the name of the group. -/
inductive Clause.Means : Clause → Term → Prop where
  | port (side : PortSide) (group : String) : Means (.port side group) (.member side group)
  | other {c : Clause} {t : Term} (h : Denotes c t) : Means c t

/-- Clauses on groups of plain names are read as the terms they stand for. -/
theorem Clause.denotes_of_means {cs : List Clause} {terms : List Term}
    (h : List.Forall₂ Means cs terms)
    (hname : ∀ side group, .port side group ∈ cs → Expression.IsName group) :
    List.Forall₂ Denotes cs terms := by
  induction h with
  | nil =>
      exact .nil
  | cons hhead _ ih =>
      refine .cons ?_ (ih fun side group hmem => hname side group (List.mem_cons_of_mem _ hmem))
      cases hhead with
      | port side group =>
          exact .port (hname side group List.mem_cons_self)
      | other h =>
          exact h

namespace SecurityRule

variable {r : SecurityRule} {group : String}

theorem means_groupClauses (r : SecurityRule) :
    ∃ terms, List.Forall₂ Clause.Means r.groupClauses terms ∧
      ∀ (members : Membership) (p : Packet), (∀ t ∈ terms, t.Holds members p) ↔
        (r.remoteGroup ≠ "" →
          members (Name.portGroup r.remoteGroup) (r.direction.remotePort p)) := by
  have hport : ∀ p : Packet,
      r.direction.remotePort p = (PortSide.ofRemote r.direction).port p := by
    intro p
    cases r.direction <;> rfl
  unfold groupClauses
  cases hempty : r.remoteGroup.isEmpty with
  | true =>
      refine ⟨[], .nil, fun members p => ?_⟩
      simp [String.isEmpty_iff.mp hempty]
  | false =>
      have hne : r.remoteGroup ≠ "" := by
        intro hgroup
        rw [hgroup] at hempty
        cases hempty
      refine ⟨_, .cons (.port _ _) .nil, fun members p => ?_⟩
      simp [Term.Holds, hne, hport]

/-- The clauses of a rule stand for terms that hold together of the packets it admits. -/
theorem means_clauses {cs : List Clause} (h : r.clauses group = .ok cs) :
    ∃ terms, List.Forall₂ Clause.Means cs terms ∧
      ∀ (members : Membership) (p : Packet),
        (∀ t ∈ terms, t.Holds members p) ↔ r.Admits group members p := by
  obtain ⟨protocol, hp, h⟩ := Outcome.bind_eq_ok_iff.mp h
  obtain ⟨address, ha, hcs⟩ := Outcome.bind_eq_ok_iff.mp h
  cases hcs
  obtain ⟨header, hdenotes, hheader, hmean⟩ := ask_headerClauses hp ha
  obtain ⟨remote, hremote, hmean'⟩ := means_groupClauses r
  have hclauses : [.port (.ofMember r.direction) group, .family r.addressFamily] ++ protocol ++
      address ++ r.groupClauses = .port (.ofMember r.direction) group ::
        ((.family r.addressFamily :: (protocol ++ address)) ++ r.groupClauses) := by
    simp
  have hterms : List.Forall₂ Clause.Means
      ([.port (.ofMember r.direction) group, .family r.addressFamily] ++ protocol ++ address ++
        r.groupClauses) (.member (.ofMember r.direction) group :: (header ++ remote)) := by
    rw [hclauses]
    exact .cons (.port _ _) (List.rel_append (hdenotes.imp fun _ _ => .other) hremote)
  refine ⟨_, hterms, fun members p => ?_⟩
  have hne : header ≠ [] := by
    intro hnil
    subst hnil
    cases hdenotes
  have hport : r.direction.memberPort p = (PortSide.ofMember r.direction).port p := by
    cases r.direction <;> rfl
  have hholds : (∃ x, p.header = some x ∧ ∀ t ∈ header, t.HoldsOf x) ↔
      ∃ x, p.header = some x ∧ r.AdmitsHeader x :=
    exists_congr fun x => and_congr_right fun _ => hmean x trivial
  rw [List.forall_mem_cons, List.forall_mem_append, hmean',
    forall_holds_iff_of_header hne hheader, hholds]
  constructor
  · intro hall
    refine ⟨?_, hall.2.1, hall.2.2⟩
    rw [hport]
    exact hall.1
  · intro hadmits
    have hmember := hadmits.member
    rw [hport] at hmember
    exact ⟨hmember, hadmits.header, hadmits.remote⟩

/-! ## A packet for every other rule -/

/-- The protocol belongs to the other family than the remote address, which is of version four where
there is none. -/
def MixesFamilies (r : SecurityRule) : Prop :=
  (r.protocolName = "icmp" ∧ ':' ∈ r.remoteAddress.toList) ∨
    (r.protocolName = "icmpv6" ∧ ':' ∉ r.remoteAddress.toList)

theorem not_mixesFamilies_of_admits {members : Membership} {p : Packet}
    (h : r.Admits group members p) : ¬ r.MixesFamilies := by
  obtain ⟨x, _, hx⟩ := h.header
  intro hmixes
  cases hmixes with
  | inl hmixes =>
      have hsix := hx.family.mpr hmixes.2
      rw [hx.protocol.icmp4 hmixes.1] at hsix
      cases hsix
  | inr hmixes =>
      exact hmixes.2 (hx.family.mp (hx.protocol.icmp6 hmixes.1))

/-- An address of the remote end: that of the rule, or else the first of version four. -/
def remoteIp (r : SecurityRule) : Ip :=
  match NetAddress.ofText? r.remoteText with
  | some a => a.ip
  | none => .v4 .zero

theorem covers_ip (a : NetAddress) : a.Covers a.ip := by
  cases a with
  | host ip =>
      exact rfl
  | subnet ip mask =>
      exact ⟨rfl, rfl⟩

theorem isV6_remoteIp (h : r.Compiles) :
    r.remoteIp.isV6 = true ↔ ':' ∈ r.remoteAddress.toList := by
  rw [← addressFamily_eq_ip6_iff]
  unfold remoteIp
  cases ha : NetAddress.ofText? r.remoteText with
  | some a =>
      have hfamily := isV6_eq_addressFamily ha
      rw [NetAddress.isV6] at hfamily
      simp [hfamily]
  | none =>
      have hempty : r.remoteText = "" := by
        simpa [ha] using h.address
      simp [addressFamily, hempty, Ip.isV6]

/-- The header of a packet between two ends at the address, with the values that the rule gives. -/
def sampleHeader (r : SecurityRule) : IpHeader where
  source := r.remoteIp
  destination := r.remoteIp
  isV6_eq := rfl
  protocol := (Protocol.numberOf? r.protocolName).getD 0
  port := some (.ofNat r.portMin.toNat)
  icmpType := some (.ofNat r.icmpType.toInt.toNat)
  icmpCode := some (.ofNat r.icmpCode.toInt.toNat)

theorem remoteIp_sampleHeader (r : SecurityRule) (direction : Direction) :
    direction.remoteIp r.sampleHeader = r.remoteIp := by
  cases direction with
  | ingress =>
      rw [Direction.remoteIp, sampleHeader]
  | egress =>
      rw [Direction.remoteIp, sampleHeader]

theorem family_sampleHeader (h : r.Compiles) :
    r.sampleHeader.family = .ip6 ↔ ':' ∈ r.remoteAddress.toList := by
  rw [← isV6_remoteIp h]
  unfold IpHeader.family sampleHeader
  cases r.remoteIp.isV6 <;> simp

theorem protocol_sampleHeader {n : UInt8} (h : Protocol.numberOf? r.protocolName = some n) :
    r.sampleHeader.protocol = n := by
  unfold sampleHeader
  simp only [h, Option.getD_some]

theorem admitsPort_sampleHeader (h : r.Compiles) (hports : r.HasPorts) :
    r.AdmitsPort r.sampleHeader := by
  intro hmin
  have hbounds := h.ports hports hmin
  have hvalue : (UInt16.ofNat r.portMin.toNat).toNat = r.portMin.toNat :=
    UInt16.toNat_ofNat_of_lt' (by show r.portMin.toNat < 65536; omega)
  refine ⟨_, rfl, Nat.le_of_eq hvalue.symm, ?_⟩
  rw [hvalue]
  by_cases hmax : r.portMax = 0
  · exact Nat.le_of_eq (by rw [if_pos hmax])
  · rw [if_neg hmax]
    exact hbounds.2.2.resolve_left hmax

theorem admitsIcmpValue_ofNat {given : Int32} (h : -1 ≤ given.toInt ∧ given.toInt ≤ 255) :
    AdmitsIcmpValue given (some (.ofNat given.toInt.toNat)) := by
  intro hgiven
  have hvalue : (UInt8.ofNat given.toInt.toNat).toNat = given.toInt.toNat :=
    UInt8.toNat_ofNat_of_lt' (by show given.toInt.toNat < 256; omega)
  refine ⟨_, rfl, ?_⟩
  rw [hvalue]
  omega

theorem admitsProtocol_sampleHeader (h : r.Compiles) (hmixes : ¬ r.MixesFamilies) :
    r.AdmitsProtocol r.sampleHeader where
  number _ hn := protocol_sampleHeader hn
  icmp4 hname := by
    cases hf : r.sampleHeader.family with
    | ip4 =>
        rfl
    | ip6 =>
        exact absurd (.inl ⟨hname, (family_sampleHeader h).mp hf⟩) hmixes
  icmp6 hname := by
    apply (family_sampleHeader h).mpr
    exact Decidable.byContradiction fun hcolon => hmixes (.inr ⟨hname, hcolon⟩)
  port := admitsPort_sampleHeader h
  icmpType hicmp := admitsIcmpValue_ofNat (h.icmp hicmp).1
  icmpCode hicmp := admitsIcmpValue_ofNat (h.icmp hicmp).2

theorem admitsAddress_sampleHeader (r : SecurityRule) : r.AdmitsAddress r.sampleHeader := by
  intro a ha
  have hremote : r.remoteIp = a.ip := by
    rw [remoteIp, ha]
  rw [remoteIp_sampleHeader, hremote]
  exact covers_ip a

/-- A rule that compiles admits a packet between ports of its groups exactly if it does not mix the
families. -/
theorem exists_admits_iff (h : r.Compiles) {members : Membership}
    (hmember : ∃ port, members group port)
    (hremote : r.remoteGroup ≠ "" → ∃ port, members (Name.portGroup r.remoteGroup) port) :
    (∃ p, r.Admits group members p) ↔ ¬ r.MixesFamilies := by
  constructor
  · intro hadmits
    obtain ⟨p, hp⟩ := hadmits
    exact not_mixesFamilies_of_admits hp
  · intro hmixes
    have hheader : r.AdmitsHeader r.sampleHeader :=
      ⟨family_sampleHeader h, admitsProtocol_sampleHeader h hmixes, admitsAddress_sampleHeader r⟩
    obtain ⟨port, hport⟩ := hmember
    have hother : ∃ other, r.remoteGroup ≠ "" →
        members (Name.portGroup r.remoteGroup) other := by
      by_cases hne : r.remoteGroup = ""
      · exact ⟨"", fun hne' => absurd hne hne'⟩
      · obtain ⟨other, hin⟩ := hremote hne
        exact ⟨other, fun _ => hin⟩
    obtain ⟨other, hother⟩ := hother
    cases hdirection : r.direction with
    | ingress =>
        refine ⟨⟨other, port, some r.sampleHeader⟩, ?_, ⟨_, rfl, hheader⟩, ?_⟩
        · rw [hdirection]
          exact hport
        · rw [hdirection]
          exact hother
    | egress =>
        refine ⟨⟨port, other, some r.sampleHeader⟩, ?_, ⟨_, rfl, hheader⟩, ?_⟩
        · rw [hdirection]
          exact hport
        · rw [hdirection]
          exact hother

/-! ## Clauses that contradict each other -/

/-- Where the values of a clause come from. -/
def Suits (r : SecurityRule) (group : String) : Clause → Prop
  | .port _ name => name = group ∨ name = Name.portGroup r.remoteGroup
  | .family f => f = r.addressFamily
  | .icmp v => r.protocolName = v.ruleName
  | .portFrom _ n => n = r.portMin ∧ r.portMin.toNat < r.portMax.toNat ∧ r.portMax.toNat ≤ 65535
  | .portTo _ n => n = r.portMax
  | _ => True

theorem suits_portClauses {t : Transport} {cs : List Clause} (h : r.portClauses t = .ok cs) :
    ∀ c ∈ cs, r.Suits group c := by
  have hgreatest : greatestPort.toNat = 65535 := rfl
  unfold portClauses at h
  split at h
  · cases h
    simp
  · split at h
    · cases h
    · rename_i hbounds
      split at h
      · cases h
        simp [Suits]
      · rename_i hone
        split at h
        · cases h
        · rename_i horder
          cases h
          have hne : r.portMax.toNat ≠ r.portMin.toNat := by
            intro hsame
            exact hone (by simp [UInt32.toNat_inj.mp hsame])
          simp only [Bool.or_eq_true, decide_eq_true_eq, UInt32.lt_iff_toNat_lt,
            hgreatest] at hbounds horder
          simp only [List.mem_cons, List.not_mem_nil, or_false, forall_eq_or_imp, forall_eq, Suits,
            true_and, and_true]
          omega

theorem suits_icmpClauses {v : Icmp} {field : IcmpField} {value : Int32} {cs : List Clause}
    (h : r.icmpClauses v field value = .ok cs) : ∀ c ∈ cs, r.Suits group c := by
  unfold icmpClauses at h
  split at h
  · cases h
  · split at h <;> cases h <;> simp [Suits]

theorem suits_protocolClauses {cs : List Clause} (h : r.protocolClauses = .ok cs) :
    ∀ c ∈ cs, r.Suits group c := by
  unfold protocolClauses at h
  cases hp : Protocol.ofText? r.protocol with
  | none =>
      rw [hp] at h
      cases h
  | some p =>
      rw [hp] at h
      cases p with
      | any =>
          cases h
          simp
      | transport t =>
          obtain ⟨ports, hports, hcs⟩ := Outcome.bind_eq_ok_iff.mp h
          cases hcs
          rw [List.forall_mem_cons]
          exact ⟨trivial, suits_portClauses hports⟩
      | icmp v =>
          obtain ⟨kind, hkind, h⟩ := Outcome.bind_eq_ok_iff.mp h
          obtain ⟨code, hcode, hcs⟩ := Outcome.bind_eq_ok_iff.mp h
          cases hcs
          rw [List.cons_append, List.forall_mem_cons, List.forall_mem_append]
          exact ⟨protocolName_of_icmp hp, suits_icmpClauses hkind, suits_icmpClauses hcode⟩
      | number n =>
          cases h
          simp [Suits]

theorem suits_addressClauses {cs : List Clause} (h : r.addressClauses = .ok cs) :
    ∀ c ∈ cs, r.Suits group c := by
  unfold addressClauses at h
  split at h
  · cases h
    simp
  · split at h
    · cases h
    · cases h
      split <;> simp [Suits]

theorem suits_clauses {cs : List Clause} (h : r.clauses group = .ok cs) :
    ∀ c ∈ cs, r.Suits group c := by
  obtain ⟨protocol, hp, h⟩ := Outcome.bind_eq_ok_iff.mp h
  obtain ⟨address, ha, hcs⟩ := Outcome.bind_eq_ok_iff.mp h
  cases hcs
  have hgroup : ∀ c ∈ r.groupClauses, r.Suits group c := by
    unfold groupClauses
    split <;> simp [Suits]
  rw [List.forall_mem_append, List.forall_mem_append, List.forall_mem_append]
  exact ⟨⟨⟨by simp [Suits], suits_protocolClauses hp⟩, suits_addressClauses ha⟩, hgroup⟩

theorem family_mem_clauses {cs : List Clause} (h : r.clauses group = .ok cs) :
    .family r.addressFamily ∈ cs := by
  obtain ⟨protocol, _, h⟩ := Outcome.bind_eq_ok_iff.mp h
  obtain ⟨address, _, hcs⟩ := Outcome.bind_eq_ok_iff.mp h
  cases hcs
  simp

theorem icmp_mem_clauses {v : Icmp} {cs : List Clause} (hname : r.protocolName = v.ruleName)
    (h : r.clauses group = .ok cs) : .icmp v ∈ cs := by
  obtain ⟨protocol, hp, h⟩ := Outcome.bind_eq_ok_iff.mp h
  obtain ⟨address, _, hcs⟩ := Outcome.bind_eq_ok_iff.mp h
  cases hcs
  have hprotocol : Protocol.ofText? r.protocol = some (.icmp v) := by
    unfold protocolName at hname
    unfold Protocol.ofText?
    rw [hname]
    cases v <;> rfl
  rw [protocolClauses, hprotocol] at hp
  obtain ⟨kind, _, hp⟩ := Outcome.bind_eq_ok_iff.mp hp
  obtain ⟨code, _, hp⟩ := Outcome.bind_eq_ok_iff.mp hp
  cases hp
  simp

/-- The clauses name two families exactly if the rule mixes them. -/
theorem clauses_disagree_iff {cs : List Clause} (h : r.clauses group = .ok cs) :
    (∃ f v, .family f ∈ cs ∧ .icmp v ∈ cs ∧ v.family ≠ f) ↔ r.MixesFamilies := by
  have hcolon := addressFamily_eq_ip6_iff r
  constructor
  · intro hfound
    obtain ⟨f, v, hf, hv, hne⟩ := hfound
    have hfamily : f = r.addressFamily := suits_clauses h (.family f) hf
    have hname : r.protocolName = v.ruleName := suits_clauses h (.icmp v) hv
    rw [hfamily] at hne
    cases v with
    | icmp4 =>
        refine .inl ⟨hname, hcolon.mp ?_⟩
        cases hr : r.addressFamily with
        | ip4 =>
            exact absurd hr.symm hne
        | ip6 =>
            rfl
    | icmp6 =>
        exact .inr ⟨hname, fun hmem => hne (hcolon.mpr hmem).symm⟩
  · intro hmixes
    cases hmixes with
    | inl hmixes =>
        refine ⟨_, .icmp4, family_mem_clauses h, icmp_mem_clauses hmixes.1 h, ?_⟩
        rw [hcolon.mpr hmixes.2]
        decide
    | inr hmixes =>
        refine ⟨_, .icmp6, family_mem_clauses h, icmp_mem_clauses hmixes.1 h, ?_⟩
        exact fun hsame => hmixes.2 (hcolon.mp hsame.symm)

/-! ## Expressions that no packet meets -/

theorem read?_of_means {cs : List Clause} {terms : List Term} (h : r.clauses group = .ok cs)
    (hterms : List.Forall₂ Clause.Means cs terms) (hgroup : Expression.IsName group)
    (hremote : Expression.IsName r.remoteGroup) :
    Expression.read? (Text.join " && " (cs.map Clause.text)) = some terms := by
  refine Expression.read?_join (List.ne_nil_of_mem (family_mem_clauses h))
    (Clause.denotes_of_means hterms fun side name hmem => ?_)
  cases suits_clauses h (.port side name) hmem with
  | inl hname =>
      rw [hname]
      exact hgroup
  | inr hname =>
      rw [hname]
      exact isName_portGroup hremote

/-- A rule with an expression has a packet that meets it, unless its protocol is ICMP of the other
family than its remote address: then, and only then, two clauses name different families, and no
packet meets the expression.  A range of ports is never empty. -/
theorem satisfiable_iff {text : String} (h : r.matchText group = .ok text) :
    ∃ cs terms, r.clauses group = .ok cs ∧ text = Text.join " && " (cs.map Clause.text) ∧
      List.Forall₂ Clause.Means cs terms ∧
      (Expression.IsName group → Expression.IsName r.remoteGroup →
        Expression.read? text = some terms) ∧
      ((∃ f v, .family f ∈ cs ∧ .icmp v ∈ cs ∧ v.family ≠ f) ↔ r.MixesFamilies) ∧
      (∀ t t' n m, .portFrom t n ∈ cs → .portTo t' m ∈ cs →
        n.toNat < m.toNat ∧ m.toNat ≤ 65535) ∧
      ∀ members : Membership, (∃ port, members group port) →
        (r.remoteGroup ≠ "" → ∃ port, members (Name.portGroup r.remoteGroup) port) →
        ((∃ p, ∀ t ∈ terms, t.Holds members p) ↔ ¬ r.MixesFamilies) := by
  obtain ⟨cs, hcs, htext⟩ := Outcome.bind_eq_ok_iff.mp h
  cases htext
  obtain ⟨terms, hterms, hmean⟩ := means_clauses hcs
  have hcompiles : r.Compiles := (clauses_isOk_iff r group).mp ⟨cs, hcs⟩
  refine ⟨cs, terms, hcs, rfl, hterms, read?_of_means hcs hterms, clauses_disagree_iff hcs, ?_, ?_⟩
  · intro t t' n m hfrom hto
    obtain ⟨rfl, hrange⟩ := suits_clauses hcs (.portFrom t n) hfrom
    have hlast : m = r.portMax := suits_clauses hcs (.portTo t' m) hto
    rw [hlast]
    exact hrange
  · intro members hmember hremote
    rw [← exists_admits_iff hcompiles hmember hremote]
    exact exists_congr fun p => hmean members p

theorem satisfiable_iff_webFromSubnet :
    webFromSubnet.matchText "pg_sg_web" = .ok ("outport == @pg_sg_web && ip4 && tcp && " ++
        "tcp.dst >= 80 && tcp.dst <= 443 && ip4.src == 10.0.0.0/8 && " ++
        "inport == @pg_sg_front_end") ∧
      ∃ cs terms, webFromSubnet.clauses "pg_sg_web" = .ok cs ∧
        List.Forall₂ Clause.Means cs terms ∧
        ∀ members : Membership, members "pg_sg_web" "a" → members "pg_sg_front_end" "b" →
          ∃ p, ∀ t ∈ terms, t.Holds members p := by
  have hcompiled : webFromSubnet.matchText "pg_sg_web" = .ok ("outport == @pg_sg_web && ip4 && " ++
      "tcp && tcp.dst >= 80 && tcp.dst <= 443 && ip4.src == 10.0.0.0/8 && " ++
      "inport == @pg_sg_front_end") := by
    decide +kernel
  obtain ⟨cs, terms, hcs, _, hterms, _, _, _, hmet⟩ := satisfiable_iff hcompiled
  refine ⟨hcompiled, cs, terms, hcs, hterms, fun members ha hb => ?_⟩
  have hmixes : ¬ webFromSubnet.MixesFamilies := by
    unfold MixesFamilies
    decide +kernel
  exact (hmet members ⟨"a", ha⟩ fun _ => ⟨"b", hb⟩).mpr hmixes

/-- Echo requests over IPv6 from everywhere. -/
def pingOverIp6 : SecurityRule where
  id := "ping6"
  direction := .ingress
  protocol := "icmpv6"

/-- The rule compiles, and no packet meets its expression, whatever ports the group has. -/
theorem not_satisfiable_pingOverIp6 :
    pingOverIp6.matchText "pg" = .ok "outport == @pg && ip4 && icmp6" ∧
      Expression.read? "outport == @pg && ip4 && icmp6" =
        some [.member .leaves "pg", .family .ip4, .icmp .icmp6] ∧
      ¬ ∃ (members : Membership) (p : Packet),
        ∀ t ∈ [Term.member .leaves "pg", .family .ip4, .icmp .icmp6], t.Holds members p := by
  refine ⟨by decide +kernel, by decide +kernel, fun hfound => ?_⟩
  obtain ⟨members, p, hall⟩ := hfound
  obtain ⟨x, hx, hfour⟩ := hall (.family .ip4) (by simp)
  obtain ⟨y, hy, hsix⟩ := hall (.icmp .icmp6) (by simp)
  rw [hx] at hy
  cases hy
  have hfamily : x.family = .ip6 := hsix.1
  have hother : x.family = .ip4 := hfour
  rw [hfamily] at hother
  cases hother

end SecurityRule
end LogicalNet
