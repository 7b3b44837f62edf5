import LogicalNet.Proofs.Policy.Packet

/-!
# The packets of a rule

What a rule says of packets, by the names, the numbers and the texts of its fields,
and which rules have an expression at all.  A protocol goes by the trimmed name in
lower case; of the fields for ports and for types only those count that go with the
protocol.
-/

namespace LogicalNet

/-! ## What a rule says -/

namespace Direction

/-- Where a packet that goes in the direction passes the member of the group. -/
def memberPort (p : Packet) : Direction → String
  | ingress => p.outport
  | egress => p.inport

/-- Where it passes the remote end. -/
def remotePort (p : Packet) : Direction → String
  | ingress => p.inport
  | egress => p.outport

def remoteIp (h : IpHeader) : Direction → Ip
  | ingress => h.source
  | egress => h.destination

end Direction

/-- The number of a protocol by its name or its number; none for the names of all protocols. -/
def Protocol.numberOf? : String → Option UInt8
  | "tcp" => some 6
  | "udp" => some 17
  | "sctp" => some 132
  | "icmp" => some 1
  | "icmpv6" => some 58
  | "gre" => some 47
  | "esp" => some 50
  | "ah" => some 51
  | "vrrp" => some 112
  | name => Text.readUInt8? name

namespace SecurityRule

def protocolName (r : SecurityRule) : String :=
  Text.lower (Text.trim r.protocol)

def HasPorts (r : SecurityRule) : Prop :=
  r.protocolName ∈ ["tcp", "udp", "sctp"]

def IsIcmp (r : SecurityRule) : Prop :=
  r.protocolName ∈ ["icmp", "icmpv6"]

/-- The rules that have an expression. -/
structure Compiles (r : SecurityRule) : Prop where
  protocol : r.protocolName ∈ ["", "any", "tcp", "udp", "sctp", "icmp", "icmpv6", "gre", "esp",
      "ah", "vrrp"] ∨ (Text.readUInt8? r.protocolName).isSome
  ports : r.HasPorts → r.portMin ≠ 0 → r.portMin.toNat ≤ 65535 ∧ r.portMax.toNat ≤ 65535 ∧
    (r.portMax = 0 ∨ r.portMin.toNat ≤ r.portMax.toNat)
  icmp : r.IsIcmp → (-1 ≤ r.icmpType.toInt ∧ r.icmpType.toInt ≤ 255) ∧
    (-1 ≤ r.icmpCode.toInt ∧ r.icmpCode.toInt ≤ 255)
  address : r.remoteText = "" ∨ (NetAddress.ofText? r.remoteText).isSome

/-- The port is one of those from the least to the greatest of the rule. -/
def AdmitsPort (r : SecurityRule) (h : IpHeader) : Prop :=
  r.portMin ≠ 0 → ∃ n, h.port = some n ∧ r.portMin.toNat ≤ n.toNat ∧
    n.toNat ≤ (if r.portMax = 0 then r.portMin else r.portMax).toNat

/-- A type, or a code, that is not given is any; a value is equal to the one that is. -/
def AdmitsIcmpValue (given : Int32) (value : Option UInt8) : Prop :=
  given.toInt ≠ -1 → ∃ n, value = some n ∧ n.toNat = given.toInt

structure AdmitsProtocol (r : SecurityRule) (h : IpHeader) : Prop where
  number : ∀ n, Protocol.numberOf? r.protocolName = some n → h.protocol = n
  icmp4 : r.protocolName = "icmp" → h.family = .ip4
  icmp6 : r.protocolName = "icmpv6" → h.family = .ip6
  port : r.HasPorts → r.AdmitsPort h
  icmpType : r.IsIcmp → AdmitsIcmpValue r.icmpType h.icmpType
  icmpCode : r.IsIcmp → AdmitsIcmpValue r.icmpCode h.icmpCode

def AdmitsAddress (r : SecurityRule) (h : IpHeader) : Prop :=
  ∀ a, NetAddress.ofText? r.remoteText = some a →
    a.Covers (r.direction.remoteIp h)

structure AdmitsHeader (r : SecurityRule) (h : IpHeader) : Prop where
  family : h.family = .ip6 ↔ ':' ∈ r.remoteAddress.toList
  protocol : r.AdmitsProtocol h
  address : r.AdmitsAddress h

/-- The packets that a rule is about, when it is a rule of the given group. -/
structure Admits (r : SecurityRule) (group : String) (members : Membership) (p : Packet) :
    Prop where
  member : members group (r.direction.memberPort p)
  header : ∃ h, p.header = some h ∧ r.AdmitsHeader h
  remote : r.remoteGroup ≠ "" → members (Name.portGroup r.remoteGroup) (r.direction.remotePort p)

end SecurityRule

/-! ## Protocols -/

namespace Icmp

/-- The name of the protocol in rules. -/
def ruleName : Icmp → String
  | icmp4 => "icmp"
  | icmp6 => "icmpv6"

end Icmp

namespace SecurityRule

variable {r : SecurityRule}

theorem protocolName_of_any (h : Protocol.ofText? r.protocol = some .any) :
    r.protocolName = "" ∨ r.protocolName = "any" := by
  unfold Protocol.ofText? at h
  unfold protocolName
  generalize Text.lower (Text.trim r.protocol) = name at h ⊢
  split at h <;> simp at h ⊢

theorem protocolName_of_transport {t : Transport}
    (h : Protocol.ofText? r.protocol = some (.transport t)) : r.protocolName = t.text := by
  unfold Protocol.ofText? at h
  unfold protocolName
  generalize Text.lower (Text.trim r.protocol) = name at h ⊢
  split at h <;> simp at h <;> subst h <;> rfl

theorem protocolName_of_icmp {v : Icmp}
    (h : Protocol.ofText? r.protocol = some (.icmp v)) : r.protocolName = v.ruleName := by
  unfold Protocol.ofText? at h
  unfold protocolName
  generalize Text.lower (Text.trim r.protocol) = name at h ⊢
  split at h <;> simp at h <;> subst h <;> rfl

theorem protocolName_of_number {n : UInt8}
    (h : Protocol.ofText? r.protocol = some (.number n)) :
    Protocol.numberOf? r.protocolName = some n ∧ ¬ r.HasPorts ∧ ¬ r.IsIcmp := by
  unfold Protocol.ofText? at h
  unfold HasPorts IsIcmp protocolName
  generalize Text.lower (Text.trim r.protocol) = name at h ⊢
  split at h
  case h_12 =>
    rcases Option.map_eq_some_iff.mp h with ⟨m, hm, hn⟩
    cases hn
    unfold Protocol.numberOf?
    split <;> simp_all
  all_goals simp at h <;> subst h <;> decide

theorem protocol_isSome_iff (r : SecurityRule) :
    (Protocol.ofText? r.protocol).isSome ↔
      r.protocolName ∈ ["", "any", "tcp", "udp", "sctp", "icmp", "icmpv6", "gre", "esp", "ah",
        "vrrp"] ∨ (Text.readUInt8? r.protocolName).isSome := by
  unfold Protocol.ofText? protocolName
  generalize Text.lower (Text.trim r.protocol) = name
  split
  case h_12 =>
    simp_all
  all_goals simp

theorem hasPorts_of_transport {t : Transport} (h : r.protocolName = t.text) :
    r.HasPorts ∧ ¬ r.IsIcmp ∧ Protocol.numberOf? r.protocolName = some t.number := by
  unfold HasPorts IsIcmp
  rw [h]
  cases t <;> exact ⟨by decide, by decide, rfl⟩

theorem isIcmp_of_icmp {v : Icmp} (h : r.protocolName = v.ruleName) :
    r.IsIcmp ∧ ¬ r.HasPorts ∧ Protocol.numberOf? r.protocolName = some v.number ∧
      (r.protocolName = "icmp" ↔ v.family = .ip4) ∧
      (r.protocolName = "icmpv6" ↔ v.family = .ip6) := by
  unfold HasPorts IsIcmp
  rw [h]
  cases v <;> exact ⟨by decide, by decide, rfl, by decide, by decide⟩

theorem not_hasPorts_of_any (h : r.protocolName = "" ∨ r.protocolName = "any") :
    ¬ r.HasPorts ∧ ¬ r.IsIcmp ∧ Protocol.numberOf? r.protocolName = none := by
  unfold HasPorts IsIcmp
  rcases h with h | h <;> rw [h] <;> exact ⟨by decide, by decide, by decide⟩

theorem admitsProtocol_iff (hports : ¬ r.HasPorts) (hicmp : ¬ r.IsIcmp) (x : IpHeader) :
    r.AdmitsProtocol x ↔ ∀ n, Protocol.numberOf? r.protocolName = some n → x.protocol = n := by
  constructor
  · intro h
    exact h.number
  · intro h
    refine ⟨h, ?_, ?_, fun hp => absurd hp hports, fun hi => absurd hi hicmp,
      fun hi => absurd hi hicmp⟩
    · intro hname
      exact absurd (show r.IsIcmp by simp [IsIcmp, hname]) hicmp
    · intro hname
      exact absurd (show r.IsIcmp by simp [IsIcmp, hname]) hicmp

theorem admitsProtocol_iff_of_transport {t : Transport} (hname : r.protocolName = t.text)
    (x : IpHeader) : r.AdmitsProtocol x ↔ x.protocol = t.number ∧ r.AdmitsPort x := by
  rcases hasPorts_of_transport hname with ⟨hports, hicmp, hnumber⟩
  constructor
  · intro h
    exact ⟨h.number _ hnumber, h.port hports⟩
  · intro hfound
    rcases hfound with ⟨hprotocol, hport⟩
    refine ⟨?_, ?_, ?_, fun _ => hport, fun hi => absurd hi hicmp, fun hi => absurd hi hicmp⟩
    · intro n hn
      rw [hnumber] at hn
      cases hn
      exact hprotocol
    · intro hname
      exact absurd (show r.IsIcmp by simp [IsIcmp, hname]) hicmp
    · intro hname
      exact absurd (show r.IsIcmp by simp [IsIcmp, hname]) hicmp

theorem admitsProtocol_iff_of_icmp {v : Icmp} (hname : r.protocolName = v.ruleName)
    (x : IpHeader) :
    r.AdmitsProtocol x ↔ ((x.family = v.family ∧ x.protocol = v.number) ∧
      AdmitsIcmpValue r.icmpType x.icmpType) ∧ AdmitsIcmpValue r.icmpCode x.icmpCode := by
  rcases isIcmp_of_icmp hname with ⟨hicmp, hports, hnumber, hfour, hsix⟩
  constructor
  · intro h
    refine ⟨⟨⟨?_, h.number _ hnumber⟩, h.icmpType hicmp⟩, h.icmpCode hicmp⟩
    cases v with
    | icmp4 =>
        exact h.icmp4 hname
    | icmp6 =>
        exact h.icmp6 hname
  · intro hfound
    rcases hfound with ⟨⟨⟨hfamily, hprotocol⟩, hkind⟩, hcode⟩
    refine ⟨?_, ?_, ?_, fun hp => absurd hp hports, fun _ => hkind, fun _ => hcode⟩
    · intro n hn
      rw [hnumber] at hn
      cases hn
      exact hprotocol
    · intro h
      rw [hfamily, hfour.mp h]
    · intro h
      rw [hfamily, hsix.mp h]

end SecurityRule
end LogicalNet
