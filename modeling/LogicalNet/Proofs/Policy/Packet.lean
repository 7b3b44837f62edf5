import LogicalNet.Policy.Match

/-!
# Packets and the terms of expressions

A packet has the port by which it enters a switch and the port by which it leaves,
and, if it carries IP, a header.  A term of a match expression speaks of one field
of a packet.  It fails of a packet that does not have the field: `tcp.dst` is there
only in packets of TCP, and `icmp6.type` only in packets of ICMP over IPv6.
-/

namespace LogicalNet

/-! ## Subnets -/

def IpV4.number (x : IpV4) : Nat :=
  x.octets.foldl (fun n o => n * 2 ^ 8 + o.toNat) 0

def IpV6.number (x : IpV6) : Nat :=
  x.groups.foldl (fun n g => n * 2 ^ 16 + g.toNat) 0

/-- The bits of the address as one number. -/
def Ip.number : Ip → Nat
  | v4 x => x.number
  | v6 x => x.number

/-- A host covers itself, a subnet the addresses of its family that begin with its bits. -/
def NetAddress.Covers : NetAddress → Ip → Prop
  | host y, x => x = y
  | subnet y mask, x =>
      x.isV6 = y.isV6 ∧
        x.number / 2 ^ (y.width - mask.toNat) = y.number / 2 ^ (y.width - mask.toNat)

theorem foldl_digits_lt (base : Nat) (digits : List Nat) (h : ∀ d ∈ digits, d < base) (n : Nat) :
    digits.foldl (fun n d => n * base + d) n < (n + 1) * base ^ digits.length := by
  induction digits generalizing n with
  | nil =>
      simp
  | cons d rest ih =>
      have hd : d < base := h d (by simp)
      have hrest := ih (fun e he => h e (by simp [he])) (n * base + d)
      have hle : n * base + d + 1 ≤ (n + 1) * base := by
        rw [Nat.add_mul]
        omega
      calc
        (d :: rest).foldl (fun n d => n * base + d) n
            < (n * base + d + 1) * base ^ rest.length := hrest
        _ ≤ (n + 1) * base * base ^ rest.length := Nat.mul_le_mul_right _ hle
        _ = (n + 1) * base ^ (d :: rest).length := by
            rw [List.length_cons, Nat.pow_succ', Nat.mul_assoc]

theorem IpV4.number_lt (x : IpV4) : x.number < 2 ^ 32 := by
  have h := foldl_digits_lt (2 ^ 8) (x.octets.map UInt8.toNat) (by
    intro d hd
    rcases List.mem_map.mp hd with ⟨o, _, rfl⟩
    exact o.toNat_lt) 0
  have hlength : x.octets.length = 4 := rfl
  rw [List.foldl_map, List.length_map, hlength] at h
  exact h

theorem IpV6.number_lt (x : IpV6) : x.number < 2 ^ 128 := by
  have h := foldl_digits_lt (2 ^ 16) (x.groups.map UInt16.toNat) (by
    intro d hd
    rcases List.mem_map.mp hd with ⟨g, _, rfl⟩
    exact g.toNat_lt) 0
  rw [List.foldl_map, List.length_map, x.length_eq] at h
  exact h

theorem Ip.number_lt (x : Ip) : x.number < 2 ^ x.width := by
  cases x with
  | v4 x =>
      exact x.number_lt
  | v6 x =>
      exact x.number_lt

theorem Ip.width_eq_of_isV6_eq {x y : Ip} (h : x.isV6 = y.isV6) : x.width = y.width := by
  cases x <;> cases y <;> first | rfl | cases h

/-- The subnet of all addresses of a family covers them. -/
theorem NetAddress.covers_of_isAny {a : NetAddress} (ha : a.isAny = true) {x : Ip}
    (hx : x.isV6 = a.isV6) : a.Covers x := by
  cases a with
  | host y =>
      cases ha
  | subnet y mask =>
      simp only [isAny, Bool.and_eq_true, beq_iff_eq] at ha
      have hmask : mask = 0 := ha.2
      subst hmask
      have hwidth : x.width = y.width := Ip.width_eq_of_isV6_eq hx
      constructor
      · exact hx
      · show x.number / 2 ^ y.width = y.number / 2 ^ y.width
        rw [Nat.div_eq_of_lt y.number_lt, ← hwidth, Nat.div_eq_of_lt x.number_lt]

/-! ## Packets -/

def Transport.number : Transport → UInt8
  | tcp => 6
  | udp => 17
  | sctp => 132

def Icmp.family : Icmp → Family
  | icmp4 => .ip4
  | icmp6 => .ip6

def Icmp.number : Icmp → UInt8
  | icmp4 => 1
  | icmp6 => 58

/-- What an IP packet says of itself.  A packet without the header of its protocol, such as a later
fragment, has neither a port nor a type and a code. -/
structure IpHeader where
  source : Ip
  destination : Ip
  isV6_eq : destination.isV6 = source.isV6
  protocol : UInt8
  /-- The port at the destination. -/
  port : Option UInt16 := none
  icmpType : Option UInt8 := none
  icmpCode : Option UInt8 := none

def IpHeader.family (h : IpHeader) : Family :=
  if h.source.isV6 then .ip6 else .ip4

structure Packet where
  inport : String
  outport : String
  /-- None for a packet that does not carry IP. -/
  header : Option IpHeader

/-- Whether the group has the port. -/
abbrev Membership := String → String → Prop

def PortSide.port (p : Packet) : PortSide → String
  | enters => p.inport
  | leaves => p.outport

/-! ## Terms -/

inductive Comparison where
  | equal
  | atLeast
  | atMost
  deriving DecidableEq

def Comparison.Holds : Comparison → Nat → Nat → Prop
  | equal, value, bound => value = bound
  | atLeast, value, bound => bound ≤ value
  | atMost, value, bound => value ≤ bound

/-- The fields that are compared with numbers. -/
inductive NumberField where
  | protocol
  | port (protocol : Transport)
  | icmp (version : Icmp) (field : IcmpField)
  deriving DecidableEq

inductive AddressField where
  | source
  | destination
  deriving DecidableEq

inductive Term where
  | member (side : PortSide) (group : String)
  | family (family : Family)
  | transport (protocol : Transport)
  | icmp (version : Icmp)
  | number (field : NumberField) (comparison : Comparison) (bound : Nat)
  | address (family : Family) (field : AddressField) (address : NetAddress)
  deriving DecidableEq

def IpHeader.icmpField (h : IpHeader) : IcmpField → Option UInt8
  | .kind => h.icmpType
  | .code => h.icmpCode

def NumberField.value? (h : IpHeader) : NumberField → Option Nat
  | protocol => some h.protocol.toNat
  | port t => if h.protocol = t.number then h.port.map UInt16.toNat else none
  | icmp v field =>
      if h.family = v.family ∧ h.protocol = v.number then (h.icmpField field).map UInt8.toNat
      else none

def AddressField.ip (h : IpHeader) : AddressField → Ip
  | source => h.source
  | destination => h.destination

/-- What a term says of a header. -/
def Term.HoldsOf (h : IpHeader) : Term → Prop
  | member _ _ => True
  | family f => h.family = f
  | transport t => h.protocol = t.number
  | icmp v => h.family = v.family ∧ h.protocol = v.number
  | number field comparison bound =>
      ∃ value, field.value? h = some value ∧ comparison.Holds value bound
  | address f field a => h.family = f ∧ a.Covers (field.ip h)

def Term.Holds (members : Membership) (p : Packet) : Term → Prop
  | member side group => members group (side.port p)
  | t => ∃ h, p.header = some h ∧ t.HoldsOf h

theorem IpHeader.isV6_ip (h : IpHeader) (field : AddressField) :
    (field.ip h).isV6 = (h.family == .ip6) := by
  have hsource : h.source.isV6 = (h.family == .ip6) := by
    unfold family
    cases h.source.isV6 <;> rfl
  cases field with
  | source =>
      exact hsource
  | destination =>
      exact h.isV6_eq.trans hsource

end LogicalNet
