import LogicalNet.Address.Ip
import LogicalNet.Names
import LogicalNet.Policy.RuleError
import LogicalNet.Policy.SecurityGroup
import LogicalNet.Text.LetterCase

/-!
# Match expressions

The condition that the packets of a rule meet.  A rule compiles to a list of
clauses, in the order: the port of the member, the version of the address, the
protocol with its ports or types, the remote address, the remote group.  The
expression is their texts with `&&` between them.
-/

namespace LogicalNet

/-! ## Clauses -/

/-- The side of a logical switch on which a packet passes a port. -/
inductive PortSide where
  | enters
  | leaves
  deriving DecidableEq

namespace PortSide

def text : PortSide → String
  | enters => "inport"
  | leaves => "outport"

/-- Where the member of the group stands. -/
def ofMember : Direction → PortSide
  | .ingress => leaves
  | .egress => enters

/-- Where the remote end stands. -/
def ofRemote : Direction → PortSide
  | .ingress => enters
  | .egress => leaves

end PortSide

inductive Family where
  | ip4
  | ip6
  deriving DecidableEq

def Family.text : Family → String
  | ip4 => "ip4"
  | ip6 => "ip6"

/-- The protocols with ports. -/
inductive Transport where
  | tcp
  | udp
  | sctp
  deriving DecidableEq

namespace Transport

def text : Transport → String
  | tcp => "tcp"
  | udp => "udp"
  | sctp => "sctp"

end Transport

inductive Icmp where
  | icmp4
  | icmp6
  deriving DecidableEq

def Icmp.text : Icmp → String
  | icmp4 => "icmp4"
  | icmp6 => "icmp6"

inductive Clause where
  | port (side : PortSide) (group : String)
  | family (family : Family)
  | transport (protocol : Transport)
  | portIs (protocol : Transport) (port : UInt32)
  | portFrom (protocol : Transport) (port : UInt32)
  | portTo (protocol : Transport) (port : UInt32)
  | icmp (version : Icmp)
  | icmpIs (version : Icmp) (field : IcmpField) (value : Int32)
  | protocolIs (number : UInt8)
  /-- The remote end of the packets that go in the given direction. -/
  | address (family : Family) (direction : Direction) (address : String)
  deriving DecidableEq

/-- The field of the packet that holds the address of the remote end. -/
def Direction.remoteField : Direction → String
  | ingress => "src"
  | egress => "dst"

def Clause.text : Clause → String
  | port side group => side.text ++ " == @" ++ group
  | family f => f.text
  | transport p => p.text
  | portIs p n => p.text ++ ".dst == " ++ Text.decimal n.toNat
  | portFrom p n => p.text ++ ".dst >= " ++ Text.decimal n.toNat
  | portTo p n => p.text ++ ".dst <= " ++ Text.decimal n.toNat
  | icmp v => v.text
  | icmpIs v field value => v.text ++ "." ++ field.text ++ " == " ++ Text.signedDecimal value.toInt
  | protocolIs n => "ip.proto == " ++ Text.decimal n.toNat
  | address f direction a => f.text ++ "." ++ direction.remoteField ++ " == " ++ a

/-! ## Protocols -/

inductive Protocol where
  | any
  | transport (protocol : Transport)
  | icmp (version : Icmp)
  | number (n : UInt8)
  deriving DecidableEq

/-- A protocol by its name or number; blanks around it and the case of letters do not count. -/
def Protocol.ofText? (s : String) : Option Protocol :=
  match Text.lower (Text.trim s) with
  | "" => some any
  | "any" => some any
  | "tcp" => some (transport .tcp)
  | "udp" => some (transport .udp)
  | "sctp" => some (transport .sctp)
  | "icmp" => some (icmp .icmp4)
  | "icmpv6" => some (icmp .icmp6)
  | "gre" => some (number 47)
  | "esp" => some (number 50)
  | "ah" => some (number 51)
  | "vrrp" => some (number 112)
  | name => (Text.readUInt8? name).map number

/-! ## Clauses of a rule -/

namespace SecurityRule

def greatestPort : UInt32 := 65535

/-- The clauses for the ports from the least to the greatest of the rule. -/
def portClauses (r : SecurityRule) (p : Transport) : Except RuleError (List Clause) :=
  if r.portMin = 0 then
    .ok []
  else if greatestPort < r.portMin || greatestPort < r.portMax then
    .error (.invalidPorts r.id r.portMin r.portMax)
  else if r.portMax = 0 || r.portMax = r.portMin then
    .ok [.portIs p r.portMin]
  else if r.portMax < r.portMin then
    .error (.invalidPorts r.id r.portMin r.portMax)
  else
    .ok [.portFrom p r.portMin, .portTo p r.portMax]

/-- The clause for a type or a code; none for minus one. -/
def icmpClauses (r : SecurityRule) (v : Icmp) (field : IcmpField) (value : Int32) :
    Except RuleError (List Clause) :=
  if value < -1 || 255 < value then .error (.invalidIcmp r.id field value)
  else if 0 ≤ value then .ok [.icmpIs v field value]
  else .ok []

def protocolClauses (r : SecurityRule) : Except RuleError (List Clause) :=
  match Protocol.ofText? r.protocol with
  | none => .error (.unknownProtocol r.id r.protocol)
  | some .any => .ok []
  | some (.transport p) => do
      let ports ← r.portClauses p
      return .transport p :: ports
  | some (.icmp v) => do
      let kind ← r.icmpClauses v .kind r.icmpType
      let code ← r.icmpClauses v .code r.icmpCode
      return .icmp v :: kind ++ code
  | some (.number n) => .ok [.protocolIs n]

/-- The remote address without the blanks around it. -/
def remoteText (r : SecurityRule) : String :=
  Text.trim r.remoteAddress

/-- Version six for a remote address with a colon, otherwise version four. -/
def addressFamily (r : SecurityRule) : Family :=
  if r.remoteText.toList.contains ':' then .ip6 else .ip4

/-- The clause for the remote address; none where every address is meant. -/
def addressClauses (r : SecurityRule) : Except RuleError (List Clause) :=
  if r.remoteText.isEmpty then
    .ok []
  else
    match NetAddress.ofText? r.remoteText with
    | none => .error (.invalidAddress r.id r.remoteText)
    | some a => .ok (if a.isAny then [] else [.address r.addressFamily r.direction r.remoteText])

def groupClauses (r : SecurityRule) : List Clause :=
  if r.remoteGroup.isEmpty then []
  else [.port (.ofRemote r.direction) (Name.portGroup r.remoteGroup)]

/-- All clauses of the rule for the members of the given port group. -/
def clauses (r : SecurityRule) (group : String) : Except RuleError (List Clause) := do
  let protocol ← r.protocolClauses
  let address ← r.addressClauses
  return [.port (.ofMember r.direction) group, .family r.addressFamily] ++ protocol ++ address ++
    r.groupClauses

/-- The match expression of the rule. -/
def matchText (r : SecurityRule) (group : String) : Except RuleError String := do
  let clauses ← r.clauses group
  return Text.join " && " (clauses.map Clause.text)

end SecurityRule
end LogicalNet
