import LogicalNet.Document.Codec

/-!
# Security groups

A security group is a list of rules on the traffic of its members.  Protocols and
remote addresses are given as texts and are read when the rules are compiled.
-/

namespace LogicalNet

inductive Direction where
  | ingress
  | egress
  deriving DecidableEq

def Direction.text : Direction → String
  | ingress => "INGRESS"
  | egress => "EGRESS"

inductive RuleAction where
  | allow
  | drop
  | reject
  deriving DecidableEq

def RuleAction.text : RuleAction → String
  | allow => "ALLOW"
  | drop => "DROP"
  | reject => "REJECT"

structure SecurityRule where
  id : String
  direction : Direction
  protocol : String := ""
  /-- Zero stands for every port. -/
  portMin : UInt32 := 0
  /-- Zero stands for the one port `portMin`. -/
  portMax : UInt32 := 0
  /-- Minus one stands for every type. -/
  icmpType : Int32 := -1
  /-- Minus one stands for every code. -/
  icmpCode : Int32 := -1
  remoteAddress : String := ""
  remoteGroup : String := ""
  action : RuleAction := .allow
  priority : UInt32 := 0
  description : String := ""
  deriving DecidableEq

structure SecurityGroup where
  id : String
  name : String
  description : String := ""
  project : String := ""
  rules : List SecurityRule := []
  /-- Whether connections are tracked. -/
  stateful : Bool := false
  deriving DecidableEq

/-! ## As documents -/

/-- Read in upper and in lower case. -/
def Direction.ofText? : String → Option Direction
  | "INGRESS" => some ingress
  | "ingress" => some ingress
  | "EGRESS" => some egress
  | "egress" => some egress
  | _ => none

/-- Read in upper and in lower case. -/
def RuleAction.ofText? : String → Option RuleAction
  | "ALLOW" => some allow
  | "allow" => some allow
  | "DROP" => some drop
  | "drop" => some drop
  | "REJECT" => some reject
  | "reject" => some reject
  | _ => none

instance : Codec Direction where
  encode x := .text x.text
  decode? d := d.choice?.bind Direction.ofText?

instance : Codec RuleAction where
  encode x := .text x.text
  decode? d := d.choice?.bind RuleAction.ofText?

instance : Codec SecurityRule where
  encode r := .record [
    ("id", encode r.id),
    ("direction", encode r.direction),
    ("protocol", encode r.protocol),
    ("port_min", encode r.portMin),
    ("port_max", encode r.portMax),
    ("icmp_type", encode r.icmpType),
    ("icmp_code", encode r.icmpCode),
    ("remote_ip_prefix", encode r.remoteAddress),
    ("remote_security_group_id", encode r.remoteGroup),
    ("action", encode r.action),
    ("priority", encode r.priority),
    ("description", encode r.description)]
  decode? d := do
    let f ← d.fields? ["id", "direction", "protocol", "port_min", "port_max", "icmp_type",
      "icmp_code", "remote_ip_prefix", "remote_security_group_id", "action", "priority",
      "description"]
    return {
      id := ← f.required? "id"
      direction := ← f.required? "direction"
      protocol := ← f.withDefault? "protocol" ""
      portMin := ← f.withDefault? "port_min" 0
      portMax := ← f.withDefault? "port_max" 0
      icmpType := ← f.withDefault? "icmp_type" (-1)
      icmpCode := ← f.withDefault? "icmp_code" (-1)
      remoteAddress := ← f.withDefault? "remote_ip_prefix" ""
      remoteGroup := ← f.withDefault? "remote_security_group_id" ""
      action := ← f.withDefault? "action" .allow
      priority := ← f.withDefault? "priority" 0
      description := ← f.withDefault? "description" "" }

instance : Codec SecurityGroup where
  encode g := .record [
    ("id", encode g.id),
    ("name", encode g.name),
    ("description", encode g.description),
    ("project_id", encode g.project),
    ("rules", encode g.rules),
    ("stateful", encode g.stateful)]
  decode? d := do
    let f ← d.fields? ["id", "name", "description", "project_id", "rules", "stateful"]
    return {
      id := ← f.required? "id"
      name := ← f.required? "name"
      description := ← f.withDefault? "description" ""
      project := ← f.withDefault? "project_id" ""
      rules := ← f.withDefault? "rules" []
      stateful := ← f.withDefault? "stateful" false }

end LogicalNet
