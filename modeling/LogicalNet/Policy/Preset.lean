import LogicalNet.Policy.SecurityGroup

/-!
# Presets

Security groups for common needs.  A group made from a preset has its own id in
front of the id of every rule.
-/

namespace LogicalNet

structure Preset where
  name : String
  description : String
  rules : List SecurityRule
  deriving DecidableEq

namespace Preset

def toSecurityGroup (p : Preset) (id project : String) (stateful : Bool) : SecurityGroup where
  id := id
  name := p.name
  description := p.description
  project := project
  rules := p.rules.map fun r => { r with id := id ++ "-" ++ r.id }
  stateful := stateful

/-- Incoming connections to one port. -/
def tcp (id : String) (port : UInt32) (description : String) : SecurityRule where
  id := id
  direction := .ingress
  protocol := "tcp"
  portMin := port
  portMax := port
  description := description

/-- All incoming traffic from a network. -/
def trafficFrom (id network : String) : SecurityRule where
  id := id
  direction := .ingress
  protocol := "any"
  remoteAddress := network
  description := "Allow " ++ network

def all : List Preset :=
  [⟨"allow-ssh", "Allow SSH access", [tcp "allow-ssh-rule" 22 "Allow SSH (TCP 22)"]⟩,
    ⟨"allow-web", "Allow HTTP and HTTPS traffic",
      [tcp "allow-http-rule" 80 "Allow HTTP (TCP 80)",
        tcp "allow-https-rule" 443 "Allow HTTPS (TCP 443)"]⟩,
    ⟨"allow-rdp", "Allow RDP access", [tcp "allow-rdp-rule" 3389 "Allow RDP (TCP 3389)"]⟩,
    ⟨"allow-icmp", "Allow ICMP (ping)",
      [{ id := "allow-icmp-rule"
         direction := .ingress
         protocol := "icmp"
         description := "Allow all ICMP" }]⟩,
    ⟨"allow-database", "Allow common database ports",
      [tcp "allow-mysql-rule" 3306 "Allow MySQL (TCP 3306)",
        tcp "allow-postgres-rule" 5432 "Allow PostgreSQL (TCP 5432)",
        tcp "allow-mongodb-rule" 27017 "Allow MongoDB (TCP 27017)",
        tcp "allow-redis-rule" 6379 "Allow Redis (TCP 6379)"]⟩,
    ⟨"allow-internal", "Allow all internal RFC1918 traffic",
      [trafficFrom "allow-10-rule" "10.0.0.0/8",
        trafficFrom "allow-172-rule" "172.16.0.0/12",
        trafficFrom "allow-192-rule" "192.168.0.0/16"]⟩]

def byName? (name : String) : Option Preset :=
  all.find? fun p => p.name == name

end Preset

instance : Codec Preset where
  encode p := .record [
    ("name", encode p.name),
    ("description", encode p.description),
    ("rules", encode p.rules)]
  decode? d := do
    let f ← d.fields? ["name", "description", "rules"]
    return {
      name := ← f.required? "name"
      description := ← f.required? "description"
      rules := ← f.required? "rules" }

end LogicalNet
