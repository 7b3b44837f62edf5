import LogicalNet.Fault

/-!
# Switches and their ports

The rows for the segments of the network and for what is attached to them.  Each
kind of row is given with the columns it is written to and the reader of its
columns; identifiers of other rows stand in columns of references.
-/

namespace LogicalNet

structure Switch where
  uuid : String
  name : String
  ports : List String := []
  acls : List String := []
  loadBalancers : List String := []
  externalIds : ExternalIds := {}
  otherConfig : TextMap String := {}
  deriving DecidableEq

namespace Switch

def columns (r : Switch) : List (String × Value) :=
  [("name", .text r.name),
    ("ports", .uuids r.ports),
    ("acls", .uuids r.acls),
    ("load_balancer", .uuids r.loadBalancers),
    ("external_ids", .textMap r.externalIds),
    ("other_config", .textMap r.otherConfig)]

def ofRecord (r : Record) : Except StoreError Switch := do
  return {
    uuid := ← r.uuid "_uuid"
    name := ← r.text "name"
    ports := ← r.texts "ports"
    acls := ← r.texts "acls"
    loadBalancers := ← r.texts "load_balancer"
    externalIds := ← r.textMap "external_ids"
    otherConfig := ← r.textMap "other_config" }

end Switch

instance : Codec Switch where
  encode r := .record [
    ("uuid", encode r.uuid),
    ("name", encode r.name),
    ("ports", encode r.ports),
    ("acls", encode r.acls),
    ("load_balancers", encode r.loadBalancers),
    ("external_ids", encode r.externalIds),
    ("other_config", encode r.otherConfig)]
  decode? d := do
    let f ← d.fields? ["uuid", "name", "ports", "acls", "load_balancers", "external_ids",
      "other_config"]
    return {
      uuid := ← f.required? "uuid"
      name := ← f.required? "name"
      ports := ← f.withDefault? "ports" []
      acls := ← f.withDefault? "acls" []
      loadBalancers := ← f.withDefault? "load_balancers" []
      externalIds := ← f.withDefault? "external_ids" {}
      otherConfig := ← f.withDefault? "other_config" {} }

/-! ## Ports of switches -/

/-- A port; each of its addresses is a MAC address with the IP addresses behind it, or one of the
words `router` and `unknown`. -/
structure SwitchPort where
  uuid : String
  name : String
  kind : PortKind := .normal
  addresses : List String := []
  portSecurity : List String := []
  enabled : Option Bool := none
  tag : Option UInt16 := none
  options : TextMap String := {}
  externalIds : ExternalIds := {}
  /-- The row of DHCP options that serves the port. -/
  dhcpOptions : Option String := none
  deriving DecidableEq

namespace SwitchPort

def columns (r : SwitchPort) : List (String × Value) :=
  [("name", .text r.name),
    ("type", .text r.kind.text),
    ("addresses", .texts r.addresses),
    ("port_security", .texts r.portSecurity),
    ("enabled", .optionalBoolean r.enabled),
    ("tag", .optionalInteger (r.tag.map fun n => (n.toNat : Int))),
    ("options", .textMap r.options),
    ("external_ids", .textMap r.externalIds),
    ("dhcpv4_options", .optionalUuid r.dhcpOptions)]

/-- A tag in the range of its column. -/
def readTag : Option Int → Except InputFault (Option UInt16)
  | none => .ok none
  | some n =>
      if 0 ≤ n && n < 2 ^ 16 then .ok (some n.toNat.toUInt16) else .error (.listedTag n)

def ofRecord (r : Record) : Except StoreError SwitchPort := do
  let tag ← readTag (← r.optionalInteger "tag")
  return {
    uuid := ← r.uuid "_uuid"
    name := ← r.text "name"
    kind := .ofText ((← r.optionalText "type").getD "")
    addresses := ← r.texts "addresses"
    portSecurity := ← r.texts "port_security"
    enabled := ← r.optionalBoolean "enabled"
    tag := tag
    options := ← r.textMap "options"
    externalIds := ← r.textMap "external_ids"
    dhcpOptions := ← r.optionalUuid "dhcpv4_options" }

end SwitchPort

instance : Codec SwitchPort where
  encode r := .record [
    ("uuid", encode r.uuid),
    ("name", encode r.name),
    ("type", encode r.kind),
    ("addresses", encode r.addresses),
    ("port_security", encode r.portSecurity),
    ("enabled", encode r.enabled),
    ("tag", encode r.tag),
    ("options", encode r.options),
    ("external_ids", encode r.externalIds),
    ("dhcpv4_options", encode r.dhcpOptions)]
  decode? d := do
    let f ← d.fields? ["uuid", "name", "type", "addresses", "port_security", "enabled", "tag",
      "options", "external_ids", "dhcpv4_options"]
    return {
      uuid := ← f.required? "uuid"
      name := ← f.required? "name"
      kind := ← f.withDefault? "type" .normal
      addresses := ← f.withDefault? "addresses" []
      portSecurity := ← f.withDefault? "port_security" []
      enabled := ← f.withDefault? "enabled" none
      tag := ← f.withDefault? "tag" none
      options := ← f.withDefault? "options" {}
      externalIds := ← f.withDefault? "external_ids" {}
      dhcpOptions := ← f.withDefault? "dhcpv4_options" none }

end LogicalNet
