import LogicalNet.Fault

/-!
# Routers and what hangs off them

The rows for routers, for their ports, their static routes and their NAT rules.
-/

namespace LogicalNet

structure Router where
  uuid : String
  name : String
  enabled : Option Bool := none
  ports : List String := []
  nat : List String := []
  loadBalancers : List String := []
  staticRoutes : List String := []
  options : TextMap String := {}
  externalIds : ExternalIds := {}
  deriving DecidableEq

namespace Router

def columns (r : Router) : List (String × Value) :=
  [("name", .text r.name),
    ("enabled", .optionalBoolean r.enabled),
    ("ports", .uuids r.ports),
    ("nat", .uuids r.nat),
    ("load_balancer", .uuids r.loadBalancers),
    ("static_routes", .uuids r.staticRoutes),
    ("options", .textMap r.options),
    ("external_ids", .textMap r.externalIds)]

def ofRecord (r : Record) : Except StoreError Router := do
  return {
    uuid := ← r.uuid "_uuid"
    name := ← r.text "name"
    enabled := ← r.optionalBoolean "enabled"
    ports := ← r.texts "ports"
    nat := ← r.texts "nat"
    loadBalancers := ← r.texts "load_balancer"
    staticRoutes := ← r.texts "static_routes"
    options := ← r.textMap "options"
    externalIds := ← r.textMap "external_ids" }

end Router

instance : Codec Router where
  encode r := .record [
    ("uuid", encode r.uuid),
    ("name", encode r.name),
    ("enabled", encode r.enabled),
    ("ports", encode r.ports),
    ("nat", encode r.nat),
    ("load_balancers", encode r.loadBalancers),
    ("static_routes", encode r.staticRoutes),
    ("options", encode r.options),
    ("external_ids", encode r.externalIds)]
  decode? d := do
    let f ← d.fields? ["uuid", "name", "enabled", "ports", "nat", "load_balancers",
      "static_routes", "options", "external_ids"]
    return {
      uuid := ← f.required? "uuid"
      name := ← f.required? "name"
      enabled := ← f.withDefault? "enabled" none
      ports := ← f.withDefault? "ports" []
      nat := ← f.withDefault? "nat" []
      loadBalancers := ← f.withDefault? "load_balancers" []
      staticRoutes := ← f.withDefault? "static_routes" []
      options := ← f.withDefault? "options" {}
      externalIds := ← f.withDefault? "external_ids" {} }

/-! ## Ports of routers -/

/-- The side of a router of its interface on a switch; its networks are gateway addresses with the
length of their masks. -/
structure RouterPort where
  uuid : String
  name : String
  mac : Mac
  networks : List String
  enabled : Option Bool := none
  peer : Option String := none
  externalIds : ExternalIds := {}
  deriving DecidableEq

namespace RouterPort

def columns (r : RouterPort) : List (String × Value) :=
  [("name", .text r.name),
    ("mac", .text r.mac.address),
    ("networks", .texts r.networks),
    ("enabled", .optionalBoolean r.enabled),
    ("peer", .optionalText r.peer),
    ("external_ids", .textMap r.externalIds)]

def ofRecord (r : Record) : Except StoreError RouterPort := do
  return {
    uuid := ← r.uuid "_uuid"
    name := ← r.text "name"
    mac := ← Mac.read (← r.text "mac")
    networks := ← r.texts "networks"
    enabled := ← r.optionalBoolean "enabled"
    peer := ← r.optionalText "peer"
    externalIds := ← r.textMap "external_ids" }

end RouterPort

instance : Codec RouterPort where
  encode r := .record [
    ("uuid", encode r.uuid),
    ("name", encode r.name),
    ("mac", encode r.mac),
    ("networks", encode r.networks),
    ("enabled", encode r.enabled),
    ("peer", encode r.peer),
    ("external_ids", encode r.externalIds)]
  decode? d := do
    let f ← d.fields? ["uuid", "name", "mac", "networks", "enabled", "peer", "external_ids"]
    return {
      uuid := ← f.required? "uuid"
      name := ← f.required? "name"
      mac := ← f.required? "mac"
      networks := ← f.required? "networks"
      enabled := ← f.withDefault? "enabled" none
      peer := ← f.withDefault? "peer" none
      externalIds := ← f.withDefault? "external_ids" {} }

/-! ## Static routes -/

structure StaticRoute where
  uuid : String
  destination : NetAddress
  nextHop : NetAddress
  externalIds : ExternalIds := {}
  deriving DecidableEq

namespace StaticRoute

/-- A route to a host or a subnet by way of a host of the same family. -/
def build (uuid : String) (destination nextHop : NetAddress) : Except InputFault StaticRoute :=
  if nextHop.isSubnet then .error (.nextHopSubnet nextHop)
  else if destination.isV6 != nextHop.isV6 then .error (.mixedFamilies destination nextHop)
  else .ok { uuid, destination, nextHop }

def columns (r : StaticRoute) : List (String × Value) :=
  [("ip_prefix", .text r.destination.text),
    ("nexthop", .text r.nextHop.text),
    ("external_ids", .textMap r.externalIds)]

def ofRecord (r : Record) : Except StoreError StaticRoute := do
  return {
    uuid := ← r.uuid "_uuid"
    destination := ← NetAddress.read (← r.text "ip_prefix")
    nextHop := ← NetAddress.read (← r.text "nexthop")
    externalIds := ← r.textMap "external_ids" }

end StaticRoute

instance : Codec StaticRoute where
  encode r := .record [
    ("uuid", encode r.uuid),
    ("ip_prefix", encode r.destination),
    ("nexthop", encode r.nextHop),
    ("external_ids", encode r.externalIds)]
  decode? d := do
    let f ← d.fields? ["uuid", "ip_prefix", "nexthop", "external_ids"]
    return {
      uuid := ← f.required? "uuid"
      destination := ← f.required? "ip_prefix"
      nextHop := ← f.required? "nexthop"
      externalIds := ← f.withDefault? "external_ids" {} }

/-! ## NAT rules -/

structure NatRule where
  uuid : String
  kind : NatKind
  external : NetAddress
  logical : NetAddress
  externalIds : ExternalIds := {}
  deriving DecidableEq

namespace NatRule

/-- A rule with a single external address; only one for the source may be for a whole subnet. -/
def build (uuid : String) (kind : NatKind) (external logical : NetAddress) :
    Except InputFault NatRule :=
  if external.isSubnet then .error (.natExternalSubnet external)
  else if kind ≠ .source && logical.isSubnet then .error (.natLogicalSubnet kind logical)
  else .ok { uuid, kind, external, logical }

/-- The name of the router that the rule was made on. -/
def router? (r : NatRule) : Option String :=
  r.externalIds.get? ExternalId.router

def columns (r : NatRule) : List (String × Value) :=
  [("type", .text r.kind.text),
    ("external_ip", .text r.external.text),
    ("logical_ip", .text r.logical.text),
    ("external_ids", .textMap r.externalIds)]

def ofRecord (r : Record) : Except StoreError NatRule := do
  return {
    uuid := ← r.uuid "_uuid"
    kind := ← NatKind.read (← r.text "type")
    external := ← NetAddress.read (← r.text "external_ip")
    logical := ← NetAddress.read (← r.text "logical_ip")
    externalIds := ← r.textMap "external_ids" }

end NatRule

instance : Codec NatRule where
  encode r := .record [
    ("uuid", encode r.uuid),
    ("type", encode r.kind),
    ("external_ip", encode r.external),
    ("logical_ip", encode r.logical),
    ("external_ids", encode r.externalIds)]
  decode? d := do
    let f ← d.fields? ["uuid", "type", "external_ip", "logical_ip", "external_ids"]
    return {
      uuid := ← f.required? "uuid"
      kind := ← f.required? "type"
      external := ← f.required? "external_ip"
      logical := ← f.required? "logical_ip"
      externalIds := ← f.withDefault? "external_ids" {} }

end LogicalNet
