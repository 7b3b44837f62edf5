import LogicalNet.Document.Codec

/-!
# Networks of tenants

What a tenant asks for: a network, with its addresses and the answers that its
hosts get to DHCP requests.
-/

namespace LogicalNet
namespace Tenant

inductive NetworkKind where
  | overlay
  | vlan
  | external
  | isolated
  deriving DecidableEq

structure Vlan where
  number : UInt32
  physicalNetwork : String := ""
  deriving DecidableEq

structure Dhcp where
  enabled : Bool := false
  /-- Seconds; zero stands for the usual lease. -/
  leaseTime : UInt32 := 0
  dnsServers : List String := []
  domainName : String := ""
  ntpServers : List String := []
  deriving DecidableEq

structure Addressing where
  subnet : String := ""
  gateway : String := ""
  dhcp : Dhcp := {}
  deriving DecidableEq

structure NetworkSpec where
  kind : NetworkKind := .overlay
  vlan : Option Vlan := none
  addressing : Addressing := {}
  /-- Zero leaves the size of packets open. -/
  mtu : UInt32 := 0
  deriving DecidableEq

structure Network where
  id : String
  project : String := ""
  name : String := ""
  spec : NetworkSpec := {}
  deriving DecidableEq

/-! ## As documents -/

namespace NetworkKind

def text : NetworkKind → String
  | overlay => "OVERLAY"
  | vlan => "VLAN"
  | external => "EXTERNAL"
  | isolated => "ISOLATED"

def ofText? : String → Option NetworkKind
  | "OVERLAY" => some overlay
  | "VLAN" => some vlan
  | "EXTERNAL" => some external
  | "ISOLATED" => some isolated
  | _ => none

end NetworkKind

instance : Codec NetworkKind where
  encode k := .text k.text
  decode? d := d.choice?.bind NetworkKind.ofText?

instance : Codec Vlan where
  encode v := .record [
    ("vlan_id", encode v.number),
    ("physical_network", encode v.physicalNetwork)]
  decode? d := do
    let f ← d.fields? ["vlan_id", "physical_network"]
    return {
      number := ← f.required? "vlan_id"
      physicalNetwork := ← f.withDefault? "physical_network" "" }

instance : Codec Dhcp where
  encode x := .record [
    ("enabled", encode x.enabled),
    ("lease_time_sec", encode x.leaseTime),
    ("dns_servers", encode x.dnsServers),
    ("domain_name", encode x.domainName),
    ("ntp_servers", encode x.ntpServers)]
  decode? d := do
    let f ← d.fields? ["enabled", "lease_time_sec", "dns_servers", "domain_name", "ntp_servers"]
    return {
      enabled := ← f.withDefault? "enabled" false
      leaseTime := ← f.withDefault? "lease_time_sec" 0
      dnsServers := ← f.withDefault? "dns_servers" []
      domainName := ← f.withDefault? "domain_name" ""
      ntpServers := ← f.withDefault? "ntp_servers" [] }

instance : Codec Addressing where
  encode x := .record [
    ("ipv4_subnet", encode x.subnet),
    ("ipv4_gateway", encode x.gateway),
    ("dhcp", encode x.dhcp)]
  decode? d := do
    let f ← d.fields? ["ipv4_subnet", "ipv4_gateway", "dhcp"]
    return {
      subnet := ← f.withDefault? "ipv4_subnet" ""
      gateway := ← f.withDefault? "ipv4_gateway" ""
      dhcp := ← f.withDefault? "dhcp" {} }

instance : Codec NetworkSpec where
  encode x := .record [
    ("type", encode x.kind),
    ("vlan", encode x.vlan),
    ("ip_config", encode x.addressing),
    ("mtu", encode x.mtu)]
  decode? d := do
    let f ← d.fields? ["type", "vlan", "ip_config", "mtu"]
    return {
      kind := ← f.withDefault? "type" .overlay
      vlan := ← f.withDefault? "vlan" none
      addressing := ← f.withDefault? "ip_config" {}
      mtu := ← f.withDefault? "mtu" 0 }

instance : Codec Network where
  encode x := .record [
    ("id", encode x.id),
    ("project_id", encode x.project),
    ("name", encode x.name),
    ("spec", encode x.spec)]
  decode? d := do
    let f ← d.fields? ["id", "project_id", "name", "spec"]
    return {
      id := ← f.required? "id"
      project := ← f.withDefault? "project_id" ""
      name := ← f.withDefault? "name" ""
      spec := ← f.withDefault? "spec" {} }

end Tenant
end LogicalNet
