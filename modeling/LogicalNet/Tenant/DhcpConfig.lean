import LogicalNet.Row.Service
import LogicalNet.Tenant.Network

/-!
# Answers to DHCP requests

What the virtual DHCP server of a network answers, and the options of its row.  The
server speaks from the address of the gateway.
-/

namespace LogicalNet
namespace Tenant

structure DhcpConfig where
  cidr : String
  serverId : String
  /-- Drawn when it is not given. -/
  serverMac : Option Mac := none
  router : String
  /-- Seconds; zero stands for the usual lease. -/
  leaseTime : UInt32 := 0
  dnsServers : List String := []
  ntpServers : List String := []
  mtu : Option UInt32 := none
  domainName : Option String := none
  externalIds : ExternalIds := {}
  deriving DecidableEq

namespace DhcpConfig

/-- A day. -/
def usualLease : UInt32 := 86400

/-- The answers for a network on the given switch; none when the network has DHCP turned off or has
no IPv4 subnet. -/
def ofNetwork? (network : Network) (switch : String) : Option DhcpConfig :=
  let addressing := network.spec.addressing
  let dhcp := addressing.dhcp
  if dhcp.enabled && !addressing.subnet.isEmpty then
    some {
      cidr := addressing.subnet
      serverId := addressing.gateway
      router := addressing.gateway
      leaseTime := dhcp.leaseTime
      dnsServers := dhcp.dnsServers
      ntpServers := dhcp.ntpServers
      domainName := if dhcp.domainName.isEmpty then none else some dhcp.domainName
      externalIds := .ofPairs [(ExternalId.network, network.id), (ExternalId.switch, switch)] }
  else
    none

/-- One address stands alone, several stand in braces. -/
def addressList : List String → String
  | [address] => address
  | addresses => "\x7b" ++ Text.join ", " addresses ++ "\x7d"

/-- The options of the row, in no order; those not asked for are left out. -/
def options (c : DhcpConfig) (serverMac : Mac) : TextMap String :=
  let lease := if 0 < c.leaseTime then c.leaseTime else usualLease
  let always := [
    ("server_id", c.serverId),
    ("server_mac", serverMac.address),
    ("router", c.router),
    ("lease_time", Text.decimal lease.toNat)]
  let dns := if c.dnsServers.isEmpty then [] else [("dns_server", addressList c.dnsServers)]
  let ntp := if c.ntpServers.isEmpty then [] else [("ntp_server", addressList c.ntpServers)]
  let mtu :=
    match c.mtu with
    | some n => if 0 < n then [("mtu", Text.decimal n.toNat)] else []
    | none => []
  let domain :=
    match c.domainName with
    | some name => if name.isEmpty then [] else [("domain_name", "\"" ++ name ++ "\"")]
    | none => []
  TextMap.ofList (always ++ dns ++ ntp ++ mtu ++ domain)

end DhcpConfig

instance : Codec DhcpConfig where
  encode c := .record [
    ("cidr", encode c.cidr),
    ("server_id", encode c.serverId),
    ("server_mac", encode c.serverMac),
    ("router", encode c.router),
    ("lease_time", encode c.leaseTime),
    ("dns_servers", encode c.dnsServers),
    ("ntp_servers", encode c.ntpServers),
    ("mtu", encode c.mtu),
    ("domain_name", encode c.domainName),
    ("external_ids", encode c.externalIds)]
  decode? d := do
    let f ← d.fields? ["cidr", "server_id", "server_mac", "router", "lease_time", "dns_servers",
      "ntp_servers", "mtu", "domain_name", "external_ids"]
    return {
      cidr := ← f.required? "cidr"
      serverId := ← f.required? "server_id"
      serverMac := ← f.withDefault? "server_mac" none
      router := ← f.required? "router"
      leaseTime := ← f.withDefault? "lease_time" 0
      dnsServers := ← f.withDefault? "dns_servers" []
      ntpServers := ← f.withDefault? "ntp_servers" []
      mtu := ← f.withDefault? "mtu" none
      domainName := ← f.withDefault? "domain_name" none
      externalIds := ← f.withDefault? "external_ids" {} }

end Tenant
end LogicalNet
