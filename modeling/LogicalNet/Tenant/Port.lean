import LogicalNet.Document.Codec

/-!
# Ports of tenants

A port attaches the interface of a virtual machine to a network.
-/

namespace LogicalNet
namespace Tenant

/-- How the interface is made. -/
inductive BindingKind where
  | normal
  | direct
  | macvtap
  | vhostUser
  deriving DecidableEq

structure Binding where
  kind : BindingKind := .normal
  vhostSocket : String := ""
  deriving DecidableEq

structure FixedIp where
  subnet : String := ""
  address : String
  deriving DecidableEq

structure PortSpec where
  macAddress : String := ""
  fixedIps : List FixedIp := []
  securityGroups : List String := []
  portSecurity : Bool := false
  binding : Binding := {}
  deriving DecidableEq

structure PortStatus where
  vm : String := ""
  host : String := ""
  deriving DecidableEq

structure Port where
  id : String
  network : String
  spec : PortSpec := {}
  status : PortStatus := {}
  deriving DecidableEq

/-! ## As documents -/

namespace BindingKind

def text : BindingKind → String
  | normal => "NORMAL"
  | direct => "DIRECT"
  | macvtap => "MACVTAP"
  | vhostUser => "VHOST_USER"

def ofText? : String → Option BindingKind
  | "NORMAL" => some normal
  | "DIRECT" => some direct
  | "MACVTAP" => some macvtap
  | "VHOST_USER" => some vhostUser
  | _ => none

end BindingKind

instance : Codec BindingKind where
  encode k := .text k.text
  decode? d := d.choice?.bind BindingKind.ofText?

instance : Codec Binding where
  encode x := .record [("type", encode x.kind), ("vhost_socket", encode x.vhostSocket)]
  decode? d := do
    let f ← d.fields? ["type", "vhost_socket"]
    return {
      kind := ← f.withDefault? "type" .normal
      vhostSocket := ← f.withDefault? "vhost_socket" "" }

instance : Codec FixedIp where
  encode x := .record [("subnet_id", encode x.subnet), ("ip_address", encode x.address)]
  decode? d := do
    let f ← d.fields? ["subnet_id", "ip_address"]
    return {
      subnet := ← f.withDefault? "subnet_id" ""
      address := ← f.required? "ip_address" }

instance : Codec PortSpec where
  encode x := .record [
    ("mac_address", encode x.macAddress),
    ("fixed_ips", encode x.fixedIps),
    ("security_group_ids", encode x.securityGroups),
    ("port_security_enabled", encode x.portSecurity),
    ("binding", encode x.binding)]
  decode? d := do
    let f ← d.fields? ["mac_address", "fixed_ips", "security_group_ids", "port_security_enabled",
      "binding"]
    return {
      macAddress := ← f.required? "mac_address"
      fixedIps := ← f.withDefault? "fixed_ips" []
      securityGroups := ← f.withDefault? "security_group_ids" []
      portSecurity := ← f.withDefault? "port_security_enabled" false
      binding := ← f.withDefault? "binding" {} }

instance : Codec PortStatus where
  encode x := .record [("vm_id", encode x.vm), ("host_id", encode x.host)]
  decode? d := do
    let f ← d.fields? ["vm_id", "host_id"]
    return {
      vm := ← f.withDefault? "vm_id" ""
      host := ← f.withDefault? "host_id" "" }

instance : Codec Port where
  encode x := .record [
    ("id", encode x.id),
    ("network_id", encode x.network),
    ("spec", encode x.spec),
    ("status", encode x.status)]
  decode? d := do
    let f ← d.fields? ["id", "network_id", "spec", "status"]
    return {
      id := ← f.required? "id"
      network := ← f.required? "network_id"
      spec := ← f.withDefault? "spec" {}
      status := ← f.withDefault? "status" {} }

end Tenant
end LogicalNet
