import LogicalNet.Document.Codec

/-!
# Load balancers of tenants

A load balancer spreads the connections to one address over its members, by the
port of a listener.
-/

namespace LogicalNet
namespace Tenant

structure Listener where
  id : String
  port : UInt16
  deriving DecidableEq

/-- A member without a listener serves every listener. -/
structure Member where
  listener : String := ""
  address : String
  port : UInt16
  deriving DecidableEq

structure BalancerSpec where
  vip : String
  protocol : String := ""
  listeners : List Listener := []
  members : List Member := []
  deriving DecidableEq

structure Balancer where
  id : String
  project : String := ""
  name : String := ""
  spec : BalancerSpec
  deriving DecidableEq

/-! ## As documents -/

instance : Codec Listener where
  encode x := .record [("id", encode x.id), ("port", encode x.port)]
  decode? d := do
    let f ← d.fields? ["id", "port"]
    return { id := ← f.required? "id", port := ← f.required? "port" }

instance : Codec Member where
  encode x := .record [
    ("listener_id", encode x.listener),
    ("address", encode x.address),
    ("port", encode x.port)]
  decode? d := do
    let f ← d.fields? ["listener_id", "address", "port"]
    return {
      listener := ← f.withDefault? "listener_id" ""
      address := ← f.required? "address"
      port := ← f.required? "port" }

instance : Codec BalancerSpec where
  encode x := .record [
    ("vip", encode x.vip),
    ("protocol", encode x.protocol),
    ("listeners", encode x.listeners),
    ("members", encode x.members)]
  decode? d := do
    let f ← d.fields? ["vip", "protocol", "listeners", "members"]
    return {
      vip := ← f.required? "vip"
      protocol := ← f.withDefault? "protocol" ""
      listeners := ← f.withDefault? "listeners" []
      members := ← f.withDefault? "members" [] }

instance : Codec Balancer where
  encode x := .record [
    ("id", encode x.id),
    ("project_id", encode x.project),
    ("name", encode x.name),
    ("spec", encode x.spec)]
  decode? d := do
    let f ← d.fields? ["id", "project_id", "name", "spec"]
    return {
      id := ← f.required? "id"
      project := ← f.withDefault? "project_id" ""
      name := ← f.withDefault? "name" ""
      spec := ← f.required? "spec" }

end Tenant
end LogicalNet
