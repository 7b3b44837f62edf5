import LogicalNet.Client.Switches
import LogicalNet.Tenant.LoadBalancer

/-!
# Calls on load balancers

Every listener with a member becomes one virtual address with the list of the
members that serve it.
-/

namespace LogicalNet
namespace Client

open Tenant (Balancer BalancerSpec Listener Member)

/-- An address with a port; an IPv6 address stands in brackets. -/
def endpoint (address : String) (port : UInt16) : String :=
  if address.toList.contains ':' then
    "[" ++ address ++ "]:" ++ Text.decimal port.toNat
  else
    address ++ ":" ++ Text.decimal port.toNat

def serves (member : Member) (listener : Listener) : Bool :=
  member.listener.isEmpty || member.listener == listener.id

/-- The members behind a listener, in their order. -/
def backends (spec : BalancerSpec) (listener : Listener) : List String :=
  (spec.members.filter fun m => serves m listener).map fun m => endpoint m.address m.port

/-- The virtual addresses; of two listeners at one port the later one counts. -/
def balancerVips (spec : BalancerSpec) : TextMap String :=
  let served := spec.listeners.filter fun l => !(backends spec l).isEmpty
  TextMap.ofList
    (served.map fun l => (endpoint spec.vip l.port, Text.join "," (backends spec l)))

def balancerRow (balancer : Balancer) (uuid : String) : Except InputFault LoadBalancer := do
  let vip ← NetAddress.read balancer.spec.vip
  if vip.isSubnet then
    .error (.vipSubnet vip)
  else
    let protocol := Text.lower (Text.trim balancer.spec.protocol)
    return {
      uuid := uuid
      name := Name.loadBalancer balancer.id
      vips := balancerVips balancer.spec
      protocol := some (if protocol.isEmpty then "tcp" else protocol)
      externalIds := .ofPairs
        [(ExternalId.loadBalancer, balancer.id), (ExternalId.project, balancer.project)] }

def createBalancer (balancer : Balancer) : Plan (Transaction LoadBalancer) := do
  let uuid ← Plan.drawUuid
  let row ← balancerRow balancer uuid
  Plan.write [.insert (.loadBalancer row)] row

def requireBalancer (balancer : String) : Plan LoadBalancer :=
  Plan.require LoadBalancer (.name (Name.loadBalancer balancer))

def getBalancer (balancer : String) : Plan (Transaction LoadBalancer) :=
  Plan.answer (requireBalancer balancer)

/-- The row is built anew under its old identifier, or made when there is none. -/
def updateBalancer (balancer : Balancer) : Plan (Transaction LoadBalancer) := do
  match ← Plan.fetch LoadBalancer (.name (Name.loadBalancer balancer.id)) with
  | none => createBalancer balancer
  | some old =>
      let row ← balancerRow balancer old.uuid
      Plan.write [.update (.loadBalancer row)] row

def deleteBalancer (balancer : String) : Plan (Transaction Unit) := do
  match ← Plan.fetch LoadBalancer (.name (Name.loadBalancer balancer)) with
  | none => Plan.write [] ()
  | some row =>
      let detach (table : Table) (owner : String) : Operation :=
        .removeRefs table (.uuid owner) .loadBalancers [row.uuid]
      let switches ← Plan.listAll Switch
      let routers ← Plan.listAll Router
      let offSwitches := (switches.filter fun s => s.loadBalancers.contains row.uuid).map
        fun s => detach .switch s.uuid
      let offRouters := (routers.filter fun r => r.loadBalancers.contains row.uuid).map
        fun r => detach .router r.uuid
      Plan.write (offSwitches ++ offRouters ++ [deleteOperation .loadBalancer row.uuid]) ()

/-- Adds the balancer to the references of an owner that does not have it yet. -/
def assign (table : Table) (owner : String) (assigned : List String) (balancer : LoadBalancer) :
    Plan (Transaction Unit) :=
  if assigned.contains balancer.uuid then Plan.write [] ()
  else Plan.write [.addRefs table (.uuid owner) .loadBalancers [balancer.uuid]] ()

def assignToSwitch (balancer network : String) : Plan (Transaction Unit) := do
  let switch ← Plan.require Switch (.name (Name.switch network))
  let row ← requireBalancer balancer
  assign .switch switch.uuid switch.loadBalancers row

def assignToRouter (balancer router : String) : Plan (Transaction Unit) := do
  let routerRow ← Plan.require Router (.name (Name.router router))
  let row ← requireBalancer balancer
  assign .router routerRow.uuid routerRow.loadBalancers row

end Client
end LogicalNet
