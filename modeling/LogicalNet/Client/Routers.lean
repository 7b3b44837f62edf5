import LogicalNet.Client.Switches

/-!
# Calls on routers

An interface of a router on a network is a pair of ports, one on the router and its
peer on the switch.  NAT rules and static routes belong to one router.
-/

namespace LogicalNet
namespace Client

/-! ## Routers -/

/-- A distributed router runs on every host: the name of its host is empty. -/
def createRouter (router project : String) (distributed : Bool) : Plan (Transaction Router) := do
  let uuid ← Plan.drawUuid
  let row : Router := {
    uuid := uuid
    name := Name.router router
    enabled := some true
    options := if distributed then TextMap.ofList [("chassis", "")] else {}
    externalIds := .ofPairs [(ExternalId.routerId, router), (ExternalId.project, project)] }
  Plan.write [.insert (.router row)] row

def getRouter (router : String) : Plan (Transaction Router) :=
  Plan.answer (Plan.require Router (.name (Name.router router)))

/-- The router goes with all that it lists and with the peers of its ports. -/
def deleteRouter (router : String) : Plan (Transaction Unit) := do
  let name := Name.router router
  match ← Plan.fetch Router (.name name) with
  | none => Plan.write [] ()
  | some row =>
      let peers ← Plan.findAll SwitchPort ExternalId.router name
      let peersGone ← Plan.gather
        (fun (peer : SwitchPort) => do
          return (← leaveSwitches peer.uuid) ++ [deleteOperation .switchPort peer.uuid])
        peers
      Plan.write
        (peersGone ++
          row.ports.map (deleteOperation .routerPort) ++
          row.nat.map (deleteOperation .nat) ++
          row.staticRoutes.map (deleteOperation .staticRoute) ++
          [deleteOperation .router row.uuid]) ()

/-! ## Interfaces -/

/-- Connects a network to a router by the address of the router in the network. -/
def addInterface (router network gateway : String) : Plan (Transaction RouterPort) := do
  let routerName := Name.router router
  let switchName := Name.switch network
  let name := Name.routerPort routerName switchName
  let address ← NetAddress.read gateway
  if !address.isSubnet then
    Plan.reject (.gatewayMask gateway)
  else
    let routerRow ← Plan.requireParent Router routerName name
    let switchRow ← Plan.requireParent Switch switchName name
    let uuid ← Plan.drawUuid
    let mac ← Plan.drawMac
    let peerUuid ← Plan.drawUuid
    let owner : ExternalIds :=
      .ofPairs [(ExternalId.network, network), (ExternalId.router, routerName)]
    let port : RouterPort := {
      uuid := uuid
      name := name
      mac := mac
      networks := [gateway]
      enabled := some true
      externalIds := owner }
    let peer : SwitchPort := {
      uuid := peerUuid
      name := Name.routerPeer routerName switchName
      kind := .router
      addresses := ["router"]
      options := TextMap.ofList [("router-port", name)]
      externalIds := owner }
    Plan.write
      [.insert (.routerPort port),
        .addRefs .router (.uuid routerRow.uuid) .ports [uuid],
        .insert (.switchPort peer),
        .addRefs .switch (.uuid switchRow.uuid) .ports [peerUuid]] port

def removeInterface (router network : String) : Plan (Transaction Unit) := do
  let routerName := Name.router router
  let switchName := Name.switch network
  let port ← Plan.fetch RouterPort (.name (Name.routerPort routerName switchName))
  let portGone :=
    match port with
    | none => []
    | some p =>
        [.removeRefs .router (.name routerName) .ports [p.uuid],
          deleteOperation .routerPort p.uuid]
  let peer ← Plan.fetch SwitchPort (.name (Name.routerPeer routerName switchName))
  let peerGone :=
    match peer with
    | none => []
    | some p =>
        [.removeRefs .switch (.name switchName) .ports [p.uuid],
          deleteOperation .switchPort p.uuid]
  Plan.write (portGone ++ peerGone) ()

/-! ## Static routes -/

def addRoute (router destination nextHop : String) : Plan (Transaction StaticRoute) := do
  let routerName := Name.router router
  let row ← Plan.requireParent Router routerName destination
  let uuid ← Plan.drawUuid
  let target ← NetAddress.read destination
  let via ← NetAddress.read nextHop
  let built ← StaticRoute.build uuid target via
  let route := { built with externalIds := .ofPairs [(ExternalId.router, routerName)] }
  Plan.write
    [.insert (.staticRoute route),
      .addRefs .router (.uuid row.uuid) .staticRoutes [route.uuid]] route

/-- Every route of the router to the destination goes. -/
def deleteRoute (router destination : String) : Plan (Transaction Unit) := do
  let target ← NetAddress.read destination
  match ← Plan.fetch Router (.name (Name.router router)) with
  | none => Plan.write [] ()
  | some row =>
      let gone ← Plan.gather
        (fun uuid => do
          let route ← Plan.fetch StaticRoute (.uuid uuid)
          if route.any fun r => r.destination == target then
            return [
              .removeRefs .router (.uuid row.uuid) .staticRoutes [uuid],
              deleteOperation .staticRoute uuid]
          else
            return [])
        row.staticRoutes
      Plan.write gone ()

/-! ## NAT rules -/

/-- Makes the rule on the router, whose name it bears. -/
def attachNat (router : String) (rule : NatRule) : Plan (Transaction NatRule) := do
  let routerName := Name.router router
  let row ← Plan.requireParent Router routerName rule.external.text
  let rule := { rule with externalIds := rule.externalIds.insert ExternalId.router routerName }
  Plan.write
    [.insert (.nat rule), .addRefs .router (.uuid row.uuid) .nat [rule.uuid]] rule

/-- A public address for one machine, in both directions. -/
def createFloatingIp (router floating internal : String) : Plan (Transaction NatRule) := do
  let uuid ← Plan.drawUuid
  let external ← NetAddress.read floating
  let logical ← NetAddress.read internal
  let rule ← NatRule.build uuid .both external logical
  attachNat router
    { rule with externalIds := TextMap.ofList [(ExternalId.floatingIp, floating)] }

/-- A public address for what a subnet sends out. -/
def createSnat (router external subnet : String) : Plan (Transaction NatRule) := do
  let uuid ← Plan.drawUuid
  let external ← NetAddress.read external
  let logical ← NetAddress.read subnet
  let rule ← NatRule.build uuid .source external logical
  attachNat router { rule with externalIds := TextMap.ofList [(ExternalId.snat, "true")] }

def getNat (uuid : String) : Plan (Transaction NatRule) :=
  Plan.answer (Plan.require NatRule (.uuid uuid))

/-- Takes the rule off the router it names, or off every router when it names none. -/
def removeNat (rule : NatRule) : Plan (List Operation) := do
  let routers ←
    match rule.router? with
    | some name => Option.toList <$> Plan.fetch Router (.name name)
    | none => Plan.listAll Router
  let off := (routers.filter fun r => r.nat.contains rule.uuid).map fun r =>
    Operation.removeRefs .router (.uuid r.uuid) .nat [rule.uuid]
  return off ++ [deleteOperation .nat rule.uuid]

def deleteFloatingIp (floating : String) : Plan (Transaction Unit) := do
  let rules ← Plan.findAll NatRule ExternalId.floatingIp floating
  Plan.write (← Plan.gather removeNat rules) ()

def deleteNat (uuid : String) : Plan (Transaction Unit) := do
  match ← Plan.fetch NatRule (.uuid uuid) with
  | none => Plan.write [] ()
  | some rule => Plan.write (← removeNat rule) ()

end Client
end LogicalNet
