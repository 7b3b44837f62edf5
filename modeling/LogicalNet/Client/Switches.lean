import LogicalNet.Client.Plan
import LogicalNet.Tenant.DhcpConfig
import LogicalNet.Tenant.Port

/-!
# Calls on switches and their ports

A network is a switch, and what is attached to it are the ports of the switch.  A
port goes with its switch, and leaves every port group when it goes.
-/

namespace LogicalNet
namespace Client

open Tenant (BindingKind DhcpConfig Network Port)

/-! ## Switches -/

/-- What the switch says of its network. -/
def switchConfig (network : Network) : TextMap String :=
  let segment :=
    match network.spec.kind, network.spec.vlan with
    | .vlan, some vlan => [("vlan", Text.decimal vlan.number.toNat)]
    | .overlay, _ =>
        if network.spec.addressing.subnet.isEmpty then []
        else [("subnet", network.spec.addressing.subnet)]
    | _, _ => []
  let mtu := if 0 < network.spec.mtu then [("mtu", Text.decimal network.spec.mtu.toNat)] else []
  TextMap.ofList (segment ++ mtu)

def switchRow (network : Network) (uuid : String) : Switch where
  uuid := uuid
  name := Name.switch network.id
  externalIds := .ofPairs [
    (ExternalId.network, network.id),
    (ExternalId.project, network.project),
    (ExternalId.name, network.name)]
  otherConfig := switchConfig network

/-- The switch alone, without the DHCP options of its network. -/
def createSwitch (network : Network) : Plan (Transaction Switch) := do
  let switch := switchRow network (← Plan.drawUuid)
  Plan.write [.insert (.switch switch)] switch

def getSwitch (network : String) : Plan (Transaction Switch) :=
  Plan.answer (Plan.require Switch (.name (Name.switch network)))

def listSwitches : Plan (Transaction (List Switch)) :=
  Plan.answer (Plan.listAll Switch)

/-- Takes the port out of every group that it is a member of. -/
def leaveGroups (port : String) : Plan (List Operation) := do
  let groups ← Plan.listAll PortGroup
  return (groups.filter fun g => g.ports.contains port).map fun g =>
    .removeRefs .portGroup (.uuid g.uuid) .ports [port]

/-- Takes the port off every switch that lists it. -/
def leaveSwitches (port : String) : Plan (List Operation) := do
  let switches ← Plan.listAll Switch
  return (switches.filter fun s => s.ports.contains port).map fun s =>
    .removeRefs .switch (.uuid s.uuid) .ports [port]

def deleteOperation (table : Table) (uuid : String) : Operation :=
  .delete table (.uuid uuid)

/-- The switch goes with its ports and with the DHCP options made for it. -/
def deleteSwitch (network : String) : Plan (Transaction Unit) := do
  let name := Name.switch network
  let dhcp ← Plan.findAll DhcpOptions ExternalId.switch name
  let dhcpGone := dhcp.map fun d => deleteOperation .dhcpOptions d.uuid
  match ← Plan.fetch Switch (.name name) with
  | none => Plan.write dhcpGone ()
  | some switch =>
      let portsGone ← Plan.gather
        (fun port => do return (← leaveGroups port) ++ [deleteOperation .switchPort port])
        switch.ports
      Plan.write (dhcpGone ++ portsGone ++ [deleteOperation .switch switch.uuid]) ()

/-! ## DHCP options -/

def createDhcpOptions (config : DhcpConfig) : Plan (Transaction DhcpOptions) := do
  let mac ←
    match config.serverMac with
    | some mac => pure mac
    | none => Plan.drawMac
  let uuid ← Plan.drawUuid
  let options : DhcpOptions := {
    uuid := uuid
    cidr := config.cidr
    options := config.options mac
    externalIds := config.externalIds }
  Plan.write [.insert (.dhcpOptions options)] options

def getDhcpOptions (uuid : String) : Plan (Transaction DhcpOptions) :=
  Plan.answer (Plan.require DhcpOptions (.uuid uuid))

def updateDhcpOptions (options : DhcpOptions) : Plan (Transaction Unit) :=
  Plan.write [.update (.dhcpOptions options)] ()

def deleteDhcpOptions (uuid : String) : Plan (Transaction Unit) :=
  Plan.write [deleteOperation .dhcpOptions uuid] ()

/-- The DHCP options of a network that asks for them. -/
def createNetworkDhcp (network : Network) : Plan (Transaction DhcpOptions) :=
  match DhcpConfig.ofNetwork? network (Name.switch network.id) with
  | some config => createDhcpOptions config
  | none => Plan.reject .noDhcpSubnet

/-! ## Ports -/

def portKind : BindingKind → PortKind
  | .direct => .direct
  | .vhostUser => .vhostUser
  | .normal => .normal
  | .macvtap => .normal

/-- How the port is bound on its host. -/
def portOptions (port : Port) : TextMap String :=
  match port.spec.binding.kind with
  | .direct =>
      if port.status.host.isEmpty then {}
      else TextMap.ofList [("requested-chassis", port.status.host)]
  | .vhostUser =>
      if port.spec.binding.vhostSocket.isEmpty then {}
      else TextMap.ofList [("vhost-sock", port.spec.binding.vhostSocket)]
  | _ => {}

def portRow (port : Port) (mac : Mac) (uuid : String) (dhcp : Option String) : SwitchPort :=
  let address := Text.join " " (mac.address :: port.spec.fixedIps.map fun ip => ip.address)
  let secured := port.spec.portSecurity && !port.spec.securityGroups.isEmpty
  { uuid := uuid
    name := Name.switchPort port.id
    kind := portKind port.spec.binding.kind
    addresses := [address]
    portSecurity := if secured then [address] else []
    enabled := some true
    options := portOptions port
    externalIds := .ofPairs [(ExternalId.port, port.id), (ExternalId.vm, port.status.vm)]
    dhcpOptions := dhcp }

/-- Makes the port and puts it on the switch. -/
def attachPort (switch : Switch) (port : SwitchPort) : Plan (Transaction SwitchPort) :=
  Plan.write
    [.insert (.switchPort port), .addRefs .switch (.uuid switch.uuid) .ports [port.uuid]] port

/-- A port is served by the first DHCP options made for its switch. -/
def createPort (port : Port) : Plan (Transaction SwitchPort) := do
  let switchName := Name.switch port.network
  let switch ← Plan.requireParent Switch switchName (Name.switchPort port.id)
  let mac ← Mac.read port.spec.macAddress
  let uuid ← Plan.drawUuid
  let dhcp ← Plan.findAll DhcpOptions ExternalId.switch switchName
  attachPort switch (portRow port mac uuid (dhcp.head?.map DhcpOptions.uuid))

def getPort (port : String) : Plan (Transaction SwitchPort) :=
  Plan.answer (Plan.require SwitchPort (.name (Name.switchPort port)))

def deletePort (port : String) : Plan (Transaction Unit) := do
  match ← Plan.fetch SwitchPort (.name (Name.switchPort port)) with
  | none => Plan.write [] ()
  | some row =>
      let offSwitches ← leaveSwitches row.uuid
      let outOfGroups ← leaveGroups row.uuid
      Plan.write (offSwitches ++ outOfGroups ++ [deleteOperation .switchPort row.uuid]) ()

/-- Records the machine that uses the port and the host that it runs on. -/
def bindPort (port vm host : String) : Plan (Transaction Unit) := do
  let row ← Plan.require SwitchPort (.name (Name.switchPort port))
  let setKey (column : MapColumn) (key value : String) : Operation :=
    .setKeys .switchPort (.uuid row.uuid) column (TextMap.ofList [(key, value)])
  Plan.write
    [setKey .externalIds ExternalId.vm vm, setKey .options "requested-chassis" host] ()

/-- The port to the physical network; the number zero leaves its traffic untagged. -/
def createLocalnetPort (network : String) (vlan : UInt32) (physicalNetwork : String) :
    Plan (Transaction SwitchPort) := do
  let switchName := Name.switch network
  let name := Name.localnet switchName
  if greatestVlan < vlan then
    Plan.reject (.vlan vlan)
  else
    let switch ← Plan.requireParent Switch switchName name
    let uuid ← Plan.drawUuid
    attachPort switch {
      uuid := uuid
      name := name
      kind := .localnet
      addresses := ["unknown"]
      enabled := some true
      tag := if vlan = 0 then none else some vlan.toUInt16
      options := TextMap.ofList [("network_name", physicalNetwork)]
      externalIds := .ofPairs [(ExternalId.network, network)] }

end Client
end LogicalNet
