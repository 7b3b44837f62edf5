import LogicalNet.Client.Balancers
import LogicalNet.Client.Groups
import LogicalNet.Client.Routers

/-!
# Requests

Everything that the client can be asked for.  Each request is one call, so that it
either changes what its transaction says or nothing at all; only the creation of a
switch is two, as the DHCP options of its network may fail without undoing the
switch.
-/

namespace LogicalNet
namespace Client

open Tenant (Balancer DhcpConfig Network Port)

inductive Request where
  | createSwitch (network : Network)
  | getSwitch (network : String)
  | listSwitches
  | deleteSwitch (network : String)
  | createPort (port : Port)
  | getPort (port : String)
  | deletePort (port : String)
  | bindPort (port vm host : String)
  | createLocalnetPort (network : String) (vlan : UInt32) (physicalNetwork : String)
  | createDhcpOptions (config : DhcpConfig)
  | getDhcpOptions (uuid : String)
  | updateDhcpOptions (options : DhcpOptions)
  | deleteDhcpOptions (uuid : String)
  | createRouter (router project : String) (distributed : Bool)
  | getRouter (router : String)
  | deleteRouter (router : String)
  | addInterface (router network gateway : String)
  | removeInterface (router network : String)
  | addRoute (router destination nextHop : String)
  | deleteRoute (router destination : String)
  | createGroup (group : SecurityGroup)
  | deleteGroup (group : String)
  | getPortGroup (group : String)
  | getAddressSet (group : String)
  | getAcl (uuid : String)
  | getAcls (group : String)
  | applyGroup (port group : String)
  | removeFromGroup (port group : String)
  | updateAddresses (group : String) (addresses : List String)
  | createFloatingIp (router floating internal : String)
  | deleteFloatingIp (floating : String)
  | createSnat (router external subnet : String)
  | getNat (uuid : String)
  | deleteNat (uuid : String)
  | createBalancer (balancer : Balancer)
  | getBalancer (balancer : String)
  | updateBalancer (balancer : Balancer)
  | deleteBalancer (balancer : String)
  | assignToSwitch (balancer network : String)
  | assignToRouter (balancer router : String)
  deriving DecidableEq

/-- A new switch with what came of the DHCP options of its network. -/
structure SwitchCreation where
  switch : Switch
  dhcpOptions : Option DhcpOptions
  dhcpError : Option StoreError

inductive Answer where
  | done
  | row (row : Row)
  | rows (rows : List Row)
  | creation (creation : SwitchCreation)
  | compiled (group : CompiledGroup)

/-! ## Requests of one call -/

def toDone (p : Plan (Transaction Unit)) : Plan (Transaction Answer) :=
  p.bind fun t => .write t.operations .done

def toRow {ρ : Type} [RowType ρ] (p : Plan (Transaction ρ)) : Plan (Transaction Answer) :=
  p.bind fun t => .write t.operations (.row (RowType.toRow t.result))

def toRows {ρ : Type} [RowType ρ] (p : Plan (Transaction (List ρ))) :
    Plan (Transaction Answer) :=
  p.bind fun t => .write t.operations (.rows (t.result.map RowType.toRow))

def toCompiled (p : Plan (Transaction CompiledGroup)) : Plan (Transaction Answer) :=
  p.bind fun t => .write t.operations (.compiled t.result)

/-- The call of a request; the first of the two for the creation of a switch. -/
def Request.plan : Request → Plan (Transaction Answer)
  | createSwitch network => toRow (Client.createSwitch network)
  | getSwitch network => toRow (Client.getSwitch network)
  | listSwitches => toRows Client.listSwitches
  | deleteSwitch network => toDone (Client.deleteSwitch network)
  | createPort port => toRow (Client.createPort port)
  | getPort port => toRow (Client.getPort port)
  | deletePort port => toDone (Client.deletePort port)
  | bindPort port vm host => toDone (Client.bindPort port vm host)
  | createLocalnetPort network vlan physicalNetwork =>
      toRow (Client.createLocalnetPort network vlan physicalNetwork)
  | createDhcpOptions config => toRow (Client.createDhcpOptions config)
  | getDhcpOptions uuid => toRow (Client.getDhcpOptions uuid)
  | updateDhcpOptions options => toDone (Client.updateDhcpOptions options)
  | deleteDhcpOptions uuid => toDone (Client.deleteDhcpOptions uuid)
  | createRouter router project distributed =>
      toRow (Client.createRouter router project distributed)
  | getRouter router => toRow (Client.getRouter router)
  | deleteRouter router => toDone (Client.deleteRouter router)
  | addInterface router network gateway => toRow (Client.addInterface router network gateway)
  | removeInterface router network => toDone (Client.removeInterface router network)
  | addRoute router destination nextHop => toRow (Client.addRoute router destination nextHop)
  | deleteRoute router destination => toDone (Client.deleteRoute router destination)
  | createGroup group => toCompiled (Client.createGroup group)
  | deleteGroup group => toDone (Client.deleteGroup group)
  | getPortGroup group => toRow (Client.getPortGroup group)
  | getAddressSet group => toRow (Client.getAddressSet group)
  | getAcl uuid => toRow (Client.getAcl uuid)
  | getAcls group => toRows (Client.getAcls group)
  | applyGroup port group => toDone (Client.applyGroup port group)
  | removeFromGroup port group => toDone (Client.removeFromGroup port group)
  | updateAddresses group addresses => toRow (Client.updateAddresses group addresses)
  | createFloatingIp router floating internal =>
      toRow (Client.createFloatingIp router floating internal)
  | deleteFloatingIp floating => toDone (Client.deleteFloatingIp floating)
  | createSnat router external subnet => toRow (Client.createSnat router external subnet)
  | getNat uuid => toRow (Client.getNat uuid)
  | deleteNat uuid => toDone (Client.deleteNat uuid)
  | createBalancer balancer => toRow (Client.createBalancer balancer)
  | getBalancer balancer => toRow (Client.getBalancer balancer)
  | updateBalancer balancer => toRow (Client.updateBalancer balancer)
  | deleteBalancer balancer => toDone (Client.deleteBalancer balancer)
  | assignToSwitch balancer network => toDone (Client.assignToSwitch balancer network)
  | assignToRouter balancer router => toDone (Client.assignToRouter balancer router)

/-! ## Performing requests -/

section Perform

variable {σ ι : Type} [Store σ] [IdSource ι]

/-- The switch of a network, then its DHCP options where it asks for them. -/
def createNetwork (network : Network) (s : σ) (ids : ι) :
    Except StoreError SwitchCreation × σ × ι :=
  let created := (Client.createSwitch network).perform s ids
  match created.1 with
  | .error e => (.error e, created.2)
  | .ok switch =>
      if network.spec.addressing.dhcp.enabled then
        let dhcp := (createNetworkDhcp network).perform created.2.1 created.2.2
        match dhcp.1 with
        | .ok options => (.ok ⟨switch, some options, none⟩, dhcp.2)
        | .error e => (.ok ⟨switch, none, some e⟩, dhcp.2)
      else
        (.ok ⟨switch, none, none⟩, created.2)

def Request.perform (r : Request) (s : σ) (ids : ι) : Except StoreError Answer × σ × ι :=
  match r with
  | createSwitch network =>
      let created := createNetwork network s ids
      (created.1.map .creation, created.2)
  | r => r.plan.perform s ids

end Perform
end Client
end LogicalNet
