import LogicalNet.Client.Switches
import LogicalNet.Policy.Compiled

/-!
# Calls on security groups

A security group is stored as what it compiles to.  Storing it again replaces all of
its access control lists, and keeps its members and its addresses.
-/

namespace LogicalNet
namespace Client

/-- The group goes after the lists that only it refers to. -/
def removeGroup (group : PortGroup) : List Operation :=
  group.acls.map (deleteOperation .acl) ++ [deleteOperation .portGroup group.uuid]

def createGroup (group : SecurityGroup) : Plan (Transaction CompiledGroup) := do
  match group.plan with
  | .error cause => Plan.reject (.rule cause)
  | .ok plan =>
      let compiled := plan.withUuids (← Plan.drawUuids plan.size)
      let oldGroup ← Plan.fetch PortGroup (.name compiled.portGroup.name)
      let oldSet ← Plan.fetch AddressSet (.name compiled.addressSet.name)
      let portGroup :=
        match oldGroup with
        | some old => { compiled.portGroup with ports := old.ports }
        | none => compiled.portGroup
      let addressSet :=
        match oldSet with
        | some old => { compiled.addressSet with addresses := old.addresses }
        | none => compiled.addressSet
      let groupGone := oldGroup.toList.flatMap removeGroup
      let setGone := oldSet.toList.map fun old => deleteOperation .addressSet old.uuid
      Plan.write
        (groupGone ++ setGone ++
          [.insert (.addressSet addressSet)] ++
          compiled.acls.map (fun acl => .insert (.acl acl)) ++
          [.insert (.portGroup portGroup)])
        { compiled with portGroup := portGroup, addressSet := addressSet }

def deleteGroup (group : String) : Plan (Transaction Unit) := do
  let old ← Plan.fetch PortGroup (.name (Name.portGroup group))
  Plan.write
    (old.toList.flatMap removeGroup ++
      [.delete .addressSet (.name (Name.addressSet group))]) ()

def requireGroup (group : String) : Plan PortGroup :=
  Plan.require PortGroup (.name (Name.portGroup group))

def getPortGroup (group : String) : Plan (Transaction PortGroup) :=
  Plan.answer (requireGroup group)

def getAddressSet (group : String) : Plan (Transaction AddressSet) :=
  Plan.answer (Plan.require AddressSet (.name (Name.addressSet group)))

def getAcl (uuid : String) : Plan (Transaction Acl) :=
  Plan.answer (Plan.require Acl (.uuid uuid))

/-- Every list stored for the group, those built in as well. -/
def getAcls (group : String) : Plan (Transaction (List Acl)) :=
  Plan.answer (Plan.findAll Acl ExternalId.securityGroup group)

/-! ## Members and addresses -/

def applyGroup (port group : String) : Plan (Transaction Unit) := do
  let groupRow ← requireGroup group
  let portRow ← Plan.require SwitchPort (.name (Name.switchPort port))
  if groupRow.ports.contains portRow.uuid then
    Plan.write [] ()
  else
    Plan.write [.addRefs .portGroup (.uuid groupRow.uuid) .ports [portRow.uuid]] ()

def removeFromGroup (port group : String) : Plan (Transaction Unit) := do
  match ← Plan.fetch SwitchPort (.name (Name.switchPort port)) with
  | none => Plan.write [] ()
  | some row =>
      Plan.write [.removeRefs .portGroup (.name (Name.portGroup group)) .ports [row.uuid]] ()

/-- The first text that is no address. -/
def badAddress? (addresses : List String) : Option String :=
  addresses.find? fun a => (NetAddress.ofText? a).isNone

def updateAddresses (group : String) (addresses : List String) : Plan (Transaction AddressSet) := do
  let old ← Plan.require AddressSet (.name (Name.addressSet group))
  match badAddress? addresses with
  | some a => Plan.reject (.address a)
  | none =>
      let row := { old with addresses := addresses }
      Plan.write [.update (.addressSet row)] row

end Client
end LogicalNet
