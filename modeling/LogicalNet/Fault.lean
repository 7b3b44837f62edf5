import LogicalNet.Address.Ip
import LogicalNet.Address.Mac
import LogicalNet.Column.Record
import LogicalNet.Policy.RuleError
import LogicalNet.Row.Kinds
import LogicalNet.Schema

/-!
# Errors of the store

Every failure of a read or a write is one of a few kinds, each with its cause, and
`StoreError.message` gives the text for all of them.
-/

namespace LogicalNet

/-! ## Input that is refused -/

def greatestAclPriority : UInt16 := 32767

def greatestVlan : UInt32 := 4095

inductive InputFault where
  | mac (cause : MacError)
  | address (text : String)
  | aclDirection (text : String)
  | aclAction (text : String)
  | natKind (text : String)
  | listedPriority (priority : Int)
  | listedTag (tag : Int)
  | natExternalSubnet (external : NetAddress)
  | natLogicalSubnet (kind : NatKind) (logical : NetAddress)
  | nextHopSubnet (nextHop : NetAddress)
  | mixedFamilies (destination nextHop : NetAddress)
  | noUuid (table : Table)
  | noName (table : Table) (uuid : String)
  | aclPriority (priority : UInt16)
  | emptyMatch
  | notSubnet (cidr : String)
  | noReferenceColumn (table : Table) (column : RefColumn)
  | noMapColumn (table : Table) (column : MapColumn)
  | vlan (number : UInt32)
  | gatewayMask (gateway : String)
  | noDhcpSubnet
  | vipSubnet (vip : NetAddress)
  | rule (cause : RuleError)

def InputFault.message : InputFault → String
  | mac cause => cause.message
  | address text => text ++ " is not an ip or ip/mask"
  | aclDirection text => "unknown ACL direction " ++ text
  | aclAction text => "unknown ACL action " ++ text
  | natKind text => "unknown NAT type " ++ text
  | listedPriority priority => "ACL priority " ++ Text.signedDecimal priority ++ " out of range"
  | listedTag tag => "vlan tag " ++ Text.signedDecimal tag ++ " out of range"
  | natExternalSubnet external => "NAT external ip " ++ external.text ++ " cannot be a subnet"
  | natLogicalSubnet kind logical =>
      kind.text ++ " logical ip " ++ logical.text ++ " cannot be a subnet"
  | nextHopSubnet nextHop => "route next hop " ++ nextHop.text ++ " must be an ip"
  | mixedFamilies destination nextHop =>
      "route " ++ destination.text ++ " via " ++ nextHop.text ++ " mixes address families"
  | noUuid table => table.dbName ++ " row without a uuid"
  | noName table uuid => table.dbName ++ " row " ++ uuid ++ " without a name"
  | aclPriority priority =>
      "ACL priority " ++ Text.decimal priority.toNat ++ " is above " ++
        Text.decimal greatestAclPriority.toNat
  | emptyMatch => "ACL match expression is empty"
  | notSubnet cidr => "DHCP options need a cidr, got '" ++ cidr ++ "'"
  | noReferenceColumn table column =>
      table.dbName ++ " has no " ++ column.dbName ++ " reference column"
  | noMapColumn table column => table.dbName ++ " has no " ++ column.dbName ++ " column"
  | vlan number => "vlan " ++ Text.decimal number.toNat ++ " is outside 0..=4095"
  | gatewayMask gateway => "router interface gateway " ++ gateway ++ " needs a prefix length"
  | noDhcpSubnet => "an IPv4 subnet is required for DHCP"
  | vipSubnet vip => "load balancer vip " ++ vip.text ++ " must be an ip"
  | rule cause => cause.message

/-! ## Connections and commands -/

inductive ConnectionFault where
  | noAddress
  | noScheme
  | noPort
  | noHost
  | badPort
  | unsupported
  | closed
  /-- The reason that the system gives. -/
  | unreachable (reason : String)
  deriving DecidableEq

def ConnectionFault.message : ConnectionFault → String
  | noAddress => "no address configured"
  | noScheme => "expected tcp:<host>:<port>, ssl:<host>:<port> or unix:<path>"
  | noPort => "missing port"
  | noHost => "missing host"
  | badPort => "port is not a number"
  | unsupported => "unsupported remote"
  | closed => "store is closed"
  | unreachable reason => reason

inductive CommandFault where
  | listing (cause : ReadFault)
  /-- The command failed and said so. -/
  | failed (text : String)
  | unfinished (seconds : Nat)
  | notStarted (program reason : String)
  | notText (program reason : String)

def CommandFault.message : CommandFault → String
  | listing cause => cause.message
  | failed text => text
  | unfinished seconds => "ovn-nbctl did not finish within " ++ Text.decimal seconds ++ "s"
  | notStarted program reason => "could not run " ++ program ++ ": " ++ reason
  | notText program reason => program ++ " output is not utf-8: " ++ reason

/-! ## All failures -/

inductive StoreError where
  | alreadyExists (table : Table) (name : String)
  | notFound (table : Table) (name : String)
  | parentNotFound (name parent : String)
  | connection (address : String) (cause : ConnectionFault)
  | input (cause : InputFault)
  | wrongTable (expected found : Table)
  | command (cause : CommandFault)

namespace StoreError

def message : StoreError → String
  | alreadyExists table name => table.dbName ++ " " ++ name ++ " already exists"
  | notFound table name => table.dbName ++ " " ++ name ++ " does not exist"
  | parentNotFound name parent => "parent " ++ parent ++ " for " ++ name ++ " does not exist"
  | connection address cause =>
      "could not connect to the Northbound database at " ++ address ++ ": " ++ cause.message
  | input cause => "invalid input: " ++ cause.message
  | wrongTable expected found =>
      "expected a " ++ expected.dbName ++ " row but got a " ++ found.dbName ++ " row"
  | command cause => "Northbound command failed: " ++ cause.message

end StoreError

/-! ## Passing causes on -/

variable {α : Type}

instance : MonadLift (Except ReadFault) (Except StoreError) where
  monadLift
    | .ok a => .ok a
    | .error e => .error (.command (.listing e))

instance : MonadLift (Except InputFault) (Except StoreError) where
  monadLift
    | .ok a => .ok a
    | .error e => .error (.input e)

/-- The address of a text, or the refusal of it. -/
def NetAddress.read (s : String) : Except InputFault NetAddress :=
  match NetAddress.ofText? s with
  | some a => .ok a
  | none => .error (.address s)

def Mac.read (s : String) : Except InputFault Mac :=
  match Mac.ofText s with
  | .ok m => .ok m
  | .error e => .error (.mac e)

def AclDirection.read (s : String) : Except InputFault AclDirection :=
  match AclDirection.ofText? s with
  | some k => .ok k
  | none => .error (.aclDirection s)

def AclAction.read (s : String) : Except InputFault AclAction :=
  match AclAction.ofText? s with
  | some k => .ok k
  | none => .error (.aclAction s)

def NatKind.read (s : String) : Except InputFault NatKind :=
  match NatKind.ofText? s with
  | some k => .ok k
  | none => .error (.natKind s)

end LogicalNet
