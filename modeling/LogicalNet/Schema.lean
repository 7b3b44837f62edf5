import LogicalNet.Document.Codec

/-!
# The schema of the Northbound database

The tables, the columns that refer to rows of other tables, and the columns that
hold maps of texts.  Rows of a table with a name index have distinct names and may
be addressed by them.  Rows of a table that is no root live only as long as another
row refers to them.
-/

namespace LogicalNet

inductive Table where
  | switch
  | switchPort
  | router
  | routerPort
  | staticRoute
  | acl
  | addressSet
  | portGroup
  | dhcpOptions
  | nat
  | loadBalancer
  deriving DecidableEq, Inhabited

namespace Table

def all : List Table :=
  [switch, switchPort, router, routerPort, staticRoute, acl, addressSet, portGroup, dhcpOptions,
    nat, loadBalancer]

theorem mem_all (t : Table) : t ∈ all := by
  cases t <;> decide

/-- The name of the table in the database. -/
def dbName : Table → String
  | switch => "Logical_Switch"
  | switchPort => "Logical_Switch_Port"
  | router => "Logical_Router"
  | routerPort => "Logical_Router_Port"
  | staticRoute => "Logical_Router_Static_Route"
  | acl => "ACL"
  | addressSet => "Address_Set"
  | portGroup => "Port_Group"
  | dhcpOptions => "DHCP_Options"
  | nat => "NAT"
  | loadBalancer => "Load_Balancer"

def hasNameIndex : Table → Bool
  | switch | switchPort | router | routerPort | addressSet | portGroup | loadBalancer => true
  | _ => false

def isRoot : Table → Bool
  | switch | router | addressSet | portGroup | dhcpOptions | loadBalancer => true
  | _ => false

/-- The name of the table in documents. -/
def documentName : Table → String
  | switch => "LogicalSwitch"
  | switchPort => "LogicalSwitchPort"
  | router => "LogicalRouter"
  | routerPort => "LogicalRouterPort"
  | staticRoute => "LogicalRouterStaticRoute"
  | acl => "Acl"
  | addressSet => "AddressSet"
  | portGroup => "PortGroup"
  | dhcpOptions => "DhcpOptions"
  | nat => "Nat"
  | loadBalancer => "LoadBalancer"

end Table

/-! ## Columns of references -/

inductive RefColumn where
  | ports
  | acls
  | nat
  | loadBalancers
  | staticRoutes
  deriving DecidableEq

namespace RefColumn

def all : List RefColumn :=
  [ports, acls, nat, loadBalancers, staticRoutes]

theorem mem_all (c : RefColumn) : c ∈ all := by
  cases c <;> decide

def dbName : RefColumn → String
  | ports => "ports"
  | acls => "acls"
  | nat => "nat"
  | loadBalancers => "load_balancer"
  | staticRoutes => "static_routes"

/-- The table of the rows that the column of an owner refers to. -/
def target? : RefColumn → Table → Option Table
  | ports, .switch => some .switchPort
  | ports, .portGroup => some .switchPort
  | ports, .router => some .routerPort
  | acls, .switch => some .acl
  | acls, .portGroup => some .acl
  | nat, .router => some .nat
  | loadBalancers, .switch => some .loadBalancer
  | loadBalancers, .router => some .loadBalancer
  | staticRoutes, .router => some .staticRoute
  | _, _ => none

def documentName : RefColumn → String
  | ports => "Ports"
  | acls => "Acls"
  | nat => "Nat"
  | loadBalancers => "LoadBalancers"
  | staticRoutes => "StaticRoutes"

end RefColumn

/-! ## Columns of maps -/

inductive MapColumn where
  | externalIds
  | options
  | otherConfig
  deriving DecidableEq

namespace MapColumn

def all : List MapColumn :=
  [externalIds, options, otherConfig]

def dbName : MapColumn → String
  | externalIds => "external_ids"
  | options => "options"
  | otherConfig => "other_config"

def documentName : MapColumn → String
  | externalIds => "ExternalIds"
  | options => "Options"
  | otherConfig => "OtherConfig"

end MapColumn

/-! ## Addressing a row -/

/-- A row is addressed by its name or by its identifier. -/
inductive Lookup where
  | name (text : String)
  | uuid (text : String)
  deriving DecidableEq

def Lookup.text : Lookup → String
  | name s => s
  | uuid s => s

/-- What keeps the rows: a database, or a simulation in memory. -/
inductive StoreKind where
  | remote
  | inMemory
  deriving DecidableEq

def StoreKind.text : StoreKind → String
  | remote => "remote"
  | inMemory => "mock"

/-! ## As documents -/

instance : Codec Table where
  encode t := .text t.documentName
  decode? d := d.choice?.bind fun s => Table.all.find? fun t => t.documentName == s

instance : Codec RefColumn where
  encode c := .text c.documentName
  decode? d := d.choice?.bind fun s => RefColumn.all.find? fun c => c.documentName == s

instance : Codec MapColumn where
  encode c := .text c.documentName
  decode? d := d.choice?.bind fun s => MapColumn.all.find? fun c => c.documentName == s

instance : Codec Lookup where
  encode
    | .name s => .record [("Name", encode s)]
    | .uuid s => .record [("Uuid", encode s)]
  decode?
    | .record [("Name", d)] => (decode? d).map .name
    | .record [("Uuid", d)] => (decode? d).map .uuid
    | _ => none

end LogicalNet
