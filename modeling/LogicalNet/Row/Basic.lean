import LogicalNet.Row.Access
import LogicalNet.Row.Router
import LogicalNet.Row.Service
import LogicalNet.Row.Switch

/-!
# Rows of any table

`Row` is one row of the database, whatever its table.  It knows its table, its
identifier and its name, its columns of references and of maps, and what is wrong
with it before it may be written.

A change of a column is a function on the column, so that a row without the column
stays as it is.
-/

namespace LogicalNet

inductive Row where
  | switch (row : Switch)
  | switchPort (row : SwitchPort)
  | router (row : Router)
  | routerPort (row : RouterPort)
  | staticRoute (row : StaticRoute)
  | acl (row : Acl)
  | addressSet (row : AddressSet)
  | portGroup (row : PortGroup)
  | dhcpOptions (row : DhcpOptions)
  | nat (row : NatRule)
  | loadBalancer (row : LoadBalancer)
  deriving DecidableEq

namespace Row

def table : Row → Table
  | switch _ => .switch
  | switchPort _ => .switchPort
  | router _ => .router
  | routerPort _ => .routerPort
  | staticRoute _ => .staticRoute
  | acl _ => .acl
  | addressSet _ => .addressSet
  | portGroup _ => .portGroup
  | dhcpOptions _ => .dhcpOptions
  | nat _ => .nat
  | loadBalancer _ => .loadBalancer

def uuid : Row → String
  | switch r => r.uuid
  | switchPort r => r.uuid
  | router r => r.uuid
  | routerPort r => r.uuid
  | staticRoute r => r.uuid
  | acl r => r.uuid
  | addressSet r => r.uuid
  | portGroup r => r.uuid
  | dhcpOptions r => r.uuid
  | nat r => r.uuid
  | loadBalancer r => r.uuid

def name? : Row → Option String
  | switch r => some r.name
  | switchPort r => some r.name
  | router r => some r.name
  | routerPort r => some r.name
  | addressSet r => some r.name
  | portGroup r => some r.name
  | loadBalancer r => some r.name
  | acl r => r.name
  | staticRoute _ => none
  | dhcpOptions _ => none
  | nat _ => none

def externalIds : Row → ExternalIds
  | switch r => r.externalIds
  | switchPort r => r.externalIds
  | router r => r.externalIds
  | routerPort r => r.externalIds
  | staticRoute r => r.externalIds
  | acl r => r.externalIds
  | addressSet r => r.externalIds
  | portGroup r => r.externalIds
  | dhcpOptions r => r.externalIds
  | nat r => r.externalIds
  | loadBalancer r => r.externalIds

/-! ## Before a write -/

/-- What is wrong with the contents of the row. -/
def contentFault? : Row → Option InputFault
  | acl r => r.fault?
  | dhcpOptions r => r.fault?
  | _ => none

/-- What is wrong with a row: it needs an identifier, in a table with a name index a name, and
contents that the schema allows. -/
def fault? (r : Row) : Option InputFault :=
  if r.uuid.isEmpty then some (.noUuid r.table)
  else if r.table.hasNameIndex && (r.name?.getD "").isEmpty then some (.noName r.table r.uuid)
  else r.contentFault?

/-! ## Columns of references -/

def references? : RefColumn → Row → Option (List String)
  | .ports, switch r => some r.ports
  | .acls, switch r => some r.acls
  | .loadBalancers, switch r => some r.loadBalancers
  | .ports, router r => some r.ports
  | .nat, router r => some r.nat
  | .loadBalancers, router r => some r.loadBalancers
  | .staticRoutes, router r => some r.staticRoutes
  | .ports, portGroup r => some r.ports
  | .acls, portGroup r => some r.acls
  | _, _ => none

def mapReferences (f : List String → List String) : RefColumn → Row → Row
  | .ports, switch r => switch { r with ports := f r.ports }
  | .acls, switch r => switch { r with acls := f r.acls }
  | .loadBalancers, switch r => switch { r with loadBalancers := f r.loadBalancers }
  | .ports, router r => router { r with ports := f r.ports }
  | .nat, router r => router { r with nat := f r.nat }
  | .loadBalancers, router r => router { r with loadBalancers := f r.loadBalancers }
  | .staticRoutes, router r => router { r with staticRoutes := f r.staticRoutes }
  | .ports, portGroup r => portGroup { r with ports := f r.ports }
  | .acls, portGroup r => portGroup { r with acls := f r.acls }
  | _, r => r

/-! ## Columns of maps -/

def map? : MapColumn → Row → Option (TextMap String)
  | .externalIds, r => some r.externalIds
  | .otherConfig, switch r => some r.otherConfig
  | .options, switchPort r => some r.options
  | .options, router r => some r.options
  | .options, dhcpOptions r => some r.options
  | _, _ => none

def mapKeys (f : TextMap String → TextMap String) : MapColumn → Row → Row
  | .externalIds, switch r => switch { r with externalIds := f r.externalIds }
  | .externalIds, switchPort r => switchPort { r with externalIds := f r.externalIds }
  | .externalIds, router r => router { r with externalIds := f r.externalIds }
  | .externalIds, routerPort r => routerPort { r with externalIds := f r.externalIds }
  | .externalIds, staticRoute r => staticRoute { r with externalIds := f r.externalIds }
  | .externalIds, acl r => acl { r with externalIds := f r.externalIds }
  | .externalIds, addressSet r => addressSet { r with externalIds := f r.externalIds }
  | .externalIds, portGroup r => portGroup { r with externalIds := f r.externalIds }
  | .externalIds, dhcpOptions r => dhcpOptions { r with externalIds := f r.externalIds }
  | .externalIds, nat r => nat { r with externalIds := f r.externalIds }
  | .externalIds, loadBalancer r => loadBalancer { r with externalIds := f r.externalIds }
  | .otherConfig, switch r => switch { r with otherConfig := f r.otherConfig }
  | .options, switchPort r => switchPort { r with options := f r.options }
  | .options, router r => router { r with options := f r.options }
  | .options, dhcpOptions r => dhcpOptions { r with options := f r.options }
  | _, r => r

/-! ## As columns -/

/-- Every column that is written; the identifier is not one of them. -/
def columns : Row → List (String × Value)
  | switch r => r.columns
  | switchPort r => r.columns
  | router r => r.columns
  | routerPort r => r.columns
  | staticRoute r => r.columns
  | acl r => r.columns
  | addressSet r => r.columns
  | portGroup r => r.columns
  | dhcpOptions r => r.columns
  | nat r => r.columns
  | loadBalancer r => r.columns

def ofRecord (table : Table) (r : Record) : Except StoreError Row :=
  match table with
  | .switch => (Switch.ofRecord r).map switch
  | .switchPort => (SwitchPort.ofRecord r).map switchPort
  | .router => (Router.ofRecord r).map router
  | .routerPort => (RouterPort.ofRecord r).map routerPort
  | .staticRoute => (StaticRoute.ofRecord r).map staticRoute
  | .acl => (Acl.ofRecord r).map acl
  | .addressSet => (AddressSet.ofRecord r).map addressSet
  | .portGroup => (PortGroup.ofRecord r).map portGroup
  | .dhcpOptions => (DhcpOptions.ofRecord r).map dhcpOptions
  | .nat => (NatRule.ofRecord r).map nat
  | .loadBalancer => (LoadBalancer.ofRecord r).map loadBalancer

/-- The rows of a listing, up to the first that does not read. -/
def ofRecords (table : Table) : List Record → Except StoreError (List Row)
  | [] => .ok []
  | r :: rest =>
      match ofRecord table r with
      | .error e => .error e
      | .ok row =>
          match ofRecords table rest with
          | .error e => .error e
          | .ok rows => .ok (row :: rows)

end Row

/-- Whether the row is the one that the lookup addresses. -/
def Lookup.addresses (l : Lookup) (r : Row) : Bool :=
  match l with
  | uuid s => r.uuid == s
  | name s => r.name? == some s

/-! ## Rows of one table -/

/-- The rows of one table, each kind a type of its own. -/
class RowType (α : Type) where
  table : Table
  toRow : α → Row
  ofRow? : Row → Option α

instance : RowType Switch where
  table := .switch
  toRow := .switch
  ofRow?
    | .switch r => some r
    | _ => none

instance : RowType SwitchPort where
  table := .switchPort
  toRow := .switchPort
  ofRow?
    | .switchPort r => some r
    | _ => none

instance : RowType Router where
  table := .router
  toRow := .router
  ofRow?
    | .router r => some r
    | _ => none

instance : RowType RouterPort where
  table := .routerPort
  toRow := .routerPort
  ofRow?
    | .routerPort r => some r
    | _ => none

instance : RowType StaticRoute where
  table := .staticRoute
  toRow := .staticRoute
  ofRow?
    | .staticRoute r => some r
    | _ => none

instance : RowType Acl where
  table := .acl
  toRow := .acl
  ofRow?
    | .acl r => some r
    | _ => none

instance : RowType AddressSet where
  table := .addressSet
  toRow := .addressSet
  ofRow?
    | .addressSet r => some r
    | _ => none

instance : RowType PortGroup where
  table := .portGroup
  toRow := .portGroup
  ofRow?
    | .portGroup r => some r
    | _ => none

instance : RowType DhcpOptions where
  table := .dhcpOptions
  toRow := .dhcpOptions
  ofRow?
    | .dhcpOptions r => some r
    | _ => none

instance : RowType NatRule where
  table := .nat
  toRow := .nat
  ofRow?
    | .nat r => some r
    | _ => none

instance : RowType LoadBalancer where
  table := .loadBalancer
  toRow := .loadBalancer
  ofRow?
    | .loadBalancer r => some r
    | _ => none

namespace RowType

variable (α : Type) [RowType α]

/-- The row as one of the wanted kind. -/
def ofRow (r : Row) : Except StoreError α :=
  match RowType.ofRow? r with
  | some a => .ok a
  | none => .error (.wrongTable (table α) r.table)

def ofRows : List Row → Except StoreError (List α)
  | [] => .ok []
  | r :: rest =>
      match ofRow α r with
      | .error e => .error e
      | .ok a =>
          match ofRows rest with
          | .error e => .error e
          | .ok as => .ok (a :: as)

end RowType

/-! ## As documents -/

namespace Row

/-- The name of the kind of row in documents. -/
def kindName : Table → String
  | .switch => "Switch"
  | .switchPort => "SwitchPort"
  | .router => "Router"
  | .routerPort => "RouterPort"
  | .staticRoute => "StaticRoute"
  | .acl => "Acl"
  | .addressSet => "AddressSet"
  | .portGroup => "PortGroup"
  | .dhcpOptions => "DhcpOptions"
  | .nat => "Nat"
  | .loadBalancer => "LoadBalancer"

def content : Row → Document
  | switch r => encode r
  | switchPort r => encode r
  | router r => encode r
  | routerPort r => encode r
  | staticRoute r => encode r
  | acl r => encode r
  | addressSet r => encode r
  | portGroup r => encode r
  | dhcpOptions r => encode r
  | nat r => encode r
  | loadBalancer r => encode r

def ofContent? (table : Table) (d : Document) : Option Row :=
  match table with
  | .switch => (decode? d).map switch
  | .switchPort => (decode? d).map switchPort
  | .router => (decode? d).map router
  | .routerPort => (decode? d).map routerPort
  | .staticRoute => (decode? d).map staticRoute
  | .acl => (decode? d).map acl
  | .addressSet => (decode? d).map addressSet
  | .portGroup => (decode? d).map portGroup
  | .dhcpOptions => (decode? d).map dhcpOptions
  | .nat => (decode? d).map nat
  | .loadBalancer => (decode? d).map loadBalancer

end Row

namespace Row

/-- How the contents of choices may be written in a row: loosely where the row is named, and with
named fields where it stands second in a list. -/
def contentRule : Document → Document → Document
  | .list _ => Document.namedContent
  | _ => Document.looseContent

end Row

instance : Codec Row where
  encode r := .record [("table", .text (Row.kindName r.table)), ("row", r.content)]
  decode? d := do
    let f ← d.fields? ["table", "row"]
    let kind : Document ← f.required? "table"
    let row : Document ← f.required? "row"
    let name ← kind.choice?
    let table ← Table.all.find? fun t => Row.kindName t == name
    Row.ofContent? table (row.mapChoices (Row.contentRule d))

end LogicalNet
