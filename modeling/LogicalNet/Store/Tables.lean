import LogicalNet.Row.Basic

/-!
# The tables of a database

`Tables` holds the rows of every table by their identifiers.  Written next to a
table, as in `ts .switch`, it stands for the rows of that table, and the lemmas say
what every change does to the rows of each table.  Two databases with the same rows
in every table are equal.
-/

namespace LogicalNet

structure Tables where
  switches : TextMap Row
  switchPorts : TextMap Row
  routers : TextMap Row
  routerPorts : TextMap Row
  staticRoutes : TextMap Row
  acls : TextMap Row
  addressSets : TextMap Row
  portGroups : TextMap Row
  dhcpOptions : TextMap Row
  nats : TextMap Row
  loadBalancers : TextMap Row

namespace Tables

/-- The rows of a table. -/
def rows (ts : Tables) : Table → TextMap Row
  | .switch => ts.switches
  | .switchPort => ts.switchPorts
  | .router => ts.routers
  | .routerPort => ts.routerPorts
  | .staticRoute => ts.staticRoutes
  | .acl => ts.acls
  | .addressSet => ts.addressSets
  | .portGroup => ts.portGroups
  | .dhcpOptions => ts.dhcpOptions
  | .nat => ts.nats
  | .loadBalancer => ts.loadBalancers

instance : CoeFun Tables fun _ => Table → TextMap Row :=
  ⟨rows⟩

theorem ext_rows {ts us : Tables} (h : ∀ t, ts t = us t) : ts = us := by
  cases ts
  cases us
  have switches := h .switch
  have switchPorts := h .switchPort
  have routers := h .router
  have routerPorts := h .routerPort
  have staticRoutes := h .staticRoute
  have acls := h .acl
  have addressSets := h .addressSet
  have portGroups := h .portGroup
  have dhcpOptions := h .dhcpOptions
  have nats := h .nat
  have loadBalancers := h .loadBalancer
  simp only [rows] at *
  subst_vars
  rfl

/-! ## Changing tables -/

/-- The database with the given rows for each table. -/
def ofRows (f : Table → TextMap Row) : Tables where
  switches := f .switch
  switchPorts := f .switchPort
  routers := f .router
  routerPorts := f .routerPort
  staticRoutes := f .staticRoute
  acls := f .acl
  addressSets := f .addressSet
  portGroups := f .portGroup
  dhcpOptions := f .dhcpOptions
  nats := f .nat
  loadBalancers := f .loadBalancer

@[simp]
theorem rows_ofRows (f : Table → TextMap Row) (t : Table) : ofRows f t = f t := by
  cases t <;> rfl

def empty : Tables :=
  ofRows fun _ => {}

@[simp]
theorem rows_empty (t : Table) : empty t = {} :=
  rows_ofRows _ t

def setTable (ts : Tables) (table : Table) (rows : TextMap Row) : Tables :=
  ofRows fun t => if t = table then rows else ts t

@[simp]
theorem rows_setTable (ts : Tables) (table : Table) (rows : TextMap Row) (t : Table) :
    ts.setTable table rows t = if t = table then rows else ts t :=
  rows_ofRows _ t

/-- The database with a change made to every row. -/
def mapRows (f : Row → Row) (ts : Tables) : Tables :=
  ofRows fun t => (ts t).mapValues f

@[simp]
theorem rows_mapRows (f : Row → Row) (ts : Tables) (t : Table) :
    ts.mapRows f t = (ts t).mapValues f :=
  rows_ofRows _ t

/-! ## Looking up -/

/-- The identifier of the addressed row; of several rows with a name, the first one's. -/
def findKey? (ts : Tables) (table : Table) : Lookup → Option String
  | .uuid s => if (ts table).contains s then some s else none
  | .name s => ((ts table).values.find? (Lookup.name s).addresses).map Row.uuid

def get? (ts : Tables) (table : Table) (lookup : Lookup) : Option Row :=
  match ts.findKey? table lookup with
  | some key => (ts table).get? key
  | none => none

def list (ts : Tables) (table : Table) : List Row :=
  (ts table).values

/-- The rows with the given external id. -/
def find (ts : Tables) (table : Table) (key value : String) : List Row :=
  (ts.list table).filter fun r => r.externalIds.get? key == some value

/-- The contents of all rows under the names of their tables; a table without rows is left out. -/
def document (ts : Tables) : Document :=
  .record ((Table.all.filter fun t => !(ts.list t).isEmpty).map fun t =>
    (t.dbName, .list ((ts.list t).map Row.content)))

end Tables
end LogicalNet
