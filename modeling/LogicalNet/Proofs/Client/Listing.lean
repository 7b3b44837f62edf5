import LogicalNet.Client.Request
import LogicalNet.Proofs.Store.Ownership

/-!
# What the client lists where

The calls of a history give names to what they make, and a row lists only rows with
names that fit its own: a switch its ports to machines, the port to its physical
network and the peers of its interfaces, a router its side of its interfaces and the
NAT rules that bear its name.

The names of ports are made from two ids each, and different ids may make the same
name.  The calls that go by such a name find the row that was meant as long as the
names of the history are kept apart.
-/

namespace LogicalNet
namespace Client

/-! ## Calls -/

/-- What can be asked of the client: a request, or to close its store. -/
inductive Call where
  | request (request : Request)
  | close
  deriving DecidableEq

/-- The calls connect the router and the network, or disconnect them. -/
def UsesInterface (calls : List Call) (router network : String) : Prop :=
  (∃ gateway, .request (.addInterface router network gateway) ∈ calls) ∨
    .request (.removeInterface router network) ∈ calls

/-- The calls connect the network to a physical one. -/
def UsesLocalnet (calls : List Call) (network : String) : Prop :=
  ∃ vlan physicalNetwork,
    .request (.createLocalnetPort network vlan physicalNetwork) ∈ calls

/-- Different pairs of a router and a network have different names for both sides of their
interface. -/
structure InterfacesApart (calls : List Call) : Prop where
  routerPort : ∀ {router network router' network'}, UsesInterface calls router network →
    UsesInterface calls router' network' →
    Name.routerPort (Name.router router) (Name.switch network) =
      Name.routerPort (Name.router router') (Name.switch network') →
    router = router' ∧ network = network'
  routerPeer : ∀ {router network router' network'}, UsesInterface calls router network →
    UsesInterface calls router' network' →
    Name.routerPeer (Name.router router) (Name.switch network) =
      Name.routerPeer (Name.router router') (Name.switch network') →
    router = router' ∧ network = network'

/-- Nor is the name of the side of the switch that of the port to a physical network. -/
structure NamesApart (calls : List Call) : Prop extends InterfacesApart calls where
  localnet : ∀ {router network network'}, UsesInterface calls router network →
    UsesLocalnet calls network' →
    Name.routerPeer (Name.router router) (Name.switch network) ≠
      Name.localnet (Name.switch network')

/-! ## Names of ports -/

theorem switchPort_ne_switch_append (port network rest : String) :
    Name.switchPort port ≠ Name.switch network ++ rest := by
  intro h
  have hlist := congrArg String.toList h
  simp [Name.switchPort, Name.switch, String.toList_append] at hlist

theorem switchPort_ne_localnet (port network : String) :
    Name.switchPort port ≠ Name.localnet (Name.switch network) :=
  switchPort_ne_switch_append port network _

theorem switchPort_ne_routerPeer (port router network : String) :
    Name.switchPort port ≠ Name.routerPeer router (Name.switch network) := by
  unfold Name.routerPeer
  rw [String.append_assoc]
  exact switchPort_ne_switch_append port network _

/-! ## Rows and the rows that they list -/

/-- The row may stand on the switch: as the port of a machine, to the physical network, or as the
peer of an interface. -/
inductive ListedBySwitch (calls : List Call) (o r : Row) : Prop where
  | machine {port : String} (hname : r.name? = some (Name.switchPort port))
      (hrouter : r.externalIds.get? ExternalId.router = none)
  | localnet {network : String} (huses : UsesLocalnet calls network)
      (howner : o.name? = some (Name.switch network))
      (hname : r.name? = some (Name.localnet (Name.switch network)))
  | peer {router network : String} (huses : UsesInterface calls router network)
      (howner : o.name? = some (Name.switch network))
      (hname : r.name? = some (Name.routerPeer (Name.router router) (Name.switch network)))

/-- The row may stand on the router as its side of an interface. -/
def ListedByRouter (calls : List Call) (o r : Row) : Prop :=
  ∃ router network, UsesInterface calls router network ∧
    o.name? = some (Name.router router) ∧
    r.name? = some (Name.routerPort (Name.router router) (Name.switch network))

/-- What holds between a row of the table and the rows that it lists in the column. -/
def Lists (calls : List Call) (table : Table) (c : RefColumn) (o r : Row) : Prop :=
  match table, c with
  | .switch, .ports => ListedBySwitch calls o r
  | .switch, .acls => False
  | .portGroup, .ports => ∃ port, r.name? = some (Name.switchPort port)
  | .router, .ports => ListedByRouter calls o r
  | .router, .nat => r.externalIds.get? ExternalId.router = o.name?
  | _, _ => True

theorem ListedBySwitch.alike {calls : List Call} {o o' r r' : Row} (ho : o.Alike o')
    (hr : r.Alike r') (h : ListedBySwitch calls o r) : ListedBySwitch calls o' r' := by
  cases h with
  | machine hname hrouter =>
      exact .machine (hr.name?.trans hname) (hr.router.trans hrouter)
  | localnet huses howner hname =>
      exact .localnet huses (ho.name?.trans howner) (hr.name?.trans hname)
  | peer huses howner hname =>
      exact .peer huses (ho.name?.trans howner) (hr.name?.trans hname)

theorem Lists.alike {calls : List Call} {table : Table} {c : RefColumn} {o o' r r' : Row}
    (ho : o.Alike o') (hr : r.Alike r') (h : Lists calls table c o r) :
    Lists calls table c o' r' := by
  unfold Lists at h ⊢
  split at h
  · exact h.alike ho hr
  · exact h.elim
  · rcases h with ⟨port, hname⟩
    exact ⟨port, hr.name?.trans hname⟩
  · rcases h with ⟨router, network, huses, howner, hname⟩
    exact ⟨router, network, huses, ho.name?.trans howner, hr.name?.trans hname⟩
  · rw [hr.router, h, ho.name?]
  · trivial

/-- What the client keeps between the rows and those that they list. -/
def listing (calls : List Call) : Bond where
  Holds o c r := Lists calls o.table c o r
  alike ho hr h := by
    rw [ho.table]
    exact h.alike ho hr

/-- What is listed is there and fits the row that lists it. -/
theorem exists_lists {calls : List Call} {loose : Table → String → Prop} {ts : Tables}
    (h : ts.Sound (listing calls) loose) {o t : Table} {c : RefColumn} {k u : String} {row : Row}
    (hrow : (ts o).get? k = some row) (ht : c.target? o = some t) (hu : u ∈ row.refs c) :
    ∃ r, (ts t).get? u = some r ∧ Lists calls o c row r := by
  rcases h.bond hrow ht u hu with ⟨r, hr, hholds⟩
  refine ⟨r, hr, ?_⟩
  rw [← h.wellFormed.table_eq hrow]
  exact hholds

/-- Only the port of a machine stands in a port group. -/
theorem ListedBySwitch.router_eq_none {calls : List Call} {o r : Row} {port : String}
    (h : ListedBySwitch calls o r) (hname : r.name? = some (Name.switchPort port)) :
    r.externalIds.get? ExternalId.router = none := by
  cases h with
  | machine _ hrouter =>
      exact hrouter
  | localnet _ _ hlocalnet =>
      rw [hlocalnet] at hname
      exact absurd (Option.some.inj hname).symm (switchPort_ne_localnet _ _)
  | peer _ _ hpeer =>
      rw [hpeer] at hname
      exact absurd (Option.some.inj hname).symm (switchPort_ne_routerPeer _ _ _)

/-- A name of an interface leads to the switch of its network, if the names are kept apart. -/
theorem ListedBySwitch.name?_of_peer {calls : List Call} {o r : Row} {router network : String}
    (h : ListedBySwitch calls o r) (hapart : NamesApart calls)
    (huses : UsesInterface calls router network)
    (hname : r.name? = some (Name.routerPeer (Name.router router) (Name.switch network))) :
    o.name? = some (Name.switch network) := by
  cases h with
  | machine hmachine _ =>
      rw [hmachine] at hname
      exact absurd (Option.some.inj hname) (switchPort_ne_routerPeer _ _ _)
  | localnet huses' _ hlocalnet =>
      rw [hlocalnet] at hname
      exact absurd (Option.some.inj hname).symm (hapart.localnet huses huses')
  | peer huses' howner hpeer =>
      rw [hpeer] at hname
      have hsame := hapart.routerPeer huses' huses (Option.some.inj hname)
      rw [howner, hsame.2]

theorem ListedByRouter.name?_of_port {calls : List Call} {o r : Row} {router network : String}
    (h : ListedByRouter calls o r) (hapart : NamesApart calls)
    (huses : UsesInterface calls router network)
    (hname : r.name? = some (Name.routerPort (Name.router router) (Name.switch network))) :
    o.name? = some (Name.router router) := by
  rcases h with ⟨router', network', huses', howner, hport⟩
  rw [hport] at hname
  have hsame := hapart.routerPort huses' huses (Option.some.inj hname)
  rw [howner, hsame.1]

end Client
end LogicalNet
