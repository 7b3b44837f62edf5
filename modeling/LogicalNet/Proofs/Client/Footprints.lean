import LogicalNet.Proofs.Client.Grouping
import LogicalNet.Proofs.Store.Provenance

/-!
# What requests make and delete

The rows that a request writes as a whole bear names and external ids made from the
ids of the request, and a row that needs an owner is put on the row that the request
has read for it.  `Made` and `Rewritten` list these rows, `Request.Deletes` says which
switches, routers, ports and DHCP options go with a request, and `Footprint` that a
transaction of the request has no other operations.
-/

namespace LogicalNet

/-- The tables of what networks are made of. -/
def Table.isOfNetworks : Table → Bool
  | switch | switchPort | router | routerPort | dhcpOptions => true
  | _ => false

/-- The tables of the rows that calls write anew. -/
def Table.isRewritten : Table → Bool
  | addressSet | dhcpOptions | loadBalancer => true
  | _ => false

namespace Client

open Tables Plan.Ends

variable {ts us : Tables} {drawn : List String} {r : Request} {ops ops' : List Operation}

/-! ## Rows that requests make -/

def localnetRow (network physicalNetwork uuid : String) (tag : Option UInt16) : SwitchPort where
  uuid := uuid
  name := Name.localnet (Name.switch network)
  kind := .localnet
  addresses := ["unknown"]
  enabled := some true
  tag := tag
  options := TextMap.ofList [("network_name", physicalNetwork)]
  externalIds := .ofPairs [(ExternalId.network, network)]

def routerRow (router project uuid : String) (options : TextMap String) : Router where
  uuid := uuid
  name := Name.router router
  enabled := some true
  options := options
  externalIds := .ofPairs [(ExternalId.routerId, router), (ExternalId.project, project)]

/-- Both sides of an interface bear its network and the name of its router. -/
def interfaceIds (router network : String) : ExternalIds :=
  .ofPairs [(ExternalId.network, network), (ExternalId.router, Name.router router)]

def interfacePort (router network gateway uuid : String) (mac : Mac) : RouterPort where
  uuid := uuid
  name := Name.routerPort (Name.router router) (Name.switch network)
  mac := mac
  networks := [gateway]
  enabled := some true
  externalIds := interfaceIds router network

def interfacePeer (router network uuid : String) : SwitchPort where
  uuid := uuid
  name := Name.routerPeer (Name.router router) (Name.switch network)
  kind := .router
  addresses := ["router"]
  options := TextMap.ofList
    [("router-port", Name.routerPort (Name.router router) (Name.switch network))]
  externalIds := interfaceIds router network

/-- The request makes the row; one that needs an owner is put on the other. -/
inductive Made (ts : Tables) : Request → Row → Option Row → Prop where
  | switch {network : Tenant.Network} {uuid : String} :
      Made ts (.createSwitch network) (.switch (switchRow network uuid)) none
  | networkDhcp {network : Tenant.Network} {options : DhcpOptions}
      (hids : options.externalIds = .ofPairs
        [(ExternalId.network, network.id), (ExternalId.switch, Name.switch network.id)]) :
      Made ts (.createSwitch network) (.dhcpOptions options) none
  | dhcp {config : Tenant.DhcpConfig} {options : DhcpOptions} :
      Made ts (.createDhcpOptions config) (.dhcpOptions options) none
  | port {port : Tenant.Port} {mac : Mac} {uuid : String} {dhcp : Option String} {owner : Row}
      (howner : owner.name? = some (Name.switch port.network))
      (hdhcp : ∀ u, dhcp = some u →
        Bears ts .dhcpOptions ExternalId.switch (Name.switch port.network) u) :
      Made ts (.createPort port) (.switchPort (portRow port mac uuid dhcp)) (some owner)
  | localnet {network physicalNetwork uuid : String} {vlan : UInt32} {tag : Option UInt16}
      {owner : Row} (howner : owner.name? = some (Name.switch network)) :
      Made ts (.createLocalnetPort network vlan physicalNetwork)
        (.switchPort (localnetRow network physicalNetwork uuid tag)) (some owner)
  | router {router project uuid : String} {distributed : Bool} {options : TextMap String} :
      Made ts (.createRouter router project distributed)
        (.router (routerRow router project uuid options)) none
  | interfacePort {router network gateway uuid : String} {mac : Mac} {owner : Row}
      (howner : owner.name? = some (Name.router router)) :
      Made ts (.addInterface router network gateway)
        (.routerPort (interfacePort router network gateway uuid mac)) (some owner)
  | interfacePeer {router network gateway uuid : String} {owner : Row}
      (howner : owner.name? = some (Name.switch network)) :
      Made ts (.addInterface router network gateway)
        (.switchPort (interfacePeer router network uuid)) (some owner)
  | route {router destination nextHop : String} {route : StaticRoute} {owner : Row}
      (howner : owner.name? = some (Name.router router))
      (hids : route.externalIds = .ofPairs [(ExternalId.router, Name.router router)]) :
      Made ts (.addRoute router destination nextHop) (.staticRoute route) (some owner)
  | floatingIp {router floating internal : String} {rule : NatRule} {owner : Row}
      (howner : owner.name? = some (Name.router router))
      (hids : rule.externalIds = (TextMap.ofList [(ExternalId.floatingIp, floating)]).insert
        ExternalId.router (Name.router router)) :
      Made ts (.createFloatingIp router floating internal) (.nat rule) (some owner)
  | snat {router external subnet : String} {rule : NatRule} {owner : Row}
      (howner : owner.name? = some (Name.router router))
      (hids : rule.externalIds = (TextMap.ofList [(ExternalId.snat, "true")]).insert
        ExternalId.router (Name.router router)) :
      Made ts (.createSnat router external subnet) (.nat rule) (some owner)
  | group {group : SecurityGroup} {plan : GroupPlan} {uuids : List String} {row : Row}
      (hplan : group.plan = .ok plan)
      (hrow : row ∈ storedRows (carriedOver ts (plan.withUuids uuids))) :
      Made ts (.createGroup group) row none
  | balancer {balancer : Tenant.Balancer} {uuid : String} {row : LoadBalancer}
      (hrow : balancerRow balancer uuid = .ok row) :
      Made ts (.createBalancer balancer) (.loadBalancer row) none
  | newBalancer {balancer : Tenant.Balancer} {uuid : String} {row : LoadBalancer}
      (hrow : balancerRow balancer uuid = .ok row) :
      Made ts (.updateBalancer balancer) (.loadBalancer row) none

/-- The request writes the row anew, in the place of an old one. -/
inductive Rewritten (ts : Tables) : Request → Row → Prop where
  | dhcp {options : DhcpOptions} : Rewritten ts (.updateDhcpOptions options) (.dhcpOptions options)
  | addresses {group : String} {addresses : List String} {old : AddressSet}
      (hold : (ts .addressSet).get? old.uuid = some (.addressSet old)) :
      Rewritten ts (.updateAddresses group addresses)
        (.addressSet { old with addresses := addresses })
  | balancer {balancer : Tenant.Balancer} {uuid : String} {row : LoadBalancer}
      (hrow : balancerRow balancer uuid = .ok row) :
      Rewritten ts (.updateBalancer balancer) (.loadBalancer row)

/-! ## Rows that requests delete -/

theorem stored_iff (hts : ts.WellFormed) {table : Table} (hindex : table.hasNameIndex = true)
    {name u : String} : Stored ts table name u ↔
      ∃ row, (ts table).get? u = some row ∧ row.name? = some name := by
  constructor
  · intro h
    rcases h with ⟨row, hget, rfl⟩
    exact ⟨row, (hts.get?_name_iff hindex).mp hget⟩
  · intro h
    rcases h with ⟨row, hrow, hname⟩
    exact ⟨row, (hts.name?_eq_iff hindex hrow).mp hname, hts.uuid_eq hrow⟩

theorem listedIn_iff (hts : ts.WellFormed) {table : Table} (hindex : table.hasNameIndex = true)
    {name u : String} {c : RefColumn} : ListedIn ts table name c u ↔
      ∃ k row, (ts table).get? k = some row ∧ row.name? = some name ∧ u ∈ row.refs c := by
  constructor
  · intro h
    rcases h with ⟨row, hget, hu⟩
    rcases (hts.get?_name_iff hindex).mp hget with ⟨hrow, hname⟩
    exact ⟨row.uuid, row, hrow, hname, hu⟩
  · intro h
    rcases h with ⟨k, row, hrow, hname, hu⟩
    exact ⟨row, (hts.name?_eq_iff hindex hrow).mp hname, hu⟩

/-- The request deletes the row of the table, one of those that networks are made of. -/
def Request.Deletes (ts : Tables) (r : Request) (table : Table) (u : String) : Prop :=
  match r, table with
  | deletePort port, .switchPort => Stored ts .switchPort (Name.switchPort port) u
  | deleteSwitch network, .switch => Stored ts .switch (Name.switch network) u
  | deleteSwitch network, .switchPort => ListedIn ts .switch (Name.switch network) .ports u
  | deleteSwitch network, .dhcpOptions =>
      Bears ts .dhcpOptions ExternalId.switch (Name.switch network) u
  | deleteDhcpOptions key, .dhcpOptions => u = key
  | deleteRouter router, .router => Stored ts .router (Name.router router) u
  | deleteRouter router, .routerPort => ListedIn ts .router (Name.router router) .ports u
  | deleteRouter router, .switchPort => (∃ v, Stored ts .router (Name.router router) v) ∧
      Bears ts .switchPort ExternalId.router (Name.router router) u
  | removeInterface router network, .routerPort =>
      Stored ts .routerPort (Name.routerPort (Name.router router) (Name.switch network)) u
  | removeInterface router network, .switchPort =>
      Stored ts .switchPort (Name.routerPeer (Name.router router) (Name.switch network)) u
  | _, _ => False

theorem delete_mem_deletePort (hts : ts.WellFormed) {port : String} {t : Transaction Unit}
    (h : (deletePort port).Ends ts drawn t) {table : Table} {u : String}
    (hdeletes : (Request.deletePort port).Deletes ts table u) :
    .delete table (.uuid u) ∈ t.operations := by
  cases table <;> first | exact hdeletes.elim | apply (mem_deletePort_iff hts h _).mpr
  exact ⟨u, hdeletes, .inr (.inr rfl)⟩

theorem delete_mem_deleteSwitch (hts : ts.WellFormed) {network : String} {t : Transaction Unit}
    (h : (deleteSwitch network).Ends ts drawn t) {table : Table} {u : String}
    (hdeletes : (Request.deleteSwitch network).Deletes ts table u) :
    .delete table (.uuid u) ∈ t.operations := by
  cases table <;> first | exact hdeletes.elim | apply (mem_deleteSwitch_iff hts h _).mpr
  case switch => exact .inr (.inr ⟨u, hdeletes, rfl⟩)
  case switchPort => exact .inr (.inl ⟨u, hdeletes, .inr rfl⟩)
  case dhcpOptions => exact .inl ⟨u, hdeletes, rfl⟩

theorem delete_mem_deleteRouter (hts : ts.WellFormed) {router : String} {t : Transaction Unit}
    (h : (deleteRouter router).Ends ts drawn t) {table : Table} {u : String}
    (hdeletes : (Request.deleteRouter router).Deletes ts table u) :
    .delete table (.uuid u) ∈ t.operations := by
  cases table <;> first | exact hdeletes.elim | apply (mem_deleteRouter_iff hts h _).mpr
  case switchPort => exact .inl ⟨u, hdeletes.1, hdeletes.2, .inr rfl⟩
  case router => exact .inr (.inr ⟨u, hdeletes, rfl⟩)
  case routerPort => exact .inr (.inl ⟨.routerPort, .ports, u, rfl, hdeletes, rfl⟩)

theorem delete_mem_removeInterface {router network : String} {t : Transaction Unit}
    (h : (removeInterface router network).Ends ts drawn t) {table : Table} {u : String}
    (hdeletes : (Request.removeInterface router network).Deletes ts table u) :
    .delete table (.uuid u) ∈ t.operations := by
  cases table <;> first | exact hdeletes.elim | apply (mem_removeInterface_iff h _).mpr
  case switchPort => exact .inr ⟨u, hdeletes, .inr rfl⟩
  case routerPort => exact .inl ⟨u, hdeletes, .inr rfl⟩

theorem removes_deleteRouter (hts : ts.WellFormed) {router : String} {t : Transaction Unit}
    (h : (deleteRouter router).Ends ts drawn t) : ∀ op ∈ t.operations, Removes op := by
  intro op hop
  rcases (mem_deleteRouter_iff hts h op).mp hop with
    ⟨_, _, _, hunlists | rfl⟩ | ⟨_, _, _, _, _, rfl⟩ | ⟨_, _, rfl⟩
  · exact hunlists.removes hts
  · exact .delete _ _
  · exact .delete _ _
  · exact .delete _ _

theorem removes_removeInterface {router network : String} {t : Transaction Unit}
    (h : (removeInterface router network).Ends ts drawn t) : ∀ op ∈ t.operations, Removes op := by
  intro op hop
  rcases (mem_removeInterface_iff h op).mp hop with ⟨_, _, rfl | rfl⟩ | ⟨_, _, rfl | rfl⟩
  · exact .removeRefs _ _ rfl
  · exact .delete _ _
  · exact .removeRefs _ _ rfl
  · exact .delete _ _

/-- What a request deletes is gone when it is written. -/
theorem Request.Writes.gone (hts : ts.WellFormed) (h : r.Writes ts us) {table : Table} {u : String}
    (hdeletes : r.Deletes ts table u) : (us table).get? u = none := by
  cases h with
  | dhcp hr _ _ =>
      subst hr
      exact hdeletes.elim
  | call hends hops =>
      cases r <;> first | exact hdeletes.elim | rcases of_translated hends with ⟨t, ht, heq⟩
      all_goals rw [heq] at hops
      case deleteSwitch =>
        exact get?_eq_none_of_deleted hts (expulsion_deleteSwitch hts ht).removes
          (delete_mem_deleteSwitch hts ht hdeletes) hops
      case deletePort =>
        exact get?_eq_none_of_deleted hts (expulsion_deletePort hts ht).removes
          (delete_mem_deletePort hts ht hdeletes) hops
      case deleteDhcpOptions =>
        rcases of_pure ht with ⟨_, rfl⟩
        cases table <;> try exact hdeletes.elim
        cases hdeletes
        refine get?_eq_none_of_deleted hts (fun op hop => ?_) (List.mem_singleton_self _) hops
        rw [List.mem_singleton.mp hop]
        exact .delete _ _
      case deleteRouter =>
        exact get?_eq_none_of_deleted hts (removes_deleteRouter hts ht)
          (delete_mem_deleteRouter hts ht hdeletes) hops
      case removeInterface =>
        exact get?_eq_none_of_deleted hts (removes_removeInterface ht)
          (delete_mem_removeInterface ht hdeletes) hops

/-! ## Operations of requests -/

/-- What an operation among those of a transaction of the request is. -/
inductive Footprint (ts : Tables) (r : Request) (ops : List Operation) : Operation → Prop where
  | insert {row : Row} {owner : Option Row} (h : Made ts r row owner) :
      Footprint ts r ops (.insert row)
  | update {row : Row} (h : Rewritten ts r row) : Footprint ts r ops (.update row)
  | attach {row o : Row} {table : Table} {c : RefColumn} (h : Made ts r row (some o))
      (hrow : .insert row ∈ ops) (howner : row.table.owner? = some (table, c))
      (ho : (ts table).get? o.uuid = some o) :
      Footprint ts r ops (.addRefs table (.uuid o.uuid) c [row.uuid])
  | link {table : Table} {lookup : Lookup} {c : RefColumn} {uuids : List String}
      (h : ∀ t : Table, t.owner? ≠ some (table, c)) :
      Footprint ts r ops (.addRefs table lookup c uuids)
  | unlink (table : Table) (lookup : Lookup) (c : RefColumn) (uuids : List String) :
      Footprint ts r ops (.removeRefs table lookup c uuids)
  | machine (lookup : Lookup) (vm : String) :
      Footprint ts r ops
        (.setKeys .switchPort lookup .externalIds (TextMap.ofList [(ExternalId.vm, vm)]))
  | host (lookup : Lookup) (host : String) :
      Footprint ts r ops
        (.setKeys .switchPort lookup .options (TextMap.ofList [("requested-chassis", host)]))
  | delete {table : Table} {u : String}
      (h : table.isOfNetworks = true → r.Deletes ts table u) :
      Footprint ts r ops (.delete table (.uuid u))
  | deleteSet (name : String) : Footprint ts r ops (.delete .addressSet (.name name))

/-- All operations are of the request. -/
def Footprints (ts : Tables) (r : Request) (ops : List Operation) : Prop :=
  ∀ op ∈ ops, Footprint ts r ops op

theorem Footprint.mono {op : Operation} (h : Footprint ts r ops op) (hsub : ops ⊆ ops') :
    Footprint ts r ops' op := by
  cases h with
  | insert h =>
      exact .insert h
  | update h =>
      exact .update h
  | attach h hrow howner ho =>
      exact .attach h (hsub hrow) howner ho
  | link h =>
      exact .link h
  | unlink =>
      exact .unlink _ _ _ _
  | machine =>
      exact .machine _ _
  | host =>
      exact .host _ _
  | delete h =>
      exact .delete h
  | deleteSet =>
      exact .deleteSet _

namespace Footprints

theorem nil (ts : Tables) (r : Request) : Footprints ts r [] := by
  intro op hop
  cases hop

theorem append (h : Footprints ts r ops) (h' : Footprints ts r ops') :
    Footprints ts r (ops ++ ops') := by
  intro op hop
  rcases List.mem_append.mp hop with hop | hop
  · exact (h op hop).mono (List.subset_append_left ops ops')
  · exact (h' op hop).mono (List.subset_append_right ops ops')

theorem single {op : Operation} (h : Footprint ts r [op] op) : Footprints ts r [op] := by
  intro op' hop'
  rw [List.mem_singleton.mp hop']
  exact h

theorem attachment {row o : Row} {table : Table} {c : RefColumn} (h : Made ts r row (some o))
    (howner : row.table.owner? = some (table, c)) (ho : (ts table).get? o.uuid = some o) :
    Footprints ts r (Tables.attachment row table o.uuid c) := by
  intro op hop
  simp only [Tables.attachment, List.mem_cons, List.not_mem_nil, or_false] at hop
  rcases hop with rfl | rfl
  · exact .insert h
  · exact .attach h (by simp [Tables.attachment]) howner ho

end Footprints

theorem Unlists.footprint {table : Table} {c : RefColumn} {u : String} {op : Operation}
    (h : Unlists ts table c u op) : Footprint ts r ops op := by
  rcases h with ⟨k, row, _, _, rfl⟩
  exact .unlink _ _ _ _

/-! ### Calls on switches -/

theorem footprints_createSwitch {network : Tenant.Network} {t : Transaction Switch}
    (h : (createSwitch network).Ends ts drawn t) :
    Footprints ts (.createSwitch network) t.operations := by
  rcases of_bind h with ⟨_, uuid, _, _, _, hwrite⟩
  rcases of_pure hwrite with ⟨_, rfl⟩
  exact .single (.insert .switch)

theorem footprints_createDhcpOptions {config : Tenant.DhcpConfig} {t : Transaction DhcpOptions}
    (hmade : ∀ options : DhcpOptions, options.externalIds = config.externalIds →
      Made ts r (.dhcpOptions options) none)
    (h : (createDhcpOptions config).Ends ts drawn t) : Footprints ts r t.operations := by
  unfold createDhcpOptions at h
  dsimp only at h
  split at h
  all_goals
    rcases of_bind h with ⟨_, mac, _, _, _, hrest⟩
    rcases of_bind hrest with ⟨_, uuid, _, _, _, hwrite⟩
    rcases of_pure hwrite with ⟨_, rfl⟩
    exact .single (.insert (hmade _ rfl))

theorem footprints_createNetworkDhcp {network : Tenant.Network} {t : Transaction DhcpOptions}
    (h : (createNetworkDhcp network).Ends ts drawn t) :
    Footprints ts (.createSwitch network) t.operations := by
  unfold createNetworkDhcp at h
  split at h
  · rename_i config hconfig
    refine footprints_createDhcpOptions (fun options hids => .networkDhcp ?_) h
    rw [hids]
    unfold Tenant.DhcpConfig.ofNetwork? at hconfig
    dsimp only at hconfig
    split at hconfig
    · cases hconfig
      rfl
    · cases hconfig
  · cases h

theorem footprints_deleteSwitch (hts : ts.WellFormed) {network : String} {t : Transaction Unit}
    (h : (deleteSwitch network).Ends ts drawn t) :
    Footprints ts (.deleteSwitch network) t.operations := by
  intro op hop
  rcases (mem_deleteSwitch_iff hts h op).mp hop with
    ⟨u, hu, rfl⟩ | ⟨u, hu, hunlists | rfl⟩ | ⟨u, hu, rfl⟩
  · exact .delete fun _ => hu
  · exact hunlists.footprint
  · exact .delete fun _ => hu
  · exact .delete fun _ => hu

theorem footprints_createPort (hts : ts.WellFormed) {port : Tenant.Port}
    {t : Transaction SwitchPort} (h : (createPort port).Ends ts drawn t) :
    Footprints ts (.createPort port) t.operations := by
  rcases of_bind h with ⟨_, switch, _, _, hswitch, hrest⟩
  rcases of_bind hrest with ⟨_, mac, _, _, _, hrest⟩
  rcases of_bind hrest with ⟨_, uuid, _, _, _, hrest⟩
  rcases of_bind hrest with ⟨_, dhcp, _, _, hdhcp, hwrite⟩
  rcases of_pure hwrite with ⟨_, rfl⟩
  rcases of_requireParent hswitch with ⟨_, hget⟩
  rcases of_findAll hdhcp with ⟨_, hfind⟩
  refine .attachment (.port (name?_of_get? hts hget) fun u hu => ?_) rfl (get?_of_get? hts hget)
  rcases Option.map_eq_some_iff.mp hu with ⟨d, hd, rfl⟩
  exact (mem_find_iff hts hfind).mp ⟨d, List.mem_of_head? hd, rfl⟩

theorem footprints_createLocalnetPort (hts : ts.WellFormed) {network physicalNetwork : String}
    {vlan : UInt32} {t : Transaction SwitchPort}
    (h : (createLocalnetPort network vlan physicalNetwork).Ends ts drawn t) :
    Footprints ts (.createLocalnetPort network vlan physicalNetwork) t.operations := by
  unfold createLocalnetPort at h
  dsimp only at h
  split at h
  · cases h
  · rcases of_bind h with ⟨_, switch, _, _, hswitch, hrest⟩
    rcases of_bind hrest with ⟨_, uuid, _, _, _, hwrite⟩
    rcases of_pure hwrite with ⟨_, rfl⟩
    rcases of_requireParent hswitch with ⟨_, hget⟩
    exact .attachment (.localnet (name?_of_get? hts hget)) rfl (get?_of_get? hts hget)

theorem footprints_deletePort (hts : ts.WellFormed) {port : String} {t : Transaction Unit}
    (h : (deletePort port).Ends ts drawn t) : Footprints ts (.deletePort port) t.operations := by
  intro op hop
  rcases (mem_deletePort_iff hts h op).mp hop with ⟨u, hu, hunlists | hunlists | rfl⟩
  · exact hunlists.footprint
  · exact hunlists.footprint
  · exact .delete fun _ => hu

theorem footprints_bindPort {port vm host : String} {t : Transaction Unit}
    (h : (bindPort port vm host).Ends ts drawn t) :
    Footprints ts (.bindPort port vm host) t.operations := by
  rcases of_bind h with ⟨_, row, _, _, _, hwrite⟩
  rcases of_pure hwrite with ⟨_, rfl⟩
  exact Footprints.append (.single (.machine _ vm)) (.single (.host _ host))

/-! ### Calls on routers -/

theorem footprints_createRouter {router project : String} {distributed : Bool}
    {t : Transaction Router} (h : (createRouter router project distributed).Ends ts drawn t) :
    Footprints ts (.createRouter router project distributed) t.operations := by
  rcases of_bind h with ⟨_, uuid, _, _, _, hwrite⟩
  rcases of_pure hwrite with ⟨_, rfl⟩
  exact .single (.insert .router)

theorem footprints_deleteRouter (hts : ts.WellFormed) {router : String} {t : Transaction Unit}
    (h : (deleteRouter router).Ends ts drawn t) :
    Footprints ts (.deleteRouter router) t.operations := by
  intro op hop
  rcases (mem_deleteRouter_iff hts h op).mp hop with
    ⟨u, hrouter, hu, hunlists | rfl⟩ | ⟨table, c, u, howner, hu, rfl⟩ | ⟨u, hu, rfl⟩
  · exact hunlists.footprint
  · exact .delete fun _ => ⟨hrouter, hu⟩
  · refine .delete fun htable => ?_
    cases table <;> cases howner <;> first | exact hu | cases htable
  · exact .delete fun _ => hu

theorem footprints_addInterface (hts : ts.WellFormed) {router network gateway : String}
    {t : Transaction RouterPort} (h : (addInterface router network gateway).Ends ts drawn t) :
    Footprints ts (.addInterface router network gateway) t.operations := by
  rcases of_bind h with ⟨_, address, _, _, _, hrest⟩
  split at hrest
  · cases hrest
  · rcases of_bind hrest with ⟨_, routerRow, _, _, hrouter, hrest⟩
    rcases of_bind hrest with ⟨_, switchRow, _, _, hswitch, hrest⟩
    rcases of_bind hrest with ⟨_, uuid, _, _, _, hrest⟩
    rcases of_bind hrest with ⟨_, mac, _, _, _, hrest⟩
    rcases of_bind hrest with ⟨_, peerUuid, _, _, _, hwrite⟩
    rcases of_pure hwrite with ⟨_, rfl⟩
    rcases of_requireParent hrouter with ⟨_, hrouterGet⟩
    rcases of_requireParent hswitch with ⟨_, hswitchGet⟩
    have hport : Footprints ts (.addInterface router network gateway)
        (Tables.attachment (.routerPort (interfacePort router network gateway uuid mac)) .router
          routerRow.uuid .ports) :=
      .attachment (.interfacePort (name?_of_get? hts hrouterGet)) rfl
        (get?_of_get? hts hrouterGet)
    have hpeer : Footprints ts (.addInterface router network gateway)
        (Tables.attachment (.switchPort (interfacePeer router network peerUuid)) .switch
          switchRow.uuid .ports) :=
      .attachment (.interfacePeer (name?_of_get? hts hswitchGet)) rfl
        (get?_of_get? hts hswitchGet)
    exact hport.append hpeer

theorem footprints_removeInterface {router network : String} {t : Transaction Unit}
    (h : (removeInterface router network).Ends ts drawn t) :
    Footprints ts (.removeInterface router network) t.operations := by
  intro op hop
  rcases (mem_removeInterface_iff h op).mp hop with ⟨u, hu, rfl | rfl⟩ | ⟨u, hu, rfl | rfl⟩
  · exact .unlink _ _ _ _
  · exact .delete fun _ => hu
  · exact .unlink _ _ _ _
  · exact .delete fun _ => hu

theorem footprints_addRoute (hts : ts.WellFormed) {router destination nextHop : String}
    {t : Transaction StaticRoute} (h : (addRoute router destination nextHop).Ends ts drawn t) :
    Footprints ts (.addRoute router destination nextHop) t.operations := by
  rcases of_bind h with ⟨_, row, _, _, hrow, hrest⟩
  rcases of_bind hrest with ⟨_, uuid, _, _, _, hrest⟩
  rcases of_bind hrest with ⟨_, target, _, _, _, hrest⟩
  rcases of_bind hrest with ⟨_, via, _, _, _, hrest⟩
  rcases of_bind hrest with ⟨_, route, _, _, _, hwrite⟩
  rcases of_pure hwrite with ⟨_, rfl⟩
  rcases of_requireParent hrow with ⟨_, hget⟩
  exact .attachment (.route (name?_of_get? hts hget) rfl) rfl (get?_of_get? hts hget)

theorem footprints_deleteRoute {router destination : String} {t : Transaction Unit}
    (h : (deleteRoute router destination).Ends ts drawn t) :
    Footprints ts (.deleteRoute router destination) t.operations := by
  rcases of_bind h with ⟨_, target, _, _, _, hrest⟩
  rcases of_bind hrest with ⟨_, found, _, _, _, hrest⟩
  cases found with
  | none =>
      rcases of_pure hrest with ⟨_, rfl⟩
      exact .nil _ _
  | some row =>
      rcases of_bind hrest with ⟨_, gone, _, _, hgone, hrest⟩
      rcases of_pure hrest with ⟨_, rfl⟩
      intro op hop
      rcases ((of_gather (fun uuid vs cs => of_dropRoute target row.uuid) hgone).2 op).mp hop with
        ⟨u, _, _, rfl | rfl⟩
      · exact .unlink _ _ _ _
      · exact .delete fun htable => by cases htable

theorem footprints_attachNat (hts : ts.WellFormed) {router : String} {rule : NatRule}
    (hmade : ∀ (rule' : NatRule) (owner : Row), owner.name? = some (Name.router router) →
      rule'.externalIds = rule.externalIds.insert ExternalId.router (Name.router router) →
      Made ts r (.nat rule') (some owner)) {t : Transaction NatRule}
    (h : (attachNat router rule).Ends ts drawn t) : Footprints ts r t.operations := by
  rcases of_bind h with ⟨_, row, _, _, hrow, hwrite⟩
  rcases of_pure hwrite with ⟨_, rfl⟩
  rcases of_requireParent hrow with ⟨_, hget⟩
  exact .attachment (hmade _ _ (name?_of_get? hts hget) rfl) rfl (get?_of_get? hts hget)

theorem footprints_createFloatingIp (hts : ts.WellFormed) {router floating internal : String}
    {t : Transaction NatRule} (h : (createFloatingIp router floating internal).Ends ts drawn t) :
    Footprints ts (.createFloatingIp router floating internal) t.operations := by
  rcases of_bind h with ⟨_, uuid, _, _, _, hrest⟩
  rcases of_bind hrest with ⟨_, external, _, _, _, hrest⟩
  rcases of_bind hrest with ⟨_, logical, _, _, _, hrest⟩
  rcases of_bind hrest with ⟨_, rule, _, _, _, hrest⟩
  exact footprints_attachNat hts (fun rule' owner howner hids => .floatingIp howner hids) hrest

theorem footprints_createSnat (hts : ts.WellFormed) {router external subnet : String}
    {t : Transaction NatRule} (h : (createSnat router external subnet).Ends ts drawn t) :
    Footprints ts (.createSnat router external subnet) t.operations := by
  rcases of_bind h with ⟨_, uuid, _, _, _, hrest⟩
  rcases of_bind hrest with ⟨_, external, _, _, _, hrest⟩
  rcases of_bind hrest with ⟨_, logical, _, _, _, hrest⟩
  rcases of_bind hrest with ⟨_, rule, _, _, _, hrest⟩
  exact footprints_attachNat hts (fun rule' owner howner hids => .snat howner hids) hrest

theorem GoesOff.footprint {rule : NatRule} {op : Operation} (h : GoesOff ts rule op) :
    Footprint ts r ops op := by
  rcases h with ⟨k, row, _, _, _, rfl⟩
  exact .unlink _ _ _ _

theorem footprints_deleteFloatingIp (hts : ts.WellFormed) {floating : String}
    {t : Transaction Unit} (h : (deleteFloatingIp floating).Ends ts drawn t) :
    Footprints ts (.deleteFloatingIp floating) t.operations := by
  rcases of_bind h with ⟨_, rules, _, _, _, hrest⟩
  rcases of_bind hrest with ⟨_, gone, _, _, hgone, hwrite⟩
  rcases of_pure hwrite with ⟨_, rfl⟩
  intro op hop
  rcases ((of_gather (fun rule vs cs => of_removeNat hts) hgone).2 op).mp hop with
    ⟨rule, _, hoff | rfl⟩
  · exact hoff.footprint
  · exact .delete fun htable => by cases htable

theorem footprints_deleteNat (hts : ts.WellFormed) {uuid : String} {t : Transaction Unit}
    (h : (deleteNat uuid).Ends ts drawn t) : Footprints ts (.deleteNat uuid) t.operations := by
  rcases of_bind h with ⟨_, found, _, _, _, hrest⟩
  cases found with
  | none =>
      rcases of_pure hrest with ⟨_, rfl⟩
      exact .nil _ _
  | some rule =>
      rcases of_bind hrest with ⟨_, gone, _, _, hgone, hwrite⟩
      rcases of_pure hwrite with ⟨_, rfl⟩
      intro op hop
      rcases ((of_removeNat hts hgone).2 op).mp hop with hoff | rfl
      · exact hoff.footprint
      · exact .delete fun htable => by cases htable

/-! ### Calls on security groups -/

theorem GroupGone.footprint {old : Option PortGroup} {gone : List Operation}
    (h : GroupGone ts old gone) {op : Operation} (hop : op ∈ gone) : Footprint ts r ops op := by
  rcases h.kind op hop with ⟨group, _, ⟨u, _, rfl⟩ | rfl⟩ | ⟨lookup, rfl⟩
  · exact .delete fun htable => by cases htable
  · exact .delete fun htable => by cases htable
  · cases lookup with
    | name text =>
        exact .deleteSet text
    | uuid text =>
        exact .delete fun htable => by cases htable

theorem footprints_createGroup (hts : ts.WellFormed) {group : SecurityGroup}
    {t : Transaction CompiledGroup} (h : (createGroup group).Ends ts drawn t) :
    Footprints ts (.createGroup group) t.operations := by
  rcases operations_createGroup hts h with
    ⟨plan, hplan, _, hresult, old, sets, hget, _, hsets, hoperations⟩
  have hgone := groupGone_of_get? hts hget hsets
  rw [hoperations]
  refine Footprints.append (fun op hop => hgone.footprint hop) fun op hop => ?_
  rcases List.mem_map.mp hop with ⟨row, hrow, rfl⟩
  rw [hresult] at hrow
  exact .insert (.group hplan hrow)

theorem footprints_deleteGroup (hts : ts.WellFormed) {group : String} {t : Transaction Unit}
    (h : (deleteGroup group).Ends ts drawn t) :
    Footprints ts (.deleteGroup group) t.operations := by
  rcases of_bind h with ⟨_, old, _, _, hold, hwrite⟩
  rcases of_pure hwrite with ⟨_, rfl⟩
  rcases of_fetch hold with ⟨_, hget⟩
  have hsets : ∀ op ∈ [Operation.delete .addressSet (.name (Name.addressSet group))],
      ∃ lookup, op = .delete .addressSet lookup := by
    intro op hop
    exact ⟨_, List.mem_singleton.mp hop⟩
  exact fun op hop => (groupGone_of_get? hts hget hsets).footprint hop

theorem footprints_applyGroup {port group : String} {t : Transaction Unit}
    (h : (applyGroup port group).Ends ts drawn t) :
    Footprints ts (.applyGroup port group) t.operations := by
  rcases of_bind h with ⟨_, groupRow, _, _, _, hrest⟩
  rcases of_bind hrest with ⟨_, portRow, _, _, _, hrest⟩
  split at hrest
  · rcases of_pure hrest with ⟨_, rfl⟩
    exact .nil _ _
  · rcases of_pure hrest with ⟨_, rfl⟩
    exact .single (.link fun t howner => by cases t <;> cases howner)

theorem footprints_removeFromGroup {port group : String} {t : Transaction Unit}
    (h : (removeFromGroup port group).Ends ts drawn t) :
    Footprints ts (.removeFromGroup port group) t.operations := by
  rcases of_bind h with ⟨_, found, _, _, _, hrest⟩
  cases found with
  | none =>
      rcases of_pure hrest with ⟨_, rfl⟩
      exact .nil _ _
  | some row =>
      rcases of_pure hrest with ⟨_, rfl⟩
      exact .single (.unlink _ _ _ _)

theorem footprints_updateAddresses (hts : ts.WellFormed) {group : String}
    {addresses : List String} {t : Transaction AddressSet}
    (h : (updateAddresses group addresses).Ends ts drawn t) :
    Footprints ts (.updateAddresses group addresses) t.operations := by
  rcases of_bind h with ⟨_, old, _, _, hold, hrest⟩
  rcases of_require hold with ⟨_, hget⟩
  split at hrest
  · cases hrest
  · rcases of_pure hrest with ⟨_, rfl⟩
    exact .single (.update (.addresses (get?_of_get? hts hget)))

/-! ### Calls on load balancers -/

theorem footprints_createBalancer {balancer : Tenant.Balancer}
    (hmade : ∀ (uuid : String) (row : LoadBalancer), balancerRow balancer uuid = .ok row →
      Made ts r (.loadBalancer row) none) {t : Transaction LoadBalancer}
    (h : (createBalancer balancer).Ends ts drawn t) : Footprints ts r t.operations := by
  rcases of_bind h with ⟨_, uuid, _, _, _, hrest⟩
  rcases of_bind hrest with ⟨_, row, _, _, hrow, hwrite⟩
  rcases of_pure hwrite with ⟨_, rfl⟩
  rcases of_input hrow with ⟨_, hbuilt⟩
  exact .single (.insert (hmade uuid row hbuilt))

theorem footprints_updateBalancer {balancer : Tenant.Balancer} {t : Transaction LoadBalancer}
    (h : (updateBalancer balancer).Ends ts drawn t) :
    Footprints ts (.updateBalancer balancer) t.operations := by
  rcases of_bind h with ⟨_, found, _, _, _, hrest⟩
  cases found with
  | none =>
      exact footprints_createBalancer (fun uuid row hrow => .newBalancer hrow) hrest
  | some old =>
      rcases of_bind hrest with ⟨_, row, _, _, hrow, hwrite⟩
      rcases of_pure hwrite with ⟨_, rfl⟩
      rcases of_input hrow with ⟨_, hbuilt⟩
      exact .single (.update (.balancer hbuilt))

theorem footprints_deleteBalancer {balancer : String} {t : Transaction Unit}
    (h : (deleteBalancer balancer).Ends ts drawn t) :
    Footprints ts (.deleteBalancer balancer) t.operations := by
  rcases of_bind h with ⟨_, found, _, _, _, hrest⟩
  cases found with
  | none =>
      rcases of_pure hrest with ⟨_, rfl⟩
      exact .nil _ _
  | some row =>
      rcases of_bind hrest with ⟨_, switches, _, _, _, hrest⟩
      rcases of_bind hrest with ⟨_, routers, _, _, _, hrest⟩
      rcases of_pure hrest with ⟨_, rfl⟩
      intro op hop
      simp only [List.mem_append, List.mem_map, List.mem_singleton] at hop
      rcases hop with (⟨s, _, rfl⟩ | ⟨s, _, rfl⟩) | rfl
      · exact .unlink _ _ _ _
      · exact .unlink _ _ _ _
      · exact .delete fun htable => by cases htable

theorem footprints_assign {table : Table} {owner : String} {assigned : List String}
    {balancer : LoadBalancer} {t : Transaction Unit}
    (h : (assign table owner assigned balancer).Ends ts drawn t) :
    Footprints ts r t.operations := by
  unfold assign at h
  split at h
  · rcases of_pure h with ⟨_, rfl⟩
    exact .nil _ _
  · rcases of_pure h with ⟨_, rfl⟩
    exact .single (.link fun t howner => by cases t <;> cases howner)

theorem footprints_assignToSwitch {balancer network : String} {t : Transaction Unit}
    (h : (assignToSwitch balancer network).Ends ts drawn t) :
    Footprints ts r t.operations := by
  rcases of_bind h with ⟨_, switch, _, _, _, hrest⟩
  rcases of_bind hrest with ⟨_, row, _, _, _, hrest⟩
  exact footprints_assign hrest

theorem footprints_assignToRouter {balancer router : String} {t : Transaction Unit}
    (h : (assignToRouter balancer router).Ends ts drawn t) :
    Footprints ts r t.operations := by
  rcases of_bind h with ⟨_, routerRow, _, _, _, hrest⟩
  rcases of_bind hrest with ⟨_, row, _, _, _, hrest⟩
  exact footprints_assign hrest

/-! ### Every request -/

theorem footprints_answer {α : Type} {p : Plan α} {t : Transaction α}
    (h : (Plan.answer p).Ends ts drawn t) : Footprints ts r t.operations := by
  rw [of_answer h]
  exact .nil _ _

theorem footprints_plan (hts : ts.WellFormed) {t : Transaction Answer}
    (h : r.plan.Ends ts drawn t) : Footprints ts r t.operations := by
  cases r <;> rcases of_translated h with ⟨t', hends, hoperations⟩ <;> rw [hoperations]
  case createSwitch => exact footprints_createSwitch hends
  case deleteSwitch => exact footprints_deleteSwitch hts hends
  case createPort => exact footprints_createPort hts hends
  case deletePort => exact footprints_deletePort hts hends
  case bindPort => exact footprints_bindPort hends
  case createLocalnetPort => exact footprints_createLocalnetPort hts hends
  case createDhcpOptions => exact footprints_createDhcpOptions (fun _ _ => .dhcp) hends
  case updateDhcpOptions =>
    rcases of_pure hends with ⟨_, rfl⟩
    exact .single (.update .dhcp)
  case deleteDhcpOptions =>
    rcases of_pure hends with ⟨_, rfl⟩
    exact .single (.delete fun _ => rfl)
  case createRouter => exact footprints_createRouter hends
  case deleteRouter => exact footprints_deleteRouter hts hends
  case addInterface => exact footprints_addInterface hts hends
  case removeInterface => exact footprints_removeInterface hends
  case addRoute => exact footprints_addRoute hts hends
  case deleteRoute => exact footprints_deleteRoute hends
  case createGroup => exact footprints_createGroup hts hends
  case deleteGroup => exact footprints_deleteGroup hts hends
  case applyGroup => exact footprints_applyGroup hends
  case removeFromGroup => exact footprints_removeFromGroup hends
  case updateAddresses => exact footprints_updateAddresses hts hends
  case createFloatingIp => exact footprints_createFloatingIp hts hends
  case deleteFloatingIp => exact footprints_deleteFloatingIp hts hends
  case createSnat => exact footprints_createSnat hts hends
  case deleteNat => exact footprints_deleteNat hts hends
  case createBalancer =>
    exact footprints_createBalancer (fun uuid row hrow => .balancer hrow) hends
  case updateBalancer => exact footprints_updateBalancer hends
  case deleteBalancer => exact footprints_deleteBalancer hends
  case assignToSwitch => exact footprints_assignToSwitch hends
  case assignToRouter => exact footprints_assignToRouter hends
  all_goals exact footprints_answer hends

end Client
end LogicalNet
