import LogicalNet.Proofs.Client.Deletions
import LogicalNet.Proofs.Store.Restoration

/-!
# What creations make

A request that creates something makes a few rows and puts them on their owners.  What
is found afterwards under a name, with an external id or on an owner is one of these
rows, or it was found before.  A switch port names a router that is there, so that no
port waits for a router that is about to be made.
-/

namespace LogicalNet

theorem Table.ne_of_owner? {t owner : Table} {c : RefColumn} (h : t.owner? = some (owner, c)) :
    t ≠ owner := by
  cases t <;> cases h <;> simp

theorem StaticRoute.destination_of_build {uuid : String} {destination nextHop : NetAddress}
    {route : StaticRoute} (h : StaticRoute.build uuid destination nextHop = .ok route) :
    route.destination = destination := by
  unfold StaticRoute.build at h
  split at h
  · cases h
  · split at h
    · cases h
    · cases h
      rfl

theorem NatRule.of_build {uuid : String} {kind : NatKind} {external logical : NetAddress}
    {rule : NatRule} (h : NatRule.build uuid kind external logical = .ok rule) :
    rule.kind = kind ∧ rule.external = external := by
  unfold NatRule.build at h
  split at h
  · cases h
  · split at h
    · cases h
    · cases h
      exact ⟨rfl, rfl⟩

/-- The rule is for both directions, its external address is what the text reads as, and it records
the text. -/
structure NatRule.Floats (rule : NatRule) (text : String) : Prop where
  kind : rule.kind = .both
  external : NetAddress.read text = .ok rule.external
  recorded : rule.externalIds.get? ExternalId.floatingIp = some text

namespace Tables

open Client

/-! ## What is found beside the new rows -/

namespace Created

variable {ts us : Tables} {rows : List Row} {row : Row} {t : Table} {key value name u : String}

/-- A row is one of those that were made, or it was there with the same references to other
rows. -/
theorem new_or_old (h : Created rows ts us) {k : String} {s : Row} (hs : (us t).get? k = some s) :
    (s ∈ rows ∧ (t, k) ∈ rows.map Row.place) ∨
      ∃ r, (ts t).get? k = some r ∧
        r.without (rows.map Row.place) = s.without (rows.map Row.place) := by
  by_cases hplace : (t, k) ∈ rows.map Row.place
  · obtain ⟨row, hmem, rfl, rfl⟩ := place_mem_iff.mp hplace
    rw [h.stored row hmem] at hs
    cases hs
    exact .inl ⟨hmem, hplace⟩
  · exact .inr (h.beside.exists_row hplace hs)

theorem get?_of_addresses (h : Created rows ts us) (hus : us.WellFormed) (hrow : row ∈ rows)
    {lookup : Lookup} (haddresses : lookup.addresses row = true)
    (hlookup : (∃ u, lookup = .uuid u) ∨ row.table.hasNameIndex = true) :
    us.get? row.table lookup = some row :=
  hus.get?_of_addresses (h.stored row hrow) haddresses hlookup

theorem get?_name (h : Created rows ts us) (hus : us.WellFormed) (hrow : row ∈ rows)
    (hindex : row.table.hasNameIndex = true) (hname : row.name? = some name) :
    us.get? row.table (.name name) = some row :=
  h.get?_of_addresses hus hrow (by simp [Lookup.addresses, hname]) (.inr hindex)

theorem stored_iff (h : Created rows ts us) (hus : us.WellFormed) (hrow : row ∈ rows)
    (hindex : row.table.hasNameIndex = true) (hname : row.name? = some name) :
    Stored us row.table name u ↔ u = row.uuid := by
  simp [Stored, h.get?_name hus hrow hindex hname, eq_comm]

theorem listedIn_iff (h : Created rows ts us) (hus : us.WellFormed) (hrow : row ∈ rows)
    (hindex : row.table.hasNameIndex = true) (hname : row.name? = some name) (c : RefColumn) :
    ListedIn us row.table name c u ↔ u ∈ row.refs c := by
  simp [ListedIn, h.get?_name hus hrow hindex hname]

/-- The name of a new row was not taken. -/
theorem not_hasNamed (h : Created rows ts us) (hus : us.WellFormed) (hrow : row ∈ rows)
    (hindex : row.table.hasNameIndex = true) (hname : row.name? = some name) :
    ¬ ts.HasNamed row.table name := by
  intro hnamed
  obtain ⟨k, r, hr, hname'⟩ := hnamed
  have hold : (row.table, k) ∉ rows.map Row.place := by
    intro hplace
    obtain ⟨row', hmem, htable, huuid⟩ := place_mem_iff.mp hplace
    rw [← htable, ← huuid, h.before row' hmem] at hr
    cases hr
  obtain ⟨s, hs, hsame⟩ := Option.map_eq_some_iff.mp
    ((h.beside _ _ hold).trans (by rw [hr, Option.map_some]))
  have hsname : s.name? = some name := by
    simpa [hname'] using congrArg Row.name? hsame
  have hkey := hus.key_eq_of_name hindex hs (h.stored row hrow) hsname hname
  apply hold
  rw [hkey]
  exact List.mem_map_of_mem hrow

theorem bears (h : Created rows ts us) (hbears : Bears us t key value u) :
    (t, u) ∈ rows.map Row.place ∨ Bears ts t key value u := by
  obtain ⟨s, hs, hvalue⟩ := hbears
  cases h.new_or_old hs with
  | inl hnew =>
      exact .inl hnew.2
  | inr hold =>
      obtain ⟨r, hr, hsame⟩ := hold
      have hids : r.externalIds = s.externalIds := by
        simpa using congrArg Row.externalIds hsame
      rw [← hids] at hvalue
      exact .inr ⟨r, hr, hvalue⟩

/-- A route of the router is new, or it was one of the router before. -/
theorem routeOf (h : Created rows ts us) (hts : ts.WellFormed) (hus : us.WellFormed)
    (hrouters : ∀ row ∈ rows, row.table ≠ .router) {router key : String} {target : NetAddress}
    (hroute : RouteOf us router target key u) :
    (.staticRoute, u) ∈ rows.map Row.place ∨ RouteOf ts router target key u := by
  obtain ⟨⟨owner, hget, rfl⟩, ⟨owner', hget', hu⟩, route, hroute, htarget⟩ := hroute
  rw [hget] at hget'
  cases hget'
  by_cases hplace : (Table.staticRoute, u) ∈ rows.map Row.place
  · exact .inl hplace
  obtain ⟨howner, hname⟩ := (hus.get?_name_iff rfl).mp hget
  have hold : (Table.router, owner.uuid) ∉ rows.map Row.place := by
    intro hnew
    obtain ⟨row, hmem, htable, _⟩ := place_mem_iff.mp hnew
    exact hrouters row hmem htable
  obtain ⟨r, hr, hsame⟩ := h.beside.exists_row hold howner
  have hrname : r.name? = some (Name.router router) := by
    simpa [hname] using congrArg Row.name? hsame
  have hrouter : ts.get? .router (.name (Name.router router)) = some r :=
    (hts.name?_eq_iff rfl hr).mp hrname
  have hlisted : u ∈ r.refs .staticRoutes := by
    have htable := hus.table_eq howner
    have htable' := hts.table_eq hr
    rw [← Row.mem_refsBeside_iff (by rw [htable']; rfl) hplace, ← Row.refs_without, hsame,
      Row.refs_without, Row.mem_refsBeside_iff (by rw [htable]; rfl) hplace]
    exact hu
  have hold := h.beside.get?_of_bare hts hus (Table.bare_of_owner? rfl) hplace hroute
  exact .inr ⟨⟨r, hrouter, hts.uuid_eq hr⟩, ⟨r, hrouter, hlisted⟩, route, hold, htarget⟩

end Created

/-! ## New rows, and new rows on their owners -/

section Making

variable {ts us : Tables} {row o : Row} {owner : Table} {key name : String} {c : RefColumn}

theorem created_of_inserts (hts : ts.WellFormed) {rows : List Row}
    (hops : ts.applyAll (rows.map .insert) = .ok us) : Created rows ts us := by
  apply created_of_makes hts _ (fun row hrow => List.mem_map_of_mem hrow) hops
  intro op hop
  obtain ⟨row, hrow, rfl⟩ := List.mem_map.mp hop
  exact .insert hrow

/-- An attachment makes its row, if that is one of the rows and its owner is none of them. -/
theorem makes_of_attachment {rows : List Row} (hrow : row ∈ rows)
    (howner : row.table.owner? = some (owner, c)) (hother : ∀ r ∈ rows, r.table ≠ owner) :
    ∀ op ∈ attachment row owner key c, Makes rows op := by
  intro op hop
  simp only [attachment, List.mem_cons, List.not_mem_nil, or_false] at hop
  cases hop with
  | inl hinsert =>
      rw [hinsert]
      exact .insert hrow
  | inr hlist =>
      rw [hlist]
      exact .list hrow (Table.target?_of_owner? howner) hother

theorem created_of_attachment (hts : ts.WellFormed)
    (howner : row.table.owner? = some (owner, c))
    (hops : ts.applyAll (attachment row owner key c) = .ok us) : Created [row] ts us := by
  apply created_of_makes hts (makes_of_attachment (by simp) howner _) _ hops
  · intro r hr
    rw [List.mem_singleton.mp hr]
    exact Table.ne_of_owner? howner
  · intro r hr
    rw [List.mem_singleton.mp hr]
    simp [attachment]

/-- The owner of the name lists what has been put on it. -/
theorem listedIn_of_attachment (hts : ts.WellFormed)
    (howner : row.table.owner? = some (owner, c)) (hindex : owner.hasNameIndex = true)
    (hget : ts.get? owner (.name name) = some o)
    (hops : ts.applyAll (attachment row owner o.uuid c) = .ok us) :
    Stored us owner name o.uuid ∧ ListedIn us owner name c row.uuid := by
  have hus := hts.applyAll hops
  obtain ⟨ho, hname⟩ := (hts.get?_name_iff hindex).mp hget
  obtain ⟨vs, hinsert, hrest⟩ := applyAll_cons_eq_ok_iff.mp hops
  obtain ⟨ws, hadd, hdone⟩ := applyAll_cons_eq_ok_iff.mp hrest
  cases hdone
  have hvs := hts.apply hinsert
  have howner' : (vs owner).get? o.uuid = some o := by
    cases effect_of_apply hts hinsert with
    | insert _ _ _ =>
        rw [get?_put, if_neg]
        · exact ho
        · intro hplace
          exact Table.ne_of_owner? howner hplace.1.symm
  cases effect_of_apply hvs hadd with
  | @addRefs _ _ _ _ _ key r _ _ hkey hr _ =>
      cases eq_of_findKey?_uuid hkey
      rw [howner'] at hr
      cases hr
      have hlisting := get?_setRow vs owner o.uuid
        (o.mapReferences (addMissing · [row.uuid]) c) owner o.uuid
      rw [if_pos ⟨rfl, rfl⟩] at hlisting
      have hread := (hus.name?_eq_iff hindex hlisting).mp (by simpa using hname)
      have htarget : (c.target? o.table).isSome = true := by
        rw [hts.table_eq ho, Table.target?_of_owner? howner]
        rfl
      refine ⟨⟨_, hread, Row.uuid_mapReferences _ c o⟩, _, hread, ?_⟩
      rw [Row.refs_mapReferences _ htarget, if_pos rfl]
      exact (mem_addMissing _ _ _).mpr (.inr rfl)

end Making
end Tables

namespace Client

open Tables Plan.Ends

variable {ts us : Tables} {drawn : List String}

theorem isEmpty_switch (network : String) : (Name.switch network).isEmpty = false := by
  simp [Name.switch]

/-! ## What the creations write -/

theorem operations_createRouter {router project : String} {distributed : Bool}
    {t : Transaction Router} (h : (createRouter router project distributed).Ends ts drawn t) :
    t.operations = [.insert (.router t.result)] ∧ t.result.name = Name.router router ∧
      ∀ c, (Row.router t.result).refs c = [] := by
  obtain ⟨_, uuid, _, _, _, hwrite⟩ := of_bind h
  obtain ⟨_, rfl⟩ := of_pure hwrite
  exact ⟨rfl, rfl, fun c => by cases c <;> rfl⟩

theorem name_of_balancerRow {balancer : Tenant.Balancer} {uuid : String} {row : LoadBalancer}
    (h : balancerRow balancer uuid = .ok row) : row.name = Name.loadBalancer balancer.id := by
  obtain ⟨vip, _, hrest⟩ := Outcome.bind_eq_ok_iff.mp h
  split at hrest
  · cases hrest
  · cases hrest
    rfl

theorem operations_createBalancer {balancer : Tenant.Balancer} {t : Transaction LoadBalancer}
    (h : (createBalancer balancer).Ends ts drawn t) :
    t.operations = [.insert (.loadBalancer t.result)] ∧
      t.result.name = Name.loadBalancer balancer.id := by
  obtain ⟨_, uuid, _, _, _, hrest⟩ := of_bind h
  obtain ⟨_, row, _, _, hrow, hwrite⟩ := of_bind hrest
  obtain ⟨_, rfl⟩ := of_pure hwrite
  obtain ⟨_, hrow⟩ := of_input hrow
  exact ⟨rfl, name_of_balancerRow hrow⟩

theorem operations_createPort {port : Tenant.Port} {t : Transaction SwitchPort}
    (h : (createPort port).Ends ts drawn t) : t.result.name = Name.switchPort port.id ∧
      ∃ key, t.operations = attachment (.switchPort t.result) .switch key .ports := by
  obtain ⟨_, switch, _, _, _, hrest⟩ := of_bind h
  obtain ⟨_, mac, _, _, _, hrest⟩ := of_bind hrest
  obtain ⟨_, uuid, _, _, _, hrest⟩ := of_bind hrest
  obtain ⟨_, dhcp, _, _, _, hwrite⟩ := of_bind hrest
  obtain ⟨_, rfl⟩ := of_pure hwrite
  exact ⟨rfl, switch.uuid, rfl⟩

theorem operations_addInterface {router network gateway : String} {t : Transaction RouterPort}
    (h : (addInterface router network gateway).Ends ts drawn t) :
    t.result.name = Name.routerPort (Name.router router) (Name.switch network) ∧
      ∃ peer : SwitchPort,
        peer.name = Name.routerPeer (Name.router router) (Name.switch network) ∧
        ∃ key key', t.operations = attachment (.routerPort t.result) .router key .ports ++
          attachment (.switchPort peer) .switch key' .ports := by
  obtain ⟨_, address, _, _, _, hrest⟩ := of_bind h
  split at hrest
  · cases hrest
  · obtain ⟨_, routerRow, _, _, _, hrest⟩ := of_bind hrest
    obtain ⟨_, switchRow, _, _, _, hrest⟩ := of_bind hrest
    obtain ⟨_, uuid, _, _, _, hrest⟩ := of_bind hrest
    obtain ⟨_, mac, _, _, _, hrest⟩ := of_bind hrest
    obtain ⟨_, peerUuid, _, _, _, hwrite⟩ := of_bind hrest
    obtain ⟨_, rfl⟩ := of_pure hwrite
    exact ⟨rfl, interfacePeer router network peerUuid, rfl, routerRow.uuid, switchRow.uuid, rfl⟩

theorem operations_addRoute {router destination nextHop : String} {t : Transaction StaticRoute}
    (h : (addRoute router destination nextHop).Ends ts drawn t) :
    NetAddress.read destination = .ok t.result.destination ∧ ∃ owner : Row,
      ts.get? .router (.name (Name.router router)) = some owner ∧
      t.operations = attachment (.staticRoute t.result) .router owner.uuid .staticRoutes := by
  obtain ⟨_, row, _, _, hrow, hrest⟩ := of_bind h
  obtain ⟨_, uuid, _, _, _, hrest⟩ := of_bind hrest
  obtain ⟨_, target, _, _, htarget, hrest⟩ := of_bind hrest
  obtain ⟨_, via, _, _, _, hrest⟩ := of_bind hrest
  obtain ⟨_, route, _, _, hroute, hwrite⟩ := of_bind hrest
  obtain ⟨_, rfl⟩ := of_pure hwrite
  obtain ⟨_, hget⟩ := of_requireParent hrow
  obtain ⟨_, htarget⟩ := of_input htarget
  obtain ⟨_, hbuild⟩ := of_input hroute
  rw [← StaticRoute.destination_of_build hbuild] at htarget
  exact ⟨htarget, _, hget, rfl⟩

/-- A route that has been made is one of its router. -/
theorem routeOf_addRoute {router destination nextHop : String} (hts : ts.WellFormed)
    {t : Transaction StaticRoute} (h : (addRoute router destination nextHop).Ends ts drawn t)
    (hops : ts.applyAll t.operations = .ok us) :
    NetAddress.read destination = .ok t.result.destination ∧ Created [.staticRoute t.result] ts us ∧
      ∃ key, RouteOf us router t.result.destination key t.result.uuid := by
  obtain ⟨htarget, owner, hget, hoperations⟩ := operations_addRoute h
  rw [hoperations] at hops
  have hcreated := created_of_attachment hts rfl hops
  have hrow := hcreated.stored _ List.mem_cons_self
  obtain ⟨hstored, hlisted⟩ := listedIn_of_attachment hts rfl rfl hget hops
  exact ⟨htarget, hcreated, owner.uuid, hstored, hlisted, t.result, hrow, rfl⟩

theorem operations_attachNat {router : String} {rule : NatRule} {t : Transaction NatRule}
    (h : (attachNat router rule).Ends ts drawn t) :
    t.result = { rule with
        externalIds := rule.externalIds.insert ExternalId.router (Name.router router) } ∧
      ∃ key, t.operations = attachment (.nat t.result) .router key .nat := by
  obtain ⟨_, row, _, _, _, hwrite⟩ := of_bind h
  obtain ⟨_, rfl⟩ := of_pure hwrite
  exact ⟨rfl, row.uuid, rfl⟩

theorem operations_createFloatingIp {router floating internal : String} {t : Transaction NatRule}
    (h : (createFloatingIp router floating internal).Ends ts drawn t) :
    t.result.Floats floating ∧
      ∃ key, t.operations = attachment (.nat t.result) .router key .nat := by
  obtain ⟨_, uuid, _, _, _, hrest⟩ := of_bind h
  obtain ⟨_, external, _, _, hexternal, hrest⟩ := of_bind hrest
  obtain ⟨_, logical, _, _, _, hrest⟩ := of_bind hrest
  obtain ⟨_, rule, _, _, hrule, hrest⟩ := of_bind hrest
  obtain ⟨_, hexternal⟩ := of_input hexternal
  obtain ⟨_, hbuild⟩ := of_input hrule
  obtain ⟨hkind, hsame⟩ := NatRule.of_build hbuild
  obtain ⟨hresult, hoperations⟩ := operations_attachNat hrest
  refine ⟨?_, hoperations⟩
  rw [hresult]
  constructor
  · exact hkind
  · rw [hexternal, ← hsame]
  · rw [TextMap.get?_insert_of_ne _ (by decide)]
    rfl

theorem operations_createSnat {router external subnet : String} {t : Transaction NatRule}
    (h : (createSnat router external subnet).Ends ts drawn t) :
    t.result.kind = .source ∧
      ∃ key, t.operations = attachment (.nat t.result) .router key .nat := by
  obtain ⟨_, uuid, _, _, _, hrest⟩ := of_bind h
  obtain ⟨_, address, _, _, _, hrest⟩ := of_bind hrest
  obtain ⟨_, logical, _, _, _, hrest⟩ := of_bind hrest
  obtain ⟨_, rule, _, _, hrule, hrest⟩ := of_bind hrest
  obtain ⟨_, hbuild⟩ := of_input hrule
  obtain ⟨hresult, hoperations⟩ := operations_attachNat hrest
  refine ⟨?_, hoperations⟩
  rw [hresult]
  exact (NatRule.of_build hbuild).1

/-- A group that is not there yet is made of new rows only. -/
theorem operations_createGroup_of_absent (hts : ts.WellFormed) (hgrouped : Grouped ts)
    {group : SecurityGroup} (habsent : ts.get? .portGroup (.name (Name.portGroup group.id)) = none)
    {t : Transaction CompiledGroup} (h : (createGroup group).Ends ts drawn t) :
    t.operations = (storedRows t.result).map .insert ∧ Compiles group.id t.result := by
  constructor
  · unfold createGroup at h
    split at h
    · cases h
    · rename_i plan hplan
      obtain ⟨_, uuids, _, _, _, hrest⟩ := of_bind h
      obtain ⟨_, oldGroup, _, _, holdGroup, hrest⟩ := of_bind hrest
      obtain ⟨_, oldSet, _, _, holdSet, hwrite⟩ := of_bind hrest
      obtain ⟨_, rfl⟩ := of_pure hwrite
      obtain ⟨_, hgroup⟩ := of_fetch holdGroup
      obtain ⟨_, hset⟩ := of_fetch holdSet
      have hid := SecurityGroup.group_of_plan hplan
      change ts.get? .portGroup (.name (Name.portGroup plan.group)) = _ at hgroup
      change ts.get? .addressSet (.name (Name.addressSet plan.group)) = _ at hset
      rw [hid] at hgroup hset
      -- the address set is not there either
      have hnoSet : ts.get? .addressSet (.name (Name.addressSet group.id)) = none := by
        have hpaired := hgrouped.paired group.id
        rw [hts.hasNamed_iff rfl, hts.hasNamed_iff rfl, habsent] at hpaired
        simpa using hpaired
      rw [habsent] at hgroup
      rw [hnoSet] at hset
      cases Option.map_eq_none_iff.mp hgroup.symm
      cases Option.map_eq_none_iff.mp hset.symm
      rw [storedRows, map_insert_groupRows]
      rfl
  · obtain ⟨plan, hplan, _, hresult, _⟩ := operations_createGroup hts h
    rw [hresult]
    exact compiles_withUuids hplan drawn ts

/-! ## What a request has done -/

section Requests

variable {ι : Type} [IdSource ι] {α : Type} {m m' : Memory} {ids ids' : ι}

/-- A call that succeeds has written its transaction. -/
theorem written_of_perform {p : Plan (Transaction α)} {a : α}
    (h : p.perform m ids = (.ok a, m', ids')) : ∃ drawn t us, p.Ends m.tables drawn t ∧
      m.tables.applyAll t.operations = .ok us ∧ a = t.result ∧ m' = { m with tables := us } := by
  have houtcome := Plan.outcome_perform p m ids
  rw [h] at houtcome
  cases houtcome with
  | written _ hends hops =>
      exact ⟨_, _, _, hends, hops, rfl, rfl⟩

theorem written_of_request {p : Plan (Transaction α)} {f : Transaction α → Answer} {a : Answer}
    (h : ((p.bind fun t => .write t.operations (f t)).perform m ids).1 = .ok a) :
    ∃ drawn t us, p.Ends m.tables drawn t ∧ m.tables.applyAll t.operations = .ok us ∧ a = f t ∧
      ((p.bind fun t => .write t.operations (f t)).perform m ids).2.1 =
        { m with tables := us } := by
  obtain ⟨_, t', us, hends, hops, ha, hm⟩ := written_of_perform (Prod.ext h rfl)
  obtain ⟨drawn, t, _, _, hplan, hwrite⟩ := of_bind hends
  obtain ⟨_, rfl⟩ := of_pure hwrite
  exact ⟨drawn, t, us, hplan, hops, ha, hm⟩

/-- The rows of a new switch. -/
def SwitchCreation.rows (c : SwitchCreation) : List Row :=
  .switch c.switch :: c.dhcpOptions.toList.map .dhcpOptions

theorem written_of_createSwitch {network : Tenant.Network} {switch : Switch} {m' : Memory}
    {ids' : ι} (h : (createSwitch network).perform m ids = (.ok switch, m', ids')) :
    switch.name = Name.switch network.id ∧ (∀ col, (Row.switch switch).refs col = []) ∧
      ∃ us, m.tables.applyAll [.insert (.switch switch)] = .ok us ∧
        m' = { m with tables := us } := by
  obtain ⟨_, t, us, hends, hops, rfl, hm⟩ := written_of_perform h
  obtain ⟨_, uuid, _, _, _, hwrite⟩ := of_bind hends
  obtain ⟨_, rfl⟩ := of_pure hwrite
  exact ⟨rfl, fun col => by cases col <;> rfl, us, hops, hm⟩

/-- The DHCP options of a network bear the name of its switch. -/
theorem switch_of_createNetworkDhcp {network : Tenant.Network} {t : Transaction DhcpOptions}
    (h : (createNetworkDhcp network).Ends ts drawn t) :
    t.result.externalIds.get? ExternalId.switch = some (Name.switch network.id) := by
  have hinsert : .insert (.dhcpOptions t.result) ∈ t.operations := by
    simp [operations_createNetworkDhcp h]
  cases footprints_createNetworkDhcp h _ hinsert with
  | insert hmade =>
      cases hmade with
      | networkDhcp hids =>
          rw [hids]
          exact ExternalIds.get?_ofPairs_last [(ExternalId.network, network.id)]
            (isEmpty_switch network.id)

/-- A switch is made alone or with the DHCP options of its network, which bear its name. -/
theorem written_of_createNetwork {network : Tenant.Network} {c : SwitchCreation}
    (h : (createNetwork network m ids).1 = .ok c) :
    c.switch.name = Name.switch network.id ∧ (∀ col, (Row.switch c.switch).refs col = []) ∧
      (∀ d ∈ c.dhcpOptions,
        d.externalIds.get? ExternalId.switch = some (Name.switch network.id)) ∧
      ∃ us, m.tables.applyAll (c.rows.map .insert) = .ok us ∧
        (createNetwork network m ids).2.1 = { m with tables := us } := by
  have hcreation := creation_createNetwork network m ids
  generalize createNetwork network m ids = outcome at h hcreation ⊢
  cases hcreation with
  | failed _ =>
      cases h
  | bare hperform _ =>
      cases h
      obtain ⟨hname, hbare, hwritten⟩ := written_of_createSwitch hperform
      exact ⟨hname, hbare, by simp, hwritten⟩
  | unserved hperform _ =>
      cases h
      obtain ⟨hname, hbare, hwritten⟩ := written_of_createSwitch hperform
      exact ⟨hname, hbare, by simp, hwritten⟩
  | served hperform hdhcp =>
      cases h
      obtain ⟨hname, hbare, us, hops, rfl⟩ := written_of_createSwitch hperform
      obtain ⟨_, t, vs, hends, hops', rfl, rfl⟩ := written_of_perform hdhcp
      refine ⟨hname, hbare, fun d hd => ?_, vs, ?_, rfl⟩
      · cases hd
        exact switch_of_createNetworkDhcp hends
      · rw [operations_createNetworkDhcp hends] at hops'
        exact applyAll_append_eq_ok_iff.mpr ⟨us, hops, hops'⟩

end Requests

/-! ## Routers that ports of switches name -/

/-- The router that a port of a switch names is there. -/
def Routed (ts : Tables) : Prop :=
  ∀ x u, Bears ts .switchPort ExternalId.router x u → ts.HasNamed .router x

section Routed

variable {calls : List Call} {r : Request} {ops : List Operation}

/-- A switch port is made with the name of a router only as the peer of an interface. -/
theorem Made.of_router {p : Row} {owner : Option Row} {x : String} (h : Made ts r p owner)
    (htable : p.table = .switchPort) (hx : p.externalIds.get? ExternalId.router = some x) :
    ∃ router network gateway, r = .addInterface router network gateway ∧
      x = Name.router router := by
  cases h with
  | port howner hdhcp =>
      rw [Row.externalIds, portRow, get?_ofPairs_of_forall_ne
        (by simp [ExternalId.port, ExternalId.vm, ExternalId.router])] at hx
      cases hx
  | localnet howner =>
      rw [Row.externalIds, localnetRow, get?_ofPairs_of_forall_ne
        (by simp [ExternalId.network, ExternalId.router])] at hx
      cases hx
  | @interfacePeer router network gateway _ _ _ =>
      refine ⟨router, network, gateway, rfl, ?_⟩
      change (interfaceIds router network).get? ExternalId.router = some x at hx
      rw [get?_interfaceIds_router] at hx
      exact (Option.some.inj hx).symm
  | group hplan hrow =>
      rcases mem_storedRows.mp hrow with rfl | ⟨_, _, rfl⟩ | rfl <;> cases htable
  | _ =>
      cases htable

/-- An interface is made on a router that is there. -/
theorem hasNamed_of_addInterface (hts : ts.WellFormed) {router network gateway : String}
    (h : (Request.addInterface router network gateway).Writes ts us) :
    ts.HasNamed .router (Name.router router) := by
  cases h with
  | dhcp hr _ _ =>
      cases hr
  | call hends _ =>
      obtain ⟨t, ht, _⟩ := of_translated hends
      obtain ⟨_, address, _, _, _, hrest⟩ := of_bind ht
      split at hrest
      · cases hrest
      · obtain ⟨_, row, _, _, hrow, _⟩ := of_bind hrest
        obtain ⟨_, hget⟩ := of_requireParent hrow
        rw [hts.hasNamed_iff rfl, show ts.get? .router _ = _ from hget]
        rfl

theorem Change.hasNamed_router (h : Change calls r ts us ops) {x k : String} {row : Row}
    (hrow : (ts .router).get? k = some row) (hname : row.name? = some x)
    (hnot : ¬ r.Deletes ts .router k) : us.HasNamed .router x := by
  obtain ⟨s, hs⟩ := h.exists_of_not_deletes rfl hrow hnot
  exact ⟨k, s, hs, (h.revised rfl rfl hrow hs).name?.trans hname⟩

theorem Request.Writes.routed (hts : Sound (listing calls) nothing ts)
    (hcall : .request r ∈ calls) (hrouted : Routed ts) (h : r.Writes ts us) : Routed us := by
  intro x u hbears
  obtain ⟨s, hs, hx⟩ := hbears
  obtain ⟨ops, hchange⟩ := h.exists_change hts hcall
  obtain ⟨row, horigin, htable, _, hrevised⟩ := hchange.exists_row hs
  have hsame : s.externalIds.get? ExternalId.router = row.externalIds.get? ExternalId.router :=
    hchange.lasting (lasting_of_alike fun halike _ heq => halike.router.trans heq) hrevised rfl
  rw [hsame] at hx
  rcases horigin with hold | ⟨owner, hmade⟩ | hnew
  · obtain ⟨k, router, hrouter, hname⟩ := hrouted x u ⟨row, hold, hx⟩
    by_cases hdeletes : r.Deletes ts .router k
    · -- with the router goes the port that names it
      cases r <;> try exact hdeletes.elim
      case deleteRouter name =>
        obtain ⟨router', hrouter', hname'⟩ := (stored_iff hts.wellFormed rfl).mp hdeletes
        rw [hrouter] at hrouter'
        cases hrouter'
        rw [hname] at hname'
        cases hname'
        have hport : (Request.deleteRouter name).Deletes ts .switchPort u :=
          ⟨⟨k, hdeletes⟩, row, hold, hx⟩
        rw [h.gone hts.wellFormed hport] at hs
        cases hs
    · exact hchange.hasNamed_router hrouter hname hdeletes
  · obtain ⟨router, network, gateway, rfl, rfl⟩ := hmade.of_router htable hx
    obtain ⟨k, row', hrow', hname⟩ := hasNamed_of_addInterface hts.wellFormed h
    exact hchange.hasNamed_router hrow' hname id
  · cases hnew <;> cases htable

theorem routed_history {ι : Type} [IdSource ι] (calls : List Call) (ids : ι) :
    Routed (history calls ids).1.tables := by
  apply history_induction calls ids
  · intro x u hbears
    obtain ⟨s, hs, _⟩ := hbears
    rw [rows_empty] at hs
    cases hs
  · intro r ts us hts hcall hrouted h
    exact h.routed hts hcall hrouted

end Routed
end Client
end LogicalNet
