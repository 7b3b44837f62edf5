import LogicalNet.Proofs.Client.Creations

/-!
# Round trips

What a request creates is read back as it was answered, and the matching deletion
takes it away again.  A deletion looks for what it takes away by names, external ids,
prefixes and lists, and not by what the creation has written.  When it finds the new
rows and nothing else, the tables are those from before the creation, with every list
in its old order.
-/

namespace LogicalNet

/-- Plans end one after the other. -/
theorem Plan.Ends.bind {α β : Type} {ts : Tables} {vs ws : List String} {p : Plan α}
    {f : α → Plan β} {a : α} {b : β} (h : p.Ends ts vs a) (h' : (f a).Ends ts ws b) :
    (p.bind f).Ends ts (vs ++ ws) b := by
  induction h with
  | done a =>
      exact h'
  | get _ ih =>
      exact .get (ih h')
  | list _ ih =>
      exact .list (ih h')
  | find _ ih =>
      exact .find (ih h')
  | uuid u _ ih =>
      exact .uuid u (ih h')
  | mac m _ ih =>
      exact .mac m (ih h')

namespace Client

open Tables Plan.Ends

variable {calls : List Call} {ts us : Tables} {rows : List Row} {row : Row} {r : Request}

/-! ## Reading back -/

/-- The read of one row, which has to be there. -/
def lookUp (ρ : Type) [RowType ρ] (lookup : Lookup) : Plan (Transaction Answer) :=
  toRow (Plan.answer (Plan.require ρ lookup))

/-- Over these tables the call answers with the row, and does nothing else. -/
def Answers (us : Tables) (p : Plan (Transaction Answer)) (row : Row) : Prop :=
  ∀ (ι : Type) [IdSource ι] (m : Memory) (ids : ι), m.tables = us →
    p.perform m ids = (.ok (.row row), m, ids)

section Answers

variable {ρ : Type} [RowType ρ] [ReadableRowType ρ] [LawfulRowType ρ]

theorem answers_lookUp (hus : us.WellFormed) {lookup : Lookup}
    (h : us.get? (RowType.table ρ) lookup = some row) : Answers us (lookUp ρ lookup) row := by
  intro ι _ m ids hm
  have htable := hus.table_eq (hus.get?_eq_some_iff.mp h).2
  obtain ⟨a, ha⟩ := ReadableRowType.exists_ofRow htable
  have hrow := LawfulRowType.eq_toRow ha
  have hread : Store.get (RowType.table ρ) lookup m = (.ok (some row), m) := by
    rw [← h, ← hm]
    rfl
  simp only [lookUp, toRow, Plan.answer, Plan.require, Plan.fetch, Plan.bind, Plan.perform,
    Plan.run, hread, ha]
  rw [hrow]
  rfl

theorem answers_name (h : Created rows ts us) (hus : us.WellFormed) (hrow : row ∈ rows)
    (htable : row.table = RowType.table ρ) (hindex : row.table.hasNameIndex = true) {name : String}
    (hname : row.name? = some name) : Answers us (lookUp ρ (.name name)) row := by
  apply answers_lookUp hus
  rw [← htable]
  exact h.get?_name hus hrow hindex hname

theorem answers_uuid (h : Created rows ts us) (hus : us.WellFormed) (hrow : row ∈ rows)
    (htable : row.table = RowType.table ρ) : Answers us (lookUp ρ (.uuid row.uuid)) row := by
  apply answers_lookUp hus
  rw [← htable, get?_uuid]
  exact h.stored row hrow

end Answers

/-! ## Deletions of new rows -/

/-- The deletion takes away the rows, and nothing but these and references to them. -/
structure Reverts (r : Request) (rows : List Row) (us : Tables) : Prop where
  deletion : r.isDeletion = true
  clears : ∀ {drawn t}, r.plan.Ends us drawn t → ∀ op ∈ t.operations,
    Clears (rows.map Row.place) us op
  deletes : ∀ {drawn t}, r.plan.Ends us drawn t → ∀ row ∈ rows, ∃ lookup,
    .delete row.table lookup ∈ t.operations ∧ lookup.addresses row = true ∧
      Lasts (.delete row.table lookup)

/-- It is enough to know what the operations are that the deletion ends with. -/
theorem Reverts.of_mem_iff {p : Plan (Transaction Unit)} {gives : Operation → Prop}
    (hdeletion : r.isDeletion = true) (hplan : r.plan = toDone p)
    (hmem : ∀ {drawn t}, p.Ends us drawn t → ∀ op, op ∈ t.operations ↔ gives op)
    (hclears : ∀ op, gives op → Clears (rows.map Row.place) us op)
    (hdeletes : ∀ row ∈ rows, ∃ lookup, gives (.delete row.table lookup) ∧
      lookup.addresses row = true ∧ Lasts (.delete row.table lookup)) : Reverts r rows us := by
  have hoperations : ∀ {drawn t}, r.plan.Ends us drawn t → ∀ op, op ∈ t.operations ↔ gives op := by
    intro drawn t h
    rw [hplan] at h
    obtain ⟨t', ht', heq⟩ := of_translated h
    rw [heq]
    exact hmem ht'
  constructor
  · exact hdeletion
  · intro drawn t h op hop
    exact hclears op ((hoperations h op).mp hop)
  · intro drawn t h row hrow
    obtain ⟨lookup, hgives, hrest⟩ := hdeletes row hrow
    exact ⟨lookup, (hoperations h _).mpr hgives, hrest⟩

section Clearing

variable {gone : List (Table × String)} {table t : Table} {c : RefColumn} {u : String}

theorem clears_reference (htarget : c.target? table = some t) (hu : (t, u) ∈ gone)
    (lookup : Lookup) : Clears gone us (.removeRefs table lookup c [u]) := by
  apply Clears.removeRefs
  intro t' ht' v hv
  rw [htarget] at ht'
  cases ht'
  rw [List.mem_singleton.mp hv]
  exact hu

theorem clears_unlisted_or_deleted (hus : us.WellFormed) (htarget : c.target? table = some t)
    (hu : (t, u) ∈ gone) {lookup : Lookup} {op : Operation}
    (h : op = .removeRefs table lookup c [u] ∨ op = .delete t (.uuid u)) : Clears gone us op := by
  cases h with
  | inl hoff =>
      rw [hoff]
      exact clears_reference htarget hu lookup
  | inr hdelete =>
      rw [hdelete]
      exact .delete_uuid hus hu

theorem Unlists.clears {op : Operation} (h : Unlists us table c u op)
    (htarget : c.target? table = some t) (hu : (t, u) ∈ gone) : Clears gone us op := by
  obtain ⟨k, row, _, _, rfl⟩ := h
  exact clears_reference htarget hu _

theorem addresses_uuid (row : Row) : (Lookup.uuid row.uuid).addresses row = true := by
  simp [Lookup.addresses]

end Clearing

/-- The deletion of a single row, which it names by its identifier. -/
theorem Reverts.of_mem_iff_single {p : Plan (Transaction Unit)} {gives : Operation → Prop}
    (hdeletion : r.isDeletion = true) (hplan : r.plan = toDone p)
    (hmem : ∀ {drawn t}, p.Ends us drawn t → ∀ op, op ∈ t.operations ↔ gives op)
    (hclears : ∀ op, gives op → Clears [row.place] us op)
    (hdelete : gives (.delete row.table (.uuid row.uuid))) : Reverts r [row] us := by
  have hrows : [row].map Row.place = [row.place] := rfl
  rw [← hrows] at hclears
  apply Reverts.of_mem_iff hdeletion hplan hmem hclears
  intro row' hrow'
  rw [List.mem_singleton.mp hrow']
  exact ⟨.uuid row.uuid, hdelete, addresses_uuid row, trivial⟩

theorem isDeletion_deleteRoute {destination : String} {target : NetAddress}
    (h : NetAddress.read destination = .ok target) (router : String) :
    (Request.deleteRoute router destination).isDeletion = true := by
  show (NetAddress.ofText? destination).isSome = true
  rw [read_eq_ok_iff.mp h]
  rfl

theorem reverts_deletePort {port : String} {p : SwitchPort}
    (h : Created [.switchPort p] ts us) (hus : us.WellFormed)
    (hname : p.name = Name.switchPort port) : Reverts (.deletePort port) [.switchPort p] us := by
  have hstored := fun u => h.stored_iff (u := u) hus List.mem_cons_self rfl (congrArg some hname)
  apply Reverts.of_mem_iff_single rfl rfl (mem_deletePort_iff hus)
  · intro op hop
    obtain ⟨u, hu, hop⟩ := hop
    have hplace : (Table.switchPort, u) ∈ [(Row.switchPort p).place] := by
      rw [(hstored u).mp hu]
      exact List.mem_cons_self
    rcases hop with hoff | hout | rfl
    · exact hoff.clears rfl hplace
    · exact hout.clears rfl hplace
    · exact .delete_uuid hus hplace
  · exact ⟨p.uuid, (hstored _).mpr rfl, .inr (.inr rfl)⟩

theorem reverts_deleteSwitch {network : String} {c : SwitchCreation} (h : Created c.rows ts us)
    (hus : us.WellFormed) (hname : c.switch.name = Name.switch network)
    (hbare : ∀ col, (Row.switch c.switch).refs col = [])
    (hdhcp : ∀ d ∈ c.dhcpOptions, d.externalIds.get? ExternalId.switch = some (Name.switch network))
    (halone : ∀ u, ¬ Bears ts .dhcpOptions ExternalId.switch (Name.switch network) u) :
    Reverts (.deleteSwitch network) c.rows us := by
  have hmem : Row.switch c.switch ∈ c.rows := List.mem_cons_self
  have hplace := List.mem_map_of_mem (f := Row.place) hmem
  apply Reverts.of_mem_iff rfl rfl (mem_deleteSwitch_iff hus)
  · intro op hop
    rcases hop with ⟨u, hbears, rfl⟩ | ⟨u, hlisted, _⟩ | ⟨u, hstored, rfl⟩
    · cases h.bears hbears with
      | inl hnew => exact .delete_uuid hus hnew
      | inr hold => exact absurd hold (halone u)
    · have hnone := (h.listedIn_iff hus hmem rfl (congrArg some hname) .ports).mp hlisted
      rw [hbare] at hnone
      cases hnone
    · rw [(h.stored_iff hus hmem rfl (congrArg some hname)).mp hstored]
      exact .delete_uuid hus hplace
  · intro row hrow
    cases List.mem_cons.mp hrow with
    | inl hswitch =>
        rw [hswitch]
        have hstored := (h.stored_iff hus hmem rfl (congrArg some hname)).mpr rfl
        exact ⟨.uuid c.switch.uuid, .inr (.inr ⟨_, hstored, rfl⟩), addresses_uuid _, trivial⟩
    | inr hoptions =>
        obtain ⟨d, hd, rfl⟩ := List.mem_map.mp hoptions
        have hbears : Bears us .dhcpOptions ExternalId.switch (Name.switch network) d.uuid :=
          ⟨_, h.stored _ hrow, hdhcp d (Option.mem_toList.mp hd)⟩
        exact ⟨.uuid d.uuid, .inl ⟨_, hbears, rfl⟩, addresses_uuid _, trivial⟩

theorem reverts_deleteRouter {router : String} {row : Router} (h : Created [.router row] ts us)
    (hus : us.WellFormed) (hname : row.name = Name.router router)
    (hbare : ∀ c, (Row.router row).refs c = []) (hrouted : Routed ts) :
    Reverts (.deleteRouter router) [.router row] us := by
  have hmem : Row.router row ∈ [Row.router row] := List.mem_cons_self
  have hplace := List.mem_map_of_mem (f := Row.place) hmem
  have hfree := h.not_hasNamed hus hmem rfl (congrArg some hname)
  apply Reverts.of_mem_iff_single rfl rfl (mem_deleteRouter_iff hus)
  · intro op hop
    rcases hop with ⟨u, _, hbears, _⟩ | ⟨t, c, u, _, hlisted, _⟩ | ⟨u, hstored, rfl⟩
    · -- a port that names the router would have kept its name taken
      cases h.bears hbears with
      | inl hnew => simp [Row.place, Row.table] at hnew
      | inr hold => exact absurd (hrouted _ _ hold) hfree
    · have hnone := (h.listedIn_iff hus hmem rfl (congrArg some hname) c).mp hlisted
      rw [hbare] at hnone
      cases hnone
    · rw [(h.stored_iff hus hmem rfl (congrArg some hname)).mp hstored]
      exact .delete_uuid hus hplace
  · exact .inr (.inr ⟨_, (h.stored_iff hus hmem rfl (congrArg some hname)).mpr rfl, rfl⟩)

theorem reverts_removeInterface {router network : String} {port : RouterPort} {peer : SwitchPort}
    (h : Created [.routerPort port, .switchPort peer] ts us) (hus : us.WellFormed)
    (hport : port.name = Name.routerPort (Name.router router) (Name.switch network))
    (hpeer : peer.name = Name.routerPeer (Name.router router) (Name.switch network)) :
    Reverts (.removeInterface router network) [.routerPort port, .switchPort peer] us := by
  have hmem : Row.routerPort port ∈ [Row.routerPort port, .switchPort peer] := by simp
  have hmem' : Row.switchPort peer ∈ [Row.routerPort port, .switchPort peer] := by simp
  have hstored := fun u => h.stored_iff (u := u) hus hmem rfl (congrArg some hport)
  have hstored' := fun u => h.stored_iff (u := u) hus hmem' rfl (congrArg some hpeer)
  have hplace := List.mem_map_of_mem (f := Row.place) hmem
  have hplace' := List.mem_map_of_mem (f := Row.place) hmem'
  apply Reverts.of_mem_iff rfl rfl mem_removeInterface_iff
  · intro op hop
    rcases hop with ⟨u, hu, hop⟩ | ⟨u, hu, hop⟩
    · cases (hstored u).mp hu
      exact clears_unlisted_or_deleted hus rfl hplace hop
    · cases (hstored' u).mp hu
      exact clears_unlisted_or_deleted hus rfl hplace' hop
  · intro row hrow
    simp only [List.mem_cons, List.not_mem_nil, or_false] at hrow
    cases hrow with
    | inl hrow =>
        rw [hrow]
        have hgives := (hstored _).mpr rfl
        exact ⟨.uuid port.uuid, .inl ⟨_, hgives, .inr rfl⟩, addresses_uuid _, trivial⟩
    | inr hrow =>
        rw [hrow]
        have hgives := (hstored' _).mpr rfl
        exact ⟨.uuid peer.uuid, .inr ⟨_, hgives, .inr rfl⟩, addresses_uuid _, trivial⟩

theorem reverts_deleteRoute {router destination key : String} {route : StaticRoute}
    (h : Created [.staticRoute route] ts us) (hts : ts.WellFormed) (hus : us.WellFormed)
    (htarget : NetAddress.read destination = .ok route.destination)
    (hlisted : RouteOf us router route.destination key route.uuid)
    (halone : ∀ key u, ¬ RouteOf ts router route.destination key u) :
    Reverts (.deleteRoute router destination) [.staticRoute route] us := by
  apply Reverts.of_mem_iff_single (isDeletion_deleteRoute htarget router) rfl
    (mem_deleteRoute_iff htarget)
  · intro op hop
    obtain ⟨key', u, hroute, hop⟩ := hop
    have hplace : (Table.staticRoute, u) ∈ [(Row.staticRoute route).place] := by
      cases h.routeOf hts hus (by simp [Row.table]) hroute with
      | inl hnew => exact hnew
      | inr hold => exact absurd hold (halone key' u)
    exact clears_unlisted_or_deleted hus rfl hplace hop
  · exact ⟨key, _, hlisted, .inr rfl⟩

theorem GoesOff.clears {rule : NatRule} {op : Operation} {gone : List (Table × String)}
    (h : GoesOff us rule op) (hrule : (Table.nat, rule.uuid) ∈ gone) : Clears gone us op := by
  obtain ⟨k, row, _, _, _, rfl⟩ := h
  exact clears_reference rfl hrule _

theorem reverts_deleteFloatingIp {floating : String} {rule : NatRule}
    (h : Created [.nat rule] ts us) (hus : us.WellFormed)
    (hids : rule.externalIds.get? ExternalId.floatingIp = some floating)
    (halone : ∀ u, ¬ Bears ts .nat ExternalId.floatingIp floating u) :
    Reverts (.deleteFloatingIp floating) [.nat rule] us := by
  apply Reverts.of_mem_iff_single rfl rfl (mem_deleteFloatingIp_iff hus)
  · intro op hop
    obtain ⟨rule', hrow, hids', hop⟩ := hop
    have hplace : (Table.nat, rule'.uuid) ∈ [(Row.nat rule).place] := by
      cases h.bears ⟨_, hrow, hids'⟩ with
      | inl hnew => exact hnew
      | inr hold => exact absurd hold (halone _)
    cases hop with
    | inl hoff =>
        exact hoff.clears hplace
    | inr hdelete =>
        rw [hdelete]
        exact .delete_uuid hus hplace
  · exact ⟨rule, h.stored _ List.mem_cons_self, hids, .inr rfl⟩

theorem reverts_deleteNat {rule : NatRule} (h : Created [.nat rule] ts us) (hus : us.WellFormed) :
    Reverts (.deleteNat rule.uuid) [.nat rule] us := by
  have hplace : (Table.nat, rule.uuid) ∈ [(Row.nat rule).place] := List.mem_cons_self
  apply Reverts.of_mem_iff_single rfl rfl (mem_deleteNat_iff hus)
  · intro op hop
    obtain ⟨rule', _, huuid, hop⟩ := hop
    cases hop with
    | inl hoff =>
        rw [← huuid] at hplace
        exact hoff.clears hplace
    | inr hdelete =>
        rw [hdelete]
        exact .delete_uuid hus hplace
  · exact ⟨rule, h.stored _ List.mem_cons_self, rfl, .inr rfl⟩

theorem reverts_deleteBalancer {balancer : String} {row : LoadBalancer}
    (h : Created [.loadBalancer row] ts us) (hus : us.WellFormed)
    (hname : row.name = Name.loadBalancer balancer) :
    Reverts (.deleteBalancer balancer) [.loadBalancer row] us := by
  have hstored := fun u => h.stored_iff (u := u) hus List.mem_cons_self rfl (congrArg some hname)
  apply Reverts.of_mem_iff_single rfl rfl (mem_deleteBalancer_iff hus)
  · intro op hop
    obtain ⟨u, hu, hop⟩ := hop
    have hplace : (Table.loadBalancer, u) ∈ [(Row.loadBalancer row).place] := by
      rw [(hstored u).mp hu]
      exact List.mem_cons_self
    rcases hop with hoff | hoff | rfl
    · exact hoff.clears rfl hplace
    · exact hoff.clears rfl hplace
    · exact .delete_uuid hus hplace
  · exact ⟨_, (hstored _).mpr rfl, .inr (.inr rfl)⟩

theorem reverts_deleteGroup {group : String} {c : CompiledGroup} (h : Created (storedRows c) ts us)
    (hus : us.WellFormed) (hc : Compiles group c) :
    Reverts (.deleteGroup group) (storedRows c) us := by
  have hgroup : Row.portGroup c.portGroup ∈ storedRows c := mem_storedRows.mpr (.inr (.inr rfl))
  have hset : Row.addressSet c.addressSet ∈ storedRows c := mem_storedRows.mpr (.inl rfl)
  have hstored := fun u => h.stored_iff (u := u) hus hgroup rfl (congrArg some hc.portGroup)
  have hlists := fun u => h.listedIn_iff (u := u) hus hgroup rfl (congrArg some hc.portGroup) .acls
  have hacls : (Row.portGroup c.portGroup).refs .acls = c.acls.map Acl.uuid := hc.lists
  apply Reverts.of_mem_iff rfl rfl mem_deleteGroup_iff
  · intro op hop
    rcases hop with ⟨u, hlisted, rfl⟩ | ⟨u, hu, rfl⟩ | rfl
    · have hmem := (hlists u).mp hlisted
      rw [hacls] at hmem
      obtain ⟨a, ha, rfl⟩ := List.mem_map.mp hmem
      apply Clears.delete_uuid hus
      exact List.mem_map_of_mem (f := Row.place) (mem_storedRows.mpr (.inr (.inl ⟨a, ha, rfl⟩)))
    · rw [(hstored u).mp hu]
      exact .delete_uuid hus (List.mem_map_of_mem hgroup)
    · -- only the new set has the name
      apply Clears.delete
      intro k r hr haddresses
      have hname : r.name? = some (Name.addressSet group) := by
        simpa [Lookup.addresses] using haddresses
      rw [hus.key_eq_of_name rfl hr (h.stored _ hset) hname (congrArg some hc.addressSet)]
      exact List.mem_map_of_mem hset
  · intro row hrow
    rcases mem_storedRows.mp hrow with rfl | ⟨a, ha, rfl⟩ | rfl
    · refine ⟨.name (Name.addressSet group), .inr (.inr rfl), ?_, rfl⟩
      simp [Lookup.addresses, Row.name?, hc.addressSet]
    · have hlisted := (hlists a.uuid).mpr (by rw [hacls]; exact List.mem_map_of_mem ha)
      exact ⟨.uuid a.uuid, .inl ⟨_, hlisted, rfl⟩, addresses_uuid _, trivial⟩
    · exact ⟨.uuid _, .inr (.inl ⟨_, (hstored _).mpr rfl, rfl⟩), addresses_uuid _, trivial⟩

/-! ## There and back -/

/-- How what a request has made is read, and the request that takes it away. -/
structure Trip where
  reads : List (Plan (Transaction Answer) × Row)
  back : Request

/-- The trip of a request that makes something, by its answer. -/
def Request.trip? : Request → Answer → Option Trip
  | createSwitch network, .creation c => some {
      reads := ((getSwitch network.id).plan, .switch c.switch) ::
        c.dhcpOptions.toList.map fun d => ((getDhcpOptions d.uuid).plan, .dhcpOptions d)
      back := deleteSwitch network.id }
  | createPort port, .row row =>
      some ⟨[((getPort port.id).plan, row)], deletePort port.id⟩
  | createRouter router _ _, .row row =>
      some ⟨[((getRouter router).plan, row)], deleteRouter router⟩
  | addInterface router network _, .row row =>
      some ⟨[(lookUp RouterPort (.name (portName router network)), row)],
        removeInterface router network⟩
  | addRoute router destination _, .row row =>
      some ⟨[(lookUp StaticRoute (.uuid row.uuid), row)], deleteRoute router destination⟩
  | createFloatingIp _ floating _, .row row =>
      some ⟨[((getNat row.uuid).plan, row)], deleteFloatingIp floating⟩
  | createSnat _ _ _, .row row =>
      some ⟨[((getNat row.uuid).plan, row)], deleteNat row.uuid⟩
  | createBalancer balancer, .row row =>
      some ⟨[((getBalancer balancer.id).plan, row)], deleteBalancer balancer.id⟩
  | createGroup group, .compiled c => some {
      reads := ((getPortGroup group.id).plan, .portGroup c.portGroup) ::
        ((getAddressSet group.id).plan, .addressSet c.addressSet) ::
        c.acls.map fun a => ((getAcl a.uuid).plan, .acl a)
      back := deleteGroup group.id }
  | _, _ => none

/-- The request makes something, and nothing is there that its deletion would take along. -/
inductive Request.Fresh (ts : Tables) : Request → Prop where
  | switch {network : Tenant.Network}
      (h : ts.find .dhcpOptions ExternalId.switch (Name.switch network.id) = []) :
      Fresh ts (.createSwitch network)
  | port (port : Tenant.Port) : Fresh ts (.createPort port)
  | router (router project : String) (distributed : Bool) :
      Fresh ts (.createRouter router project distributed)
  | interface (router network gateway : String) : Fresh ts (.addInterface router network gateway)
  | route {router destination nextHop : String}
      (h : ∀ target, NetAddress.read destination = .ok target →
        ∀ key u, ¬ RouteOf ts router target key u) :
      Fresh ts (.addRoute router destination nextHop)
  | floatingIp {router floating internal : String}
      (h : ts.find .nat ExternalId.floatingIp floating = []) :
      Fresh ts (.createFloatingIp router floating internal)
  | snat (router external subnet : String) : Fresh ts (.createSnat router external subnet)
  | balancer (balancer : Tenant.Balancer) : Fresh ts (.createBalancer balancer)
  | group {group : SecurityGroup}
      (h : ts.get? .portGroup (.name (Name.portGroup group.id)) = none) :
      Fresh ts (.createGroup group)

/-- The rows are new, the reads of the trip answer as it says, and its way back takes just the rows
away. -/
structure Trip.Closes (trip : Trip) (rows : List Row) (ts us : Tables) : Prop where
  created : Created rows ts us
  answers : ∀ p ∈ trip.reads, Answers us p.1 p.2
  reverts : Reverts trip.back rows us

/-- The trip of the request after its answer leads back. -/
def Request.Returns (r : Request) (a : Answer) (ts us : Tables) : Prop :=
  ∃ trip rows, r.trip? a = some trip ∧ trip.Closes rows ts us

theorem not_bears_of_find {table : Table} {key value : String} (h : ts.find table key value = [])
    (u : String) : ¬ Bears ts table key value u := by
  intro hbears
  obtain ⟨row, hrow, hvalue⟩ := hbears
  have hmem : row ∈ ts.find table key value :=
    List.mem_filter.mpr ⟨TextMap.mem_values_iff.mpr ⟨u, hrow⟩, by simpa using hvalue⟩
  rw [h] at hmem
  cases hmem

section Returning

variable {drawn : List String}

theorem returns_createSwitch {network : Tenant.Network} {c : SwitchCreation}
    (hts : ts.WellFormed) (hname : c.switch.name = Name.switch network.id)
    (hbare : ∀ col, (Row.switch c.switch).refs col = [])
    (hdhcp : ∀ d ∈ c.dhcpOptions,
      d.externalIds.get? ExternalId.switch = some (Name.switch network.id))
    (halone : ts.find .dhcpOptions ExternalId.switch (Name.switch network.id) = [])
    (hops : ts.applyAll (c.rows.map .insert) = .ok us) :
    (Request.createSwitch network).Returns (.creation c) ts us := by
  have hus := hts.applyAll hops
  have hcreated := created_of_inserts hts hops
  refine ⟨_, c.rows, rfl, hcreated, ?_,
    reverts_deleteSwitch hcreated hus hname hbare hdhcp (not_bears_of_find halone)⟩
  intro p hp
  cases List.mem_cons.mp hp with
  | inl hswitch =>
      rw [hswitch]
      exact answers_name (ρ := Switch) hcreated hus List.mem_cons_self rfl rfl (congrArg some hname)
  | inr hoptions =>
      obtain ⟨d, hd, rfl⟩ := List.mem_map.mp hoptions
      have hmem : Row.dhcpOptions d ∈ c.rows := List.mem_cons_of_mem _ (List.mem_map_of_mem hd)
      exact answers_uuid (ρ := DhcpOptions) hcreated hus hmem rfl

theorem returns_createGroup {group : SecurityGroup} {c : CompiledGroup} (hts : ts.WellFormed)
    (hc : Compiles group.id c) (hops : ts.applyAll ((storedRows c).map .insert) = .ok us) :
    (Request.createGroup group).Returns (.compiled c) ts us := by
  have hus := hts.applyAll hops
  have hcreated := created_of_inserts hts hops
  refine ⟨_, storedRows c, rfl, hcreated, ?_, reverts_deleteGroup hcreated hus hc⟩
  intro p hp
  rcases List.mem_cons.mp hp with rfl | hp
  · exact answers_name (ρ := PortGroup) hcreated hus (mem_storedRows.mpr (.inr (.inr rfl))) rfl rfl
      (congrArg some hc.portGroup)
  · cases List.mem_cons.mp hp with
    | inl hset =>
        rw [hset]
        exact answers_name (ρ := AddressSet) hcreated hus (mem_storedRows.mpr (.inl rfl)) rfl rfl
          (congrArg some hc.addressSet)
    | inr hacls =>
        obtain ⟨a, ha, rfl⟩ := List.mem_map.mp hacls
        have hmem : Row.acl a ∈ storedRows c := mem_storedRows.mpr (.inr (.inl ⟨a, ha, rfl⟩))
        exact answers_uuid (ρ := Acl) hcreated hus hmem rfl

/-- A trip with one read. -/
theorem Request.Returns.of_row {a : Answer} {p : Plan (Transaction Answer)} {back : Request}
    (htrip : r.trip? a = some ⟨[(p, row)], back⟩) (hcreated : Created rows ts us)
    (hanswers : Answers us p row) (hreverts : Reverts back rows us) : r.Returns a ts us := by
  refine ⟨_, rows, htrip, hcreated, ?_, hreverts⟩
  intro read hread
  rw [List.mem_singleton.mp hread]
  exact hanswers

theorem returns_createPort {port : Tenant.Port} (hts : ts.WellFormed)
    {t : Transaction SwitchPort} (h : (createPort port).Ends ts drawn t)
    (hops : ts.applyAll t.operations = .ok us) :
    (Request.createPort port).Returns (.row (.switchPort t.result)) ts us := by
  have hus := hts.applyAll hops
  obtain ⟨hname, key, hoperations⟩ := operations_createPort h
  rw [hoperations] at hops
  have hcreated := created_of_attachment hts rfl hops
  exact .of_row rfl hcreated
    (answers_name (ρ := SwitchPort) hcreated hus List.mem_cons_self rfl rfl (congrArg some hname))
    (reverts_deletePort hcreated hus hname)

theorem returns_createRouter {router project : String} {distributed : Bool} (hts : ts.WellFormed)
    (hrouted : Routed ts) {t : Transaction Router}
    (h : (createRouter router project distributed).Ends ts drawn t)
    (hops : ts.applyAll t.operations = .ok us) :
    (Request.createRouter router project distributed).Returns (.row (.router t.result)) ts us := by
  have hus := hts.applyAll hops
  obtain ⟨hoperations, hname, hbare⟩ := operations_createRouter h
  rw [hoperations] at hops
  have hcreated : Created [.router t.result] ts us := created_of_inserts hts hops
  exact .of_row rfl hcreated
    (answers_name (ρ := Router) hcreated hus List.mem_cons_self rfl rfl (congrArg some hname))
    (reverts_deleteRouter hcreated hus hname hbare hrouted)

theorem returns_addInterface {router network gateway : String} (hts : ts.WellFormed)
    {t : Transaction RouterPort} (h : (addInterface router network gateway).Ends ts drawn t)
    (hops : ts.applyAll t.operations = .ok us) :
    (Request.addInterface router network gateway).Returns (.row (.routerPort t.result)) ts us := by
  have hus := hts.applyAll hops
  obtain ⟨hname, peer, hpeer, key, key', hoperations⟩ := operations_addInterface h
  rw [hoperations] at hops
  have hcreated : Created [.routerPort t.result, .switchPort peer] ts us := by
    apply created_of_makes hts _ _ hops
    · intro op hop
      cases List.mem_append.mp hop with
      | inl hport => exact makes_of_attachment (by simp) rfl (by simp [Row.table]) op hport
      | inr hpeer => exact makes_of_attachment (by simp) rfl (by simp [Row.table]) op hpeer
    · simp [attachment]
  exact .of_row rfl hcreated
    (answers_name (ρ := RouterPort) hcreated hus List.mem_cons_self rfl rfl (congrArg some hname))
    (reverts_removeInterface hcreated hus hname hpeer)

theorem returns_addRoute {router destination nextHop : String} (hts : ts.WellFormed)
    (halone : ∀ target, NetAddress.read destination = .ok target →
      ∀ key u, ¬ RouteOf ts router target key u) {t : Transaction StaticRoute}
    (h : (addRoute router destination nextHop).Ends ts drawn t)
    (hops : ts.applyAll t.operations = .ok us) :
    (Request.addRoute router destination nextHop).Returns (.row (.staticRoute t.result)) ts us := by
  have hus := hts.applyAll hops
  obtain ⟨htarget, hcreated, key, hroute⟩ := routeOf_addRoute hts h hops
  exact .of_row rfl hcreated
    (answers_uuid (ρ := StaticRoute) hcreated hus List.mem_cons_self rfl)
    (reverts_deleteRoute hcreated hts hus htarget hroute (halone _ htarget))

theorem returns_createFloatingIp {router floating internal : String} (hts : ts.WellFormed)
    (halone : ts.find .nat ExternalId.floatingIp floating = []) {t : Transaction NatRule}
    (h : (createFloatingIp router floating internal).Ends ts drawn t)
    (hops : ts.applyAll t.operations = .ok us) :
    (Request.createFloatingIp router floating internal).Returns (.row (.nat t.result)) ts us := by
  have hus := hts.applyAll hops
  obtain ⟨hfloats, key, hoperations⟩ := operations_createFloatingIp h
  rw [hoperations] at hops
  have hcreated := created_of_attachment hts rfl hops
  exact .of_row rfl hcreated (answers_uuid (ρ := NatRule) hcreated hus List.mem_cons_self rfl)
    (reverts_deleteFloatingIp hcreated hus hfloats.recorded (not_bears_of_find halone))

theorem returns_createSnat {router external subnet : String} (hts : ts.WellFormed)
    {t : Transaction NatRule} (h : (createSnat router external subnet).Ends ts drawn t)
    (hops : ts.applyAll t.operations = .ok us) :
    (Request.createSnat router external subnet).Returns (.row (.nat t.result)) ts us := by
  have hus := hts.applyAll hops
  obtain ⟨_, key, hoperations⟩ := operations_createSnat h
  rw [hoperations] at hops
  have hcreated := created_of_attachment hts rfl hops
  exact .of_row rfl hcreated (answers_uuid (ρ := NatRule) hcreated hus List.mem_cons_self rfl)
    (reverts_deleteNat hcreated hus)

theorem returns_createBalancer {balancer : Tenant.Balancer} (hts : ts.WellFormed)
    {t : Transaction LoadBalancer} (h : (createBalancer balancer).Ends ts drawn t)
    (hops : ts.applyAll t.operations = .ok us) :
    (Request.createBalancer balancer).Returns (.row (.loadBalancer t.result)) ts us := by
  have hus := hts.applyAll hops
  obtain ⟨hoperations, hname⟩ := operations_createBalancer h
  rw [hoperations] at hops
  have hcreated : Created [.loadBalancer t.result] ts us := created_of_inserts hts hops
  exact .of_row rfl hcreated
    (answers_name (ρ := LoadBalancer) hcreated hus List.mem_cons_self rfl rfl (congrArg some hname))
    (reverts_deleteBalancer hcreated hus hname)

end Returning

/-! ## Every history -/

section Histories

variable {ι : Type} [IdSource ι] {m : Memory} {a : Answer}

theorem Request.exists_returns (hm : m.tables.WellFormed) (hgrouped : Grouped m.tables)
    (hrouted : Routed m.tables) (hfresh : r.Fresh m.tables) (ids : ι)
    (h : (r.perform m ids).1 = .ok a) :
    ∃ us, r.Returns a m.tables us ∧ (r.perform m ids).2.1 = { m with tables := us } := by
  cases hfresh with
  | @switch network halone =>
      change (createNetwork network m ids).1.map Answer.creation = .ok a at h
      cases hcreation : (createNetwork network m ids).1 with
      | error e =>
          rw [hcreation] at h
          cases h
      | ok c =>
          rw [hcreation] at h
          cases h
          obtain ⟨hname, hbare, hdhcp, us, hops, hwritten⟩ := written_of_createNetwork hcreation
          exact ⟨us, returns_createSwitch hm hname hbare hdhcp halone hops, hwritten⟩
  | port port =>
      obtain ⟨drawn, t, us, hends, hops, rfl, hwritten⟩ := written_of_request h
      exact ⟨us, returns_createPort hm hends hops, hwritten⟩
  | router router project distributed =>
      obtain ⟨drawn, t, us, hends, hops, rfl, hwritten⟩ := written_of_request h
      exact ⟨us, returns_createRouter hm hrouted hends hops, hwritten⟩
  | interface router network gateway =>
      obtain ⟨drawn, t, us, hends, hops, rfl, hwritten⟩ := written_of_request h
      exact ⟨us, returns_addInterface hm hends hops, hwritten⟩
  | route halone =>
      obtain ⟨drawn, t, us, hends, hops, rfl, hwritten⟩ := written_of_request h
      exact ⟨us, returns_addRoute hm halone hends hops, hwritten⟩
  | floatingIp halone =>
      obtain ⟨drawn, t, us, hends, hops, rfl, hwritten⟩ := written_of_request h
      exact ⟨us, returns_createFloatingIp hm halone hends hops, hwritten⟩
  | snat router external subnet =>
      obtain ⟨drawn, t, us, hends, hops, rfl, hwritten⟩ := written_of_request h
      exact ⟨us, returns_createSnat hm hends hops, hwritten⟩
  | balancer balancer =>
      obtain ⟨drawn, t, us, hends, hops, rfl, hwritten⟩ := written_of_request h
      exact ⟨us, returns_createBalancer hm hends hops, hwritten⟩
  | group habsent =>
      obtain ⟨drawn, t, us, hends, hops, rfl, hwritten⟩ := written_of_request h
      obtain ⟨hoperations, hc⟩ := operations_createGroup_of_absent hm hgrouped habsent hends
      rw [hoperations] at hops
      exact ⟨us, returns_createGroup hm hc hops, hwritten⟩

theorem Request.sound_perform (hm : Sound (listing calls) nothing m.tables)
    (hcall : .request r ∈ calls) (ids : ι) :
    Sound (listing calls) nothing (r.perform m ids).2.1.tables :=
  Request.perform_induction r m ids hm fun hts hwrites => hwrites.sound hts hcall

/-- A deletion leads to tables where every row is owned. -/
theorem Sweeps.perform_sound {p : Plan (Transaction Unit)} (h : Sweeps p)
    (hdeletion : r.isDeletion = true) (hplan : r.plan = toDone p)
    (hm : Sound (listing calls) nothing m.tables) (hcall : .request r ∈ calls) (ids : ι) :
    ∃ drawn t us, p.Ends m.tables drawn t ∧ Reduces t.operations m.tables us ∧
      Sound (listing calls) nothing us ∧ (r.perform m ids).1 = .ok .done ∧
      (r.perform m ids).2.1 = { m with tables := us } := by
  have hus := Request.sound_perform hm hcall ids
  obtain ⟨drawn, t, us, hends, hreduces, hdone, hwritten⟩ := h.perform hm.wellFormed ids
  rw [← hplan, ← Journal.perform_eq_plan (Request.exists_sweeps hdeletion).1] at hdone hwritten
  rw [hwritten] at hus
  exact ⟨drawn, t, us, hends, hreduces, hus, hdone, hwritten⟩

/-- A deletion that takes away just the new rows leads back to where they were made. -/
theorem Reverts.perform (h : Reverts r rows us) (hcreated : Created rows m.tables us)
    (hm : Sound (listing calls) nothing m.tables) (hus : Sound (listing calls) nothing us)
    (hcall : .request r ∈ calls) (ids : ι) :
    (r.perform { m with tables := us } ids).1 = .ok .done ∧
      (r.perform { m with tables := us } ids).2.1 = m := by
  obtain ⟨_, p, hplan, hsweeps⟩ := Request.exists_sweeps h.deletion
  obtain ⟨drawn, t, vs, hends, hreduces, hvs, hdone, hwritten⟩ :=
    hsweeps.perform_sound (m := { m with tables := us }) h.deletion hplan hus hcall ids
  have hends' : r.plan.Ends us (drawn ++ []) ⟨t.operations, .done⟩ := by
    rw [hplan]
    exact hends.bind (.done _)
  have hgone : ∀ row ∈ rows, (vs row.table).get? row.uuid = none := by
    intro row hrow
    obtain ⟨lookup, hdelete, haddresses, hlasts⟩ := h.deletes hends' row hrow
    exact hreduces.get?_eq_none_of_addresses (hcreated.stored row hrow) haddresses hlasts hdelete
  have hback : vs = m.tables := hcreated.undone hm hus.wellFormed hvs (h.clears hends')
    hreduces.applied hgone
  refine ⟨hdone, ?_⟩
  rw [hwritten, hback]

/-- After any calls, what a request has made is read back just as the request has answered, and the
matching deletion then succeeds and leaves the store as it was before the request. -/
theorem round_trip_history (calls : List Call) (start ids ids' : ι)
    (hfresh : r.Fresh (history calls start).1.tables)
    (h : (r.perform (history calls start).1 ids).1 = .ok a) :
    let before := (history calls start).1
    let after := (r.perform before ids).2.1
    ∃ trip, r.trip? a = some trip ∧
      (∀ p ∈ trip.reads, p.1.perform after ids' = (.ok (.row p.2), after, ids')) ∧
      (trip.back.perform after ids').1 = .ok .done ∧
      (trip.back.perform after ids').2.1 = before := by
  intro before after
  have hwell := (sound_history (fun _ hcall => hcall) start :
    Sound (listing calls) nothing before.tables).wellFormed
  obtain ⟨us, ⟨trip, rows, htrip, hcloses⟩, hwritten⟩ := Request.exists_returns hwell
    (grouped_history calls start) (routed_history calls start) hfresh ids h
  -- the request and the way back are calls of a longer history
  have hsound : Sound (listing (calls ++ [.request r, .request trip.back])) nothing before.tables :=
    sound_history (fun _ hcall => List.mem_append_left _ hcall) start
  have hsoundAfter := Request.sound_perform (r := r) hsound (by simp) ids
  have hafter : after = { before with tables := us } := hwritten
  rw [hwritten] at hsoundAfter
  rw [hafter]
  refine ⟨trip, htrip, fun p hp => hcloses.answers p hp ι _ ids' rfl, ?_⟩
  exact hcloses.reverts.perform hcloses.created hsound hsoundAfter (by simp) ids'

/-- A router that translates for one machine and for what a subnet sends out. -/
def twoNatRules : List Call := [
  .request (.createRouter "r" "" false),
  .request (.createFloatingIp "r" "203.0.113.5" "10.0.0.5"),
  .request (.createSnat "r" "203.0.113.1" "10.0.0.0/24")]

theorem round_trip_history_twoNatRules :
    let before := (history twoNatRules (Counter.mk 1)).1
    let r := Request.createFloatingIp "r" "203.0.113.6" "10.0.0.6"
    let after := (r.perform before (Counter.mk 9)).2.1
    (before.tables.list .nat).length = 2 ∧ (after.tables.list .nat).length = 3 ∧
      r.Fresh before.tables ∧
      ∃ a, (r.perform before (Counter.mk 9)).1 = .ok a ∧ ∃ trip, r.trip? a = some trip ∧
        (∀ p ∈ trip.reads,
          p.1.perform after (Counter.mk 9) = (.ok (.row p.2), after, Counter.mk 9)) ∧
        (trip.back.perform after (Counter.mk 9)).1 = .ok .done ∧
        (trip.back.perform after (Counter.mk 9)).2.1 = before := by
  intro before r after
  have hfresh : r.Fresh before.tables := .floatingIp (by decide +kernel)
  refine ⟨by decide +kernel, by decide +kernel, hfresh, ?_⟩
  have hok : (r.perform before (Counter.mk 9)).1.isOk = true := by
    decide +kernel
  cases h : (r.perform before (Counter.mk 9)).1 with
  | error e =>
      rw [h] at hok
      cases hok
  | ok a =>
      exact ⟨a, rfl, round_trip_history twoNatRules (Counter.mk 1) (Counter.mk 9) (Counter.mk 9)
        hfresh h⟩

end Histories
end Client
end LogicalNet
