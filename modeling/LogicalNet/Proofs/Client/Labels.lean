import LogicalNet.Proofs.Client.Transitions

/-!
# Back references

The external ids of a row lead back to what it was made for.  All their keys are those
of the platform, the name of the row is made from them, and a row that is listed by an
owner names that owner.
-/

namespace LogicalNet

/-! ## External ids -/

/-- The key starts as all those of the platform do. -/
def ExternalId.Platform (key : String) : Prop :=
  "limiquantix-".toList <+: key.toList

instance : DecidablePred ExternalId.Platform :=
  fun _ => inferInstanceAs (Decidable (_ <+: _))

namespace ExternalIds

variable {ids : ExternalIds} {key value : String} {pairs : List (String × String)}

def Prefixed (ids : ExternalIds) : Prop :=
  ∀ key value, ids.get? key = some value → ExternalId.Platform key

/-- There are external ids, all under keys of the platform. -/
structure Marked (ids : ExternalIds) : Prop where
  nonempty : ∃ key value, ids.get? key = some value
  prefixed : ids.Prefixed

theorem Prefixed.insert (h : ids.Prefixed) (hkey : ExternalId.Platform key) (value : String) :
    Prefixed (TextMap.insert ids key value) := by
  intro key' value' hfound
  rw [TextMap.get?_insert] at hfound
  split at hfound
  · rename_i hsame
    rw [← hsame]
    exact hkey
  · exact h key' value' hfound

theorem prefixed_ofList (hkeys : ∀ p ∈ pairs, ExternalId.Platform p.1) :
    Prefixed (TextMap.ofList pairs) :=
  fun _ _ hfound => hkeys _ (TextMap.mem_of_get?_ofList hfound)

theorem Prefixed.marked_insert (h : ids.Prefixed) (hkey : ExternalId.Platform key)
    (value : String) : Marked (TextMap.insert ids key value) :=
  ⟨⟨key, value, TextMap.get?_insert_self _ _ _⟩, h.insert hkey value⟩

/-- Keys of the platform, none of them twice. -/
def PlatformKeys (keys : List String) : Prop :=
  keys.Nodup ∧ ∀ key ∈ keys, ExternalId.Platform key

instance (keys : List String) : Decidable (PlatformKeys keys) :=
  inferInstanceAs (Decidable (_ ∧ _))

theorem get?_ofPairs_of_mem (hkeys : PlatformKeys (pairs.map Prod.fst))
    (hmem : (key, value) ∈ pairs) (hvalue : value ≠ "") :
    (ofPairs pairs).get? key = some value := by
  apply TextMap.get?_ofList_of_mem
  · exact hkeys.1.sublist (List.filter_sublist.map _)
  · exact List.mem_filter.mpr ⟨hmem, by simpa using hvalue⟩

theorem mem_of_get?_ofPairs (h : (ofPairs pairs).get? key = some value) : (key, value) ∈ pairs :=
  (List.mem_filter.mp (TextMap.mem_of_get?_ofList h)).1

/-- One value that is not empty is enough. -/
theorem marked_ofPairs (hkeys : PlatformKeys (pairs.map Prod.fst)) (hmem : (key, value) ∈ pairs)
    (hvalue : value ≠ "") : (ofPairs pairs).Marked := by
  refine ⟨⟨key, value, get?_ofPairs_of_mem hkeys hmem hvalue⟩, prefixed_ofList fun p hp => ?_⟩
  exact hkeys.2 p.1 (List.mem_map_of_mem (List.mem_filter.mp hp).1)

end ExternalIds

/-! ## Rows and their external ids -/

namespace Row

/-- The name that the external ids make for the row, in the tables where rows are found by name. -/
def nameFrom (r : Row) (ids : ExternalIds) : Option String :=
  match r with
  | switch _ => (ids.get? ExternalId.network).map Name.switch
  | switchPort port =>
      match port.kind with
      | .router => do
          let network ← ids.get? ExternalId.network
          let router ← ids.get? ExternalId.router
          return Name.routerPeer router (Name.switch network)
      | .localnet =>
          (ids.get? ExternalId.network).map fun network => Name.localnet (Name.switch network)
      | _ => (ids.get? ExternalId.port).map Name.switchPort
  | router _ => (ids.get? ExternalId.routerId).map Name.router
  | routerPort _ => do
      let network ← ids.get? ExternalId.network
      let router ← ids.get? ExternalId.router
      return Name.routerPort router (Name.switch network)
  | portGroup _ => (ids.get? ExternalId.securityGroup).map Name.portGroup
  | addressSet _ => (ids.get? ExternalId.securityGroup).map Name.addressSet
  | loadBalancer _ => (ids.get? ExternalId.loadBalancer).map Name.loadBalancer
  | _ => none

@[simp]
theorem nameFrom_mapReferences (f : List String → List String) (c : RefColumn) (r : Row)
    (ids : ExternalIds) : (r.mapReferences f c).nameFrom ids = r.nameFrom ids := by
  cases c <;> cases r <;> rfl

@[simp]
theorem nameFrom_mapKeys (f : TextMap String → TextMap String) (c : MapColumn) (r : Row)
    (ids : ExternalIds) : (r.mapKeys f c).nameFrom ids = r.nameFrom ids := by
  cases c <;> cases r <;> rfl

/-- The machine that uses the row is no part of its name. -/
theorem nameFrom_insert_vm (r : Row) (ids : ExternalIds) (vm : String) :
    r.nameFrom (ids.insert ExternalId.vm vm) = r.nameFrom ids := by
  cases r <;> simp (disch := decide) only [nameFrom, TextMap.get?_insert_of_ne]

/-- The external ids are the platform's and make the name of the row. -/
structure Labelled (r : Row) : Prop where
  marked : r.externalIds.Marked
  name : r.table.hasNameIndex = true → r.name? = r.nameFrom r.externalIds

/-- The external ids name the owner: an access control list has the security group of the port
group, what stands on a router the name of the router, and the port of a switch no other network. -/
def LeadsTo (r o : Row) : Prop :=
  match r.table with
  | .acl => ∃ group, r.externalIds.get? ExternalId.securityGroup = some group ∧
      o.externalIds.get? ExternalId.securityGroup = some group
  | .routerPort | .staticRoute | .nat => ∃ name,
      r.externalIds.get? ExternalId.router = some name ∧ o.name? = some name
  | .switchPort => ∀ network, r.externalIds.get? ExternalId.network = some network →
      o.name? = some (Name.switch network)
  | _ => True

end Row

namespace Client

open Tables

variable {calls : List Call} {ts us : Tables} {r : Request} {row o : Row}

/-! ### Changes that keep what external ids say -/

theorem externalIds_machine (vm : String) (row : Row) :
    (row.mapKeys (·.insertAll (TextMap.ofList [(ExternalId.vm, vm)]).entries)
      .externalIds).externalIds = row.externalIds.insert ExternalId.vm vm := by
  rw [Row.externalIds_mapKeys, if_pos rfl]
  rfl

theorem externalIds_host (host : String) (row : Row) :
    (row.mapKeys (·.insertAll (TextMap.ofList [("requested-chassis", host)]).entries)
      .options).externalIds = row.externalIds := by
  rw [Row.externalIds_mapKeys, if_neg (by decide)]

theorem lasting_labelled : Lasting Row.Labelled := by
  constructor
  · intro row f c h
    constructor
    · rw [Row.externalIds_mapReferences]
      exact h.marked
    · simpa using h.name
  · intro row vm h
    constructor
    · rw [externalIds_machine]
      exact h.marked.prefixed.marked_insert (by decide) vm
    · rw [externalIds_machine, Row.nameFrom_insert_vm]
      simpa using h.name
  · intro row host h
    constructor
    · rw [externalIds_host]
      exact h.marked
    · rw [externalIds_host]
      simpa using h.name

theorem lasting_leadsTo (o : Row) : Lasting fun row => row.LeadsTo o := by
  constructor
  · intro row f c h
    simpa [Row.LeadsTo] using h
  · intro row vm h
    simpa (disch := decide) only [Row.LeadsTo, Row.table_mapKeys, externalIds_machine,
      TextMap.get?_insert_of_ne] using h
  · intro row host h
    simpa only [Row.LeadsTo, Row.table_mapKeys, externalIds_host] using h

theorem lasting_leadsTo_owner (row : Row) : Lasting fun o => row.LeadsTo o := by
  constructor
  · intro o f c h
    simpa [Row.LeadsTo] using h
  · intro o vm h
    simpa (disch := decide) only [Row.LeadsTo, Row.name?_mapKeys, externalIds_machine,
      TextMap.get?_insert_of_ne] using h
  · intro o host h
    simpa only [Row.LeadsTo, Row.name?_mapKeys, externalIds_host] using h

/-! ## Rows that requests make -/

/-- The ids that the names of new rows are made from; that of a security group is never empty. -/
def Request.newIds : Request → List String
  | createSwitch network => [network.id]
  | createPort port => [port.id]
  | createLocalnetPort network _ _ => [network]
  | createRouter router _ _ => [router]
  | addInterface _ network _ => [network]
  | createBalancer balancer => [balancer.id]
  | updateBalancer balancer => [balancer.id]
  | _ => []

open ExternalIds in
/-- A row that is named for one of its external ids. -/
theorem labelled_of_pairs (name : String → String) {pairs : List (String × String)}
    {key value : String} (hids : row.externalIds = ofPairs pairs)
    (hkeys : PlatformKeys (pairs.map Prod.fst)) (hmem : (key, value) ∈ pairs) (hvalue : value ≠ "")
    (hname : row.name? = some (name value))
    (hfrom : ∀ ids, row.nameFrom ids = (ids.get? key).map name) : row.Labelled := by
  constructor
  · rw [hids]
    exact marked_ofPairs hkeys hmem hvalue
  · intro _
    rw [hname, hfrom, hids, get?_ofPairs_of_mem hkeys hmem hvalue, Option.map_some]

/-- A row of a table where rows are not found by name. -/
theorem labelled_of_marked (htable : row.table.hasNameIndex = false)
    (h : row.externalIds.Marked) : row.Labelled :=
  ⟨h, fun hindex => by rw [htable] at hindex; cases hindex⟩

theorem name_ne_empty (router : String) : Name.router router ≠ "" := by
  intro h
  have hlist := congrArg String.toList h
  simp [Name.router] at hlist

theorem platformKeys_interfaceIds :
    ExternalIds.PlatformKeys [ExternalId.network, ExternalId.router] := by
  decide

theorem get?_interfaceIds_network (router : String) {network : String} (h : network ≠ "") :
    (interfaceIds router network).get? ExternalId.network = some network :=
  ExternalIds.get?_ofPairs_of_mem platformKeys_interfaceIds List.mem_cons_self h

theorem get?_interfaceIds_router (router network : String) :
    (interfaceIds router network).get? ExternalId.router = some (Name.router router) :=
  ExternalIds.get?_ofPairs_of_mem platformKeys_interfaceIds (by simp) (name_ne_empty router)

theorem marked_interfaceIds (router network : String) : (interfaceIds router network).Marked :=
  ExternalIds.marked_ofPairs platformKeys_interfaceIds (List.mem_cons_of_mem _ List.mem_cons_self)
    (name_ne_empty router)

theorem labelled_interfacePort {network : String} (h : network ≠ "") (router gateway uuid : String)
    (mac : Mac) : (Row.routerPort (interfacePort router network gateway uuid mac)).Labelled := by
  refine ⟨marked_interfaceIds router network, fun _ => ?_⟩
  simp only [Row.nameFrom, Row.externalIds, interfacePort, get?_interfaceIds_network router h,
    get?_interfaceIds_router]
  rfl

theorem labelled_interfacePeer {network : String} (h : network ≠ "") (router uuid : String) :
    (Row.switchPort (interfacePeer router network uuid)).Labelled := by
  refine ⟨marked_interfaceIds router network, fun _ => ?_⟩
  simp only [Row.nameFrom, Row.externalIds, interfacePeer, get?_interfaceIds_network router h,
    get?_interfaceIds_router]
  rfl

theorem labelled_portRow {port : Tenant.Port} (h : port.id ≠ "") (mac : Mac) (uuid : String)
    (dhcp : Option String) : (Row.switchPort (portRow port mac uuid dhcp)).Labelled := by
  have hkeys : ExternalIds.PlatformKeys [ExternalId.port, ExternalId.vm] := by
    decide
  refine labelled_of_pairs Name.switchPort rfl hkeys List.mem_cons_self h rfl fun ids => ?_
  show (match portKind port.spec.binding.kind with | .router => _ | .localnet => _ | _ => _) = _
  cases port.spec.binding.kind <;> rfl

theorem labelled_of_balancerRow {balancer : Tenant.Balancer} (h : balancer.id ≠ "")
    {uuid : String} {new : LoadBalancer} (hnew : balancerRow balancer uuid = .ok new) :
    (Row.loadBalancer new).Labelled := by
  have hkeys : ExternalIds.PlatformKeys [ExternalId.loadBalancer, ExternalId.project] := by
    decide
  rcases Outcome.bind_eq_ok_iff.mp hnew with ⟨vip, _, hrest⟩
  split at hrest
  · cases hrest
  · cases hrest
    exact labelled_of_pairs Name.loadBalancer rfl hkeys List.mem_cons_self h rfl fun _ => rfl

theorem platformKeys_of_draft : ∀ key ∈ [ExternalId.builtin, ExternalId.rule],
    ExternalIds.PlatformKeys [key, ExternalId.securityGroup] := by
  decide

theorem platformKeys_group :
    ExternalIds.PlatformKeys [ExternalId.securityGroup, ExternalId.securityGroupName] := by
  decide

theorem id_ne_empty_of_plan {group : SecurityGroup} {plan : GroupPlan}
    (h : group.plan = .ok plan) : group.id ≠ "" := by
  simpa using SecurityGroup.isEmpty_id_of_plan h

/-- The rows of a security group. -/
theorem labelled_of_storedRows {group : SecurityGroup} {plan : GroupPlan} {uuids : List String}
    (hplan : group.plan = .ok plan)
    (hrow : row ∈ storedRows (carriedOver ts (plan.withUuids uuids))) : row.Labelled := by
  have hid := id_ne_empty_of_plan hplan
  have hkeys := platformKeys_group
  have hgroup := SecurityGroup.group_of_plan hplan
  have hids := SecurityGroup.externalIds_of_plan hplan
  rcases mem_storedRows.mp hrow with rfl | ⟨a, ha, rfl⟩ | rfl
  · refine labelled_of_pairs Name.addressSet hids hkeys List.mem_cons_self hid ?_ fun _ => rfl
    show some (Name.addressSet plan.group) = _
    rw [hgroup]
  · rcases GroupPlan.exists_draft ha with ⟨d, hd, u, rfl⟩
    rcases SecurityGroup.externalIds_of_mem_drafts hplan d hd with ⟨key, value, hkey, heq⟩
    apply labelled_of_marked rfl
    show d.externalIds.Marked
    rw [heq]
    refine ExternalIds.marked_ofPairs ?_ (List.mem_cons_of_mem _ List.mem_cons_self) hid
    exact platformKeys_of_draft key hkey
  · refine labelled_of_pairs Name.portGroup hids hkeys List.mem_cons_self hid ?_ fun _ => rfl
    show some (Name.portGroup plan.group) = _
    rw [hgroup]

theorem Made.labelled {owner : Option Row} (h : Made ts r row owner)
    (hids : ∀ id ∈ r.newIds, id ≠ "") (hdhcp : ∀ config, r ≠ .createDhcpOptions config) :
    row.Labelled := by
  cases h with
  | switch =>
      have hkeys : ExternalIds.PlatformKeys
          [ExternalId.network, ExternalId.project, ExternalId.name] := by
        decide
      exact labelled_of_pairs Name.switch rfl hkeys List.mem_cons_self
        (hids _ List.mem_cons_self) rfl fun _ => rfl
  | networkDhcp hpairs =>
      have hkeys : ExternalIds.PlatformKeys [ExternalId.network, ExternalId.switch] := by
        decide
      apply labelled_of_marked rfl
      rw [Row.externalIds, hpairs]
      exact ExternalIds.marked_ofPairs hkeys List.mem_cons_self (hids _ List.mem_cons_self)
  | dhcp =>
      exact absurd rfl (hdhcp _)
  | port howner hserved =>
      exact labelled_portRow (hids _ List.mem_cons_self) _ _ _
  | localnet howner =>
      have hkeys : ExternalIds.PlatformKeys [ExternalId.network] := by
        decide
      exact labelled_of_pairs (fun network => Name.localnet (Name.switch network)) rfl hkeys
        List.mem_cons_self (hids _ List.mem_cons_self) rfl fun _ => rfl
  | router =>
      have hkeys : ExternalIds.PlatformKeys [ExternalId.routerId, ExternalId.project] := by
        decide
      exact labelled_of_pairs Name.router rfl hkeys List.mem_cons_self
        (hids _ List.mem_cons_self) rfl fun _ => rfl
  | interfacePort howner =>
      exact labelled_interfacePort (hids _ List.mem_cons_self) _ _ _ _
  | interfacePeer howner =>
      exact labelled_interfacePeer (hids _ List.mem_cons_self) _ _
  | route howner hpairs =>
      have hkeys : ExternalIds.PlatformKeys [ExternalId.router] := by
        decide
      apply labelled_of_marked rfl
      rw [Row.externalIds, hpairs]
      exact ExternalIds.marked_ofPairs hkeys List.mem_cons_self (name_ne_empty _)
  | floatingIp howner hpairs =>
      apply labelled_of_marked rfl
      rw [Row.externalIds, hpairs]
      refine (ExternalIds.prefixed_ofList ?_).marked_insert (by decide) _
      simpa using (by decide : ExternalId.Platform ExternalId.floatingIp)
  | snat howner hpairs =>
      apply labelled_of_marked rfl
      rw [Row.externalIds, hpairs]
      exact (ExternalIds.prefixed_ofList (by decide)).marked_insert (by decide) _
  | group hplan hrow =>
      exact labelled_of_storedRows hplan hrow
  | balancer hrow =>
      exact labelled_of_balancerRow (hids _ List.mem_cons_self) hrow
  | newBalancer hrow =>
      exact labelled_of_balancerRow (hids _ List.mem_cons_self) hrow

/-- A row that is put on its owner names it. -/
theorem Made.leadsTo (h : Made ts r row (some o)) : row.LeadsTo o := by
  cases h with
  | port howner hserved =>
      intro network hnetwork
      have hmem := ExternalIds.mem_of_get?_ofPairs hnetwork
      simp [ExternalId.network, ExternalId.port, ExternalId.vm] at hmem
  | localnet howner =>
      intro network hnetwork
      have hmem := ExternalIds.mem_of_get?_ofPairs hnetwork
      rw [howner, (Prod.mk.inj (List.mem_singleton.mp hmem)).2]
  | interfacePort howner =>
      exact ⟨_, get?_interfaceIds_router _ _, howner⟩
  | @interfacePeer router network gateway _ _ howner =>
      intro network' hnetwork
      have hmem := ExternalIds.mem_of_get?_ofPairs hnetwork
      simp only [List.mem_cons, Prod.mk.injEq, List.not_mem_nil, or_false] at hmem
      rcases hmem with ⟨_, rfl⟩ | ⟨hkey, _⟩
      · exact howner
      · exact absurd hkey (by decide)
  | route howner hpairs =>
      have hkeys : ExternalIds.PlatformKeys [ExternalId.router] := by
        decide
      refine ⟨_, ?_, howner⟩
      rw [Row.externalIds, hpairs]
      exact ExternalIds.get?_ofPairs_of_mem hkeys List.mem_cons_self (name_ne_empty _)
  | floatingIp howner hpairs =>
      refine ⟨_, ?_, howner⟩
      rw [Row.externalIds, hpairs, TextMap.get?_insert_self]
  | snat howner hpairs =>
      refine ⟨_, ?_, howner⟩
      rw [Row.externalIds, hpairs, TextMap.get?_insert_self]

/-! ## Access control lists and their port groups -/

/-- The access control lists that port groups list name the security group of the port group. -/
def AclsLead (ts : Tables) : Prop :=
  AllListed ts .portGroup .acl .acls fun o row => row.LeadsTo o

theorem Made.exists_group {owner : Option Row} (h : Made ts r row owner)
    (htable : row.table = .portGroup ∨ row.table = .acl) : ∃ group, r = .createGroup group := by
  cases h with
  | group _ _ =>
      exact ⟨_, rfl⟩
  | _ =>
      simp [Row.table] at htable

theorem leadsTo_of_plan {group : SecurityGroup} {plan : GroupPlan} (hplan : group.plan = .ok plan)
    (uuids : List String) (ts : Tables) :
    ∀ a ∈ (carriedOver ts (plan.withUuids uuids)).acls,
      (Row.acl a).LeadsTo (.portGroup (carriedOver ts (plan.withUuids uuids)).portGroup) := by
  intro a ha
  refine ⟨group.id, (compiles_withUuids hplan uuids ts).acls a ha, ?_⟩
  show plan.externalIds.get? ExternalId.securityGroup = some group.id
  rw [SecurityGroup.externalIds_of_plan hplan]
  exact ExternalIds.get?_ofPairs_of_mem platformKeys_group List.mem_cons_self
    (id_ne_empty_of_plan hplan)

/-- The new port group lists the new lists, and no other port group does. -/
theorem Replaces.aclsLead {group : String} {c : CompiledGroup} (hc : Compiles group c)
    (h : Replaces ts us group (storedRows c)) (hus : Sound (listing calls) nothing us)
    (hnew : ∀ a ∈ c.acls, (Row.acl a).LeadsTo (.portGroup c.portGroup)) (hlead : AclsLead ts) :
    AclsLead us := by
  have hgroup : (us .portGroup).get? c.portGroup.uuid = some (.portGroup c.portGroup) :=
    (h _ _ _).mpr (.inr ⟨mem_storedRows.mpr (.inr (.inr rfl)), rfl, rfl⟩)
  intro k u o row ho hu hrow
  rcases (h _ _ _).mp hrow with ⟨hrowOld, _⟩ | ⟨hrowNew, hrowTable, hrowUuid⟩
  · rcases (h _ _ _).mp ho with ⟨hoOld, _⟩ | ⟨hoNew, hoTable, _⟩
    · exact hlead k u o row hoOld hu hrowOld
    · rcases mem_storedRows.mp hoNew with rfl | ⟨_, _, rfl⟩ | rfl
      · cases hoTable
      · cases hoTable
      · change u ∈ c.portGroup.acls at hu
        rw [hc.lists] at hu
        rcases List.mem_map.mp hu with ⟨a, ha, rfl⟩
        have hacl : (us .acl).get? a.uuid = some (.acl a) :=
          (h _ _ _).mpr (.inr ⟨mem_storedRows.mpr (.inr (.inl ⟨a, ha, rfl⟩)), rfl, rfl⟩)
        rw [hrow] at hacl
        cases hacl
        exact hnew a ha
  · rcases mem_storedRows.mp hrowNew with rfl | ⟨a, ha, rfl⟩ | rfl
    · cases hrowTable
    · have hlisted : u ∈ (Row.portGroup c.portGroup).refs .acls := by
        show u ∈ c.portGroup.acls
        rw [hc.lists, ← hrowUuid]
        exact List.mem_map_of_mem ha
      have hkey := hus.one (t := .acl) rfl ho hgroup hu hlisted
      rw [hkey, hgroup] at ho
      cases ho
      exact hnew a ha
    · cases hrowTable

/-- Requests that do not store a group neither make lists nor put them on port groups. -/
theorem Change.aclsLead {ops : List Operation} (h : Change calls r ts us ops)
    (hr : ∀ group, r ≠ .createGroup group) (hlead : AclsLead ts) : AclsLead us := by
  have hold : ∀ {t k s}, t = .portGroup ∨ t = .acl → (us t).get? k = some s →
      ∃ row, (ts t).get? k = some row ∧ Revised ops row s := by
    intro t k s ht hs
    rcases h.exists_row hs with ⟨row, hrow | ⟨owner, hmade⟩ | hnew, htable, _, hrevised⟩
    · exact ⟨row, hrow, hrevised⟩
    · rw [← htable] at ht
      rcases hmade.exists_group ht with ⟨group, hgroup⟩
      exact absurd hgroup (hr group)
    · rw [← htable] at ht
      cases hnew <;> simp [Row.table] at ht
  intro k u o' s ho' hu hs
  rcases hold (.inl rfl) ho' with ⟨o, ho, hrevised⟩
  rcases hold (.inr rfl) hs with ⟨row, hrow, hrevised'⟩
  have hlisted : u ∈ o.refs .acls := by
    rcases hrevised.mem_refs hu with hlisted | ⟨lookup, uuids, hop, _, _⟩
    · exact hlisted
    · rw [(h.sound.wellFormed.applyAll h.applied).table_eq ho'] at hop
      rcases h.of_addRefs (t := .acl) rfl hop with ⟨new, _, _, htable, _, _, _, hmade⟩
      rcases hmade.exists_group (.inr htable) with ⟨group, hgroup⟩
      exact absurd hgroup (hr group)
  have hleads : s.LeadsTo o :=
    h.lasting (K := (·.LeadsTo o)) (lasting_leadsTo o) hrevised' (hlead k u o row ho hlisted hrow)
  exact h.lasting (lasting_leadsTo_owner s) hrevised hleads

theorem Request.Writes.aclsLead (hts : Sound (listing calls) nothing ts)
    (hcall : .request r ∈ calls) (hlead : AclsLead ts) (h : r.Writes ts us) : AclsLead us := by
  have hus := h.sound hts hcall
  by_cases hgroup : ∃ group, r = .createGroup group
  · rcases hgroup with ⟨group, rfl⟩
    cases h with
    | dhcp hr _ _ =>
        cases hr
    | @call drawn t hends hops =>
        rcases of_translated hends with ⟨t', ht', heq⟩
        rw [heq] at hops
        rcases operations_createGroup hts.wellFormed ht' with ⟨plan, hplan, _, hresult, _⟩
        have hreplaces := replaces_createGroup hts ht' hops
        rw [hresult] at hreplaces
        exact hreplaces.aclsLead (compiles_withUuids hplan drawn ts) hus
          (leadsTo_of_plan hplan drawn ts) hlead
  · rcases h.exists_change hts hcall with ⟨ops, hchange⟩
    exact hchange.aclsLead (fun group hr => hgroup ⟨group, hr⟩) hlead

/-! ## Every history -/

section Histories

variable {ι : Type} [IdSource ι]

theorem aclsLead_history (calls : List Call) (ids : ι) :
    AclsLead (history calls ids).1.tables := by
  apply history_induction (motive := AclsLead) calls ids
  · exact .empty _ _ _ _
  · intro r ts us hts hcall hlead hwrites
    exact hwrites.aclsLead hts hcall hlead

/-- What is listed by its owner leads back to it. -/
theorem leadsTo_history (calls : List Call) (ids : ι) {t table : Table} {c : RefColumn}
    (howner : t.owner? = some (table, c)) {k u : String} {o row : Row}
    (ho : ((history calls ids).1.tables table).get? k = some o) (hu : u ∈ o.refs c)
    (hrow : ((history calls ids).1.tables t).get? u = some row) : row.LeadsTo o := by
  by_cases hacl : t = .acl
  · subst hacl
    cases howner
    exact aclsLead_history calls ids k u o row ho hu hrow
  · exact listed_history (J := fun o row => row.LeadsTo o) lasting_leadsTo_owner lasting_leadsTo
      calls ids (fun _ hmade => hmade.leadsTo) howner hacl k u o row ho hu hrow

theorem labelled_history (calls : List Call) (ids : ι)
    (hids : ∀ r, .request r ∈ calls → ∀ id ∈ r.newIds, id ≠ "")
    (hmade : ∀ config, .request (.createDhcpOptions config) ∉ calls)
    (hwritten : ∀ options, .request (.updateDhcpOptions options) ∉ calls) :
    ∀ t k row, ((history calls ids).1.tables t).get? k = some row → row.Labelled := by
  apply rows_history lasting_labelled calls ids
  · intro ts r row hcall hnew
    rcases hnew with ⟨owner, hnew⟩
    refine hnew.labelled (hids r hcall) fun config hr => hmade config ?_
    rw [← hr]
    exact hcall
  · intro ts r row hcall hlabelled hnew
    cases hnew with
    | dhcp =>
        exact absurd hcall (hwritten _)
    | addresses hold =>
        have hlabelled := hlabelled _ _ _ hold
        exact ⟨hlabelled.marked, hlabelled.name⟩
    | balancer hrow =>
        exact labelled_of_balancerRow (hids _ hcall _ List.mem_cons_self) hrow

/-- The external ids of every row are the platform's and make its name, and a row that needs an
owner has exactly one and names it. -/
theorem back_references_history (calls : List Call) (ids : ι)
    (hids : ∀ r, .request r ∈ calls → ∀ id ∈ r.newIds, id ≠ "")
    (hmade : ∀ config, .request (.createDhcpOptions config) ∉ calls)
    (hwritten : ∀ options, .request (.updateDhcpOptions options) ∉ calls) :
    ∀ t k row, ((history calls ids).1.tables t).get? k = some row →
      row.Labelled ∧ ∀ table c, t.owner? = some (table, c) →
        ∃ key o, ((history calls ids).1.tables table).get? key = some o ∧ k ∈ o.refs c ∧
          row.LeadsTo o ∧ ∀ key' o', ((history calls ids).1.tables table).get? key' = some o' →
            k ∈ o'.refs c → key' = key := by
  intro t k row hrow
  refine ⟨labelled_history calls ids hids hmade hwritten t k row hrow, fun table c howner => ?_⟩
  rcases (owned_history calls ids).one_owner howner hrow with ⟨key, ⟨o, ho, hk⟩, hone⟩
  refine ⟨key, o, ho, hk, leadsTo_history calls ids howner ho hk hrow, fun key' o' ho' hk' => ?_⟩
  exact hone key' ⟨o', ho', hk'⟩

/-- A network with a port that is a member of a group, and a router that the network is connected
to. -/
def attached : List Call := [
  .request (.createSwitch { id := "n", spec := { addressing := {
    subnet := "10.0.1.0/24", gateway := "10.0.1.1", dhcp := { enabled := true } } } }),
  .request (.createPort {
    id := "q", network := "n", spec := { macAddress := "FA:16:3E:00:00:01" } }),
  .request (.createRouter "r" "p" false),
  .request (.addInterface "r" "n" "10.0.1.1/24"),
  .request (.createGroup { id := "web", name := "web" }),
  .request (.applyGroup "q" "web")]

/-- The tables of the rows of the network, the router and the group have rows. -/
def isAttached (ts : Tables) : Bool :=
  [Table.switch, .dhcpOptions, .switchPort, .router, .routerPort, .portGroup, .acl, .addressSet].all
    fun t => !(ts.list t).isEmpty

theorem back_references_attached :
    isAttached (history attached (Counter.mk 1)).1.tables = true ∧
      ∀ t k row, ((history attached (Counter.mk 1)).1.tables t).get? k = some row →
        row.Labelled ∧ ∀ table c, t.owner? = some (table, c) →
          ∃ key o, ((history attached (Counter.mk 1)).1.tables table).get? key = some o ∧
            k ∈ o.refs c ∧ row.LeadsTo o ∧ ∀ key' o',
              ((history attached (Counter.mk 1)).1.tables table).get? key' = some o' →
                k ∈ o'.refs c → key' = key := by
  refine ⟨by decide +kernel, back_references_history attached (Counter.mk 1) ?_ ?_ ?_⟩
  · intro r hr
    simp only [attached, List.mem_cons, Call.request.injEq, List.not_mem_nil, or_false] at hr
    rcases hr with rfl | rfl | rfl | rfl | rfl | rfl <;> simp [Request.newIds]
  · simp [attached]
  · simp [attached]

end Histories
end Client
end LogicalNet
