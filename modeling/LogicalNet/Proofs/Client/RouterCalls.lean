import LogicalNet.Proofs.Client.SwitchCalls

/-!
# What the calls on routers write
-/

namespace LogicalNet

/-! ## Built rows -/

theorem StaticRoute.uuid_of_build {uuid : String} {destination nextHop : NetAddress}
    {route : StaticRoute} (h : StaticRoute.build uuid destination nextHop = .ok route) :
    route.uuid = uuid := by
  unfold StaticRoute.build at h
  split at h
  · cases h
  · split at h
    · cases h
    · cases h
      rfl

theorem NatRule.uuid_of_build {uuid : String} {kind : NatKind} {external logical : NetAddress}
    {rule : NatRule} (h : NatRule.build uuid kind external logical = .ok rule) :
    rule.uuid = uuid := by
  unfold NatRule.build at h
  split at h
  · cases h
  · split at h
    · cases h
    · cases h
      rfl

namespace Client

open Tables Plan.Ends

variable {calls : List Call} {ts : Tables} {drawn : List String}

/-! ## Routers -/

theorem issued_createRouter {router project : String} {distributed : Bool}
    {t : Transaction Router} (h : (createRouter router project distributed).Ends ts drawn t) :
    Issued calls ts drawn t.operations := by
  rcases of_bind h with ⟨_, uuid, _, rfl, huuid, hwrite⟩
  rcases of_pure hwrite with ⟨rfl, rfl⟩
  refine .insert rfl (fun c => by cases c <;> rfl) ?_
  rw [of_drawUuid huuid]
  simp [Row.uuid]

/-- No port group lists the peer of an interface. -/
theorem not_mem_of_names_router (hts : Sound (listing calls) nothing ts) {u name : String}
    {r : Row} (hr : (ts .switchPort).get? u = some r)
    (hrouter : r.externalIds.get? ExternalId.router = some name) {k : String} {group : Row}
    (hgroup : (ts .portGroup).get? k = some group) : u ∉ group.refs .ports := by
  intro hu
  rcases exists_lists hts hgroup rfl hu with ⟨r', hr', hfits⟩
  rw [hr] at hr'
  cases hr'
  rcases hfits with ⟨port, hname⟩
  rcases hts.listed (t := .switchPort) rfl hr id with ⟨k', switch, hswitch, hmem⟩
  rcases exists_lists hts hswitch rfl hmem with ⟨r', hr', hfits'⟩
  rw [hr] at hr'
  cases hr'
  rw [hfits'.router_eq_none hname] at hrouter
  cases hrouter

/-- The router goes with all that it lists, and the ports that bear its name off their switches. -/
theorem mem_deleteRouter_iff (hts : ts.WellFormed) {router : String} {t : Transaction Unit}
    (h : (deleteRouter router).Ends ts drawn t) (op : Operation) :
    op ∈ t.operations ↔
      (∃ u, (∃ v, Stored ts .router (Name.router router) v) ∧
        Bears ts .switchPort ExternalId.router (Name.router router) u ∧
        (Unlists ts .switch .ports u op ∨ op = .delete .switchPort (.uuid u))) ∨
      (∃ t c u, Table.owner? t = some (.router, c) ∧
        ListedIn ts .router (Name.router router) c u ∧ op = .delete t (.uuid u)) ∨
      ∃ u, Stored ts .router (Name.router router) u ∧ op = .delete .router (.uuid u) := by
  rcases of_bind h with ⟨_, found, _, _, hfound, hrest⟩
  rcases of_fetch hfound with ⟨_, hget⟩
  change ts.get? .router _ = found.map .router at hget
  cases found with
  | none =>
      rcases of_pure hrest with ⟨_, rfl⟩
      simp [Stored, ListedIn, hget]
  | some row =>
      rcases of_bind hrest with ⟨_, peers, _, _, hpeers, hrest⟩
      rcases of_bind hrest with ⟨_, peersGone, _, _, hgone, hrest⟩
      rcases of_pure hrest with ⟨_, rfl⟩
      rcases of_findAll hpeers with ⟨_, hfind⟩
      change ts.find .switchPort _ _ = _ at hfind
      have hpeersGone := (of_gather (fun (p : SwitchPort) vs cs =>
        of_leave_delete p.uuid (of_leaveSwitches hts)) hgone).2
      have hstored : ∀ u, Stored ts .router (Name.router router) u ↔ row.uuid = u := by
        simp [Stored, hget, Row.uuid]
      have hlisted : ∀ c u, ListedIn ts .router (Name.router router) c u ↔
          u ∈ (Row.router row).refs c := by
        simp [ListedIn, hget]
      simp only [List.mem_append, hpeersGone, List.mem_map, List.mem_singleton, or_assoc, hstored,
        hlisted]
      have hself : (∃ u, row.uuid = u ∧ op = .delete .router (.uuid u)) ↔
          op = deleteOperation .router row.uuid := by
        simp [deleteOperation]
      rw [hself]
      apply or_congr
      · simp only [← mem_find_iff hts hfind]
        constructor
        · intro hop
          rcases hop with ⟨p, hp, hop⟩
          exact ⟨p.uuid, ⟨_, rfl⟩, ⟨p, hp, rfl⟩, hop⟩
        · intro hop
          rcases hop with ⟨_, _, ⟨p, hp, rfl⟩, hop⟩
          exact ⟨p, hp, hop⟩
      · constructor
        · intro hop
          rcases hop with ⟨u, hu, rfl⟩ | ⟨u, hu, rfl⟩ | ⟨u, hu, rfl⟩ | rfl
          · exact .inl ⟨.routerPort, .ports, u, rfl, hu, rfl⟩
          · exact .inl ⟨.nat, .nat, u, rfl, hu, rfl⟩
          · exact .inl ⟨.staticRoute, .staticRoutes, u, rfl, hu, rfl⟩
          · exact .inr rfl
        · intro hop
          rcases hop with ⟨t, c, u, howner, hu, rfl⟩ | rfl
          · cases t with
            | routerPort =>
                cases howner
                exact .inl ⟨u, hu, rfl⟩
            | nat =>
                cases howner
                exact .inr (.inl ⟨u, hu, rfl⟩)
            | staticRoute =>
                cases howner
                exact .inr (.inr (.inl ⟨u, hu, rfl⟩))
            | _ =>
                cases howner
          · exact .inr (.inr (.inr rfl))

theorem issued_deleteRouter (hts : Sound (listing calls) nothing ts) {router : String}
    {t : Transaction Unit} (h : (deleteRouter router).Ends ts drawn t) :
    Issued calls ts drawn t.operations := by
  have hops := mem_deleteRouter_iff hts.wellFormed h
  have hlistedRoot : ∀ {t c}, Table.owner? t = some (.router, c) → t.isRoot = false := by
    intro t c howner
    cases t <;> cases howner <;> rfl
  refine .remove (fun op hop => ?_) fun _ => ?_
  · rcases (hops op).mp hop with
      ⟨p, hrouter, hp, hunlists | rfl⟩ | ⟨_, _, _, howner, _, rfl⟩ | ⟨_, hstored, rfl⟩
    · refine hunlists.withdraws fun t howner => ?_
      cases t <;> cases howner
      exact (hops _).mpr (.inl ⟨p, hrouter, hp, .inr rfl⟩)
    · exact .owned rfl
    · exact .owned (hlistedRoot howner)
    · rcases hstored with ⟨row, hget, rfl⟩
      refine withdraws_owner hts.wellFormed rfl row (get?_of_get? hts.wellFormed hget) ?_
      intro t c howner u hu
      exact (hops _).mpr (.inr (.inl ⟨t, c, u, howner, ⟨row, hget, hu⟩, rfl⟩))
  · intro t u hop ht o k row c hrow htarget hu
    rcases (hops _).mp hop with ⟨p, hrouter, hp, ⟨_, _, _, _, heq⟩ | heq⟩ |
      ⟨_, _, _, howner, ⟨owner, hget, hv⟩, heq⟩ | ⟨_, _, heq⟩
    · cases heq
    · cases heq
      rcases RefColumn.lister_of_target? htarget ht with howner | ⟨_, rfl, rfl⟩ | ⟨heq, _⟩
      · cases howner
        refine exists_detaches_of_unlists hts.wellFormed (fun op hunlists => ?_) hrow hu
        exact (hops op).mpr (.inl ⟨u, hrouter, hp, .inl hunlists⟩)
      · rcases hp with ⟨port, hport, hname⟩
        exact absurd hu (not_mem_of_names_router hts hport hname hrow)
      · cases heq
    · cases heq
      have howner' : t.owner? = some (o, c) := by
        apply RefColumn.owner?_of_target? htarget ht
        · intro hsame
          rcases hsame with rfl
          cases howner
        · intro hsame
          rcases hsame with rfl
          cases howner
      rw [howner] at howner'
      cases howner'
      have hrouterGone := (hops (.delete .router (.uuid owner.uuid))).mpr
        (.inr (.inr ⟨_, ⟨owner, hget, rfl⟩, rfl⟩))
      exact exists_detaches_of_owner hts howner owner (get?_of_get? hts.wellFormed hget)
        hrouterGone hrow hu hv
    · cases heq
      cases ht

/-! ## Interfaces -/

theorem issued_addInterface (hts : Sound (listing calls) nothing ts)
    {router network gateway : String}
    (hcall : .request (.addInterface router network gateway) ∈ calls)
    {t : Transaction RouterPort} (h : (addInterface router network gateway).Ends ts drawn t) :
    Issued calls ts drawn t.operations := by
  rcases of_bind h with ⟨_, address, _, rfl, _, hrest⟩
  split at hrest
  · cases hrest
  · rcases of_bind hrest with ⟨_, routerRow, _, rfl, hrouter, hrest⟩
    rcases of_bind hrest with ⟨_, switchRow, _, rfl, hswitch, hrest⟩
    rcases of_bind hrest with ⟨_, uuid, _, rfl, huuid, hrest⟩
    rcases of_bind hrest with ⟨_, mac, _, rfl, _, hrest⟩
    rcases of_bind hrest with ⟨_, peerUuid, _, rfl, hpeerUuid, hwrite⟩
    rcases of_pure hwrite with ⟨rfl, rfl⟩
    rcases of_requireParent hrouter with ⟨_, hrouterGet⟩
    rcases of_requireParent hswitch with ⟨_, hswitchGet⟩
    have huses : UsesInterface calls router network := .inl ⟨gateway, hcall⟩
    have hrouterName := name?_of_get? hts.wellFormed hrouterGet
    have hswitchName := name?_of_get? hts.wellFormed hswitchGet
    refine .attachBoth
      ⟨fun c => by cases c <;> rfl, rfl, _, get?_of_get? hts.wellFormed hrouterGet, ?_⟩
      ⟨fun c => by cases c <;> rfl, rfl, _, get?_of_get? hts.wellFormed hswitchGet, ?_⟩ ?_ ?_
    · exact ⟨router, network, huses, hrouterName, rfl⟩
    · exact .peer huses hswitchName rfl
    · rw [of_drawUuid huuid]
      simp [Row.uuid]
    · rw [of_drawUuid hpeerUuid]
      simp [Row.uuid]

/-- The rows with the names of both sides of the interface go, off the router and the switch. -/
theorem mem_removeInterface_iff {router network : String} {t : Transaction Unit}
    (h : (removeInterface router network).Ends ts drawn t) (op : Operation) :
    op ∈ t.operations ↔
      (∃ u, Stored ts .routerPort
          (Name.routerPort (Name.router router) (Name.switch network)) u ∧
        (op = .removeRefs .router (.name (Name.router router)) .ports [u] ∨
          op = .delete .routerPort (.uuid u))) ∨
      ∃ u, Stored ts .switchPort
          (Name.routerPeer (Name.router router) (Name.switch network)) u ∧
        (op = .removeRefs .switch (.name (Name.switch network)) .ports [u] ∨
          op = .delete .switchPort (.uuid u)) := by
  rcases of_bind h with ⟨_, port, _, _, hport, hrest⟩
  rcases of_bind hrest with ⟨_, peer, _, _, hpeer, hrest⟩
  rcases of_pure hrest with ⟨_, rfl⟩
  rcases of_fetch hport with ⟨_, hportGet⟩
  rcases of_fetch hpeer with ⟨_, hpeerGet⟩
  change ts.get? .routerPort _ = port.map .routerPort at hportGet
  change ts.get? .switchPort _ = peer.map .switchPort at hpeerGet
  rw [List.mem_append]
  apply or_congr
  · cases port <;> simp [Stored, hportGet, Row.uuid, deleteOperation]
  · cases peer <;> simp [Stored, hpeerGet, Row.uuid, deleteOperation]

theorem issued_removeInterface (hts : Sound (listing calls) nothing ts) {router network : String}
    (hcall : .request (.removeInterface router network) ∈ calls) {t : Transaction Unit}
    (h : (removeInterface router network).Ends ts drawn t) :
    Issued calls ts drawn t.operations := by
  have hops := mem_removeInterface_iff h
  have huses : UsesInterface calls router network := .inr hcall
  refine .remove (fun op hop => ?_) fun hapart => ?_
  · rcases (hops op).mp hop with ⟨p, hp, rfl | rfl⟩ | ⟨p, hp, rfl | rfl⟩
    · refine .reference fun t howner => ?_
      cases t <;> cases howner
      exact (hops _).mpr (.inl ⟨p, hp, .inr rfl⟩)
    · exact .owned rfl
    · refine .reference fun t howner => ?_
      cases t <;> cases howner
      exact (hops _).mpr (.inr ⟨p, hp, .inr rfl⟩)
    · exact .owned rfl
  · intro t u hop ht o k row c hrow htarget hu
    rcases (hops _).mp hop with ⟨p, hp, heq | heq⟩ | ⟨p, hp, heq | heq⟩
    · cases heq
    · cases heq
      rcases hp with ⟨port, hget, rfl⟩
      rcases lists_of_get? hts hget hrow htarget hu with ⟨hfits, hname⟩
      cases RefColumn.owner?_of_target? htarget ht (by decide) (by decide)
      refine ⟨_, (hops _).mpr (.inl ⟨_, ⟨port, hget, rfl⟩, .inl rfl⟩), .removeRefs ?_ (by simp)⟩
      simp [Lookup.addresses, ListedByRouter.name?_of_port hfits hapart huses hname]
    · cases heq
    · cases heq
      rcases hp with ⟨peer, hget, rfl⟩
      rcases lists_of_get? hts hget hrow htarget hu with ⟨hfits, hname⟩
      rcases RefColumn.lister_of_target? htarget ht with howner | ⟨_, rfl, rfl⟩ | ⟨heq, _⟩
      · cases howner
        refine ⟨_, (hops _).mpr (.inr ⟨_, ⟨peer, hget, rfl⟩, .inl rfl⟩), .removeRefs ?_ (by simp)⟩
        simp [Lookup.addresses, ListedBySwitch.name?_of_peer hfits hapart huses hname]
      · -- The ports of a group have the names of ports of machines.
        rcases hfits with ⟨machine, hmachine⟩
        rw [hname] at hmachine
        exact absurd (Option.some.inj hmachine).symm (switchPort_ne_routerPeer _ _ _)
      · cases heq

/-! ## Static routes -/

theorem issued_addRoute (hts : Sound (listing calls) nothing ts)
    {router destination nextHop : String} {t : Transaction StaticRoute}
    (h : (addRoute router destination nextHop).Ends ts drawn t) :
    Issued calls ts drawn t.operations := by
  rcases of_bind h with ⟨_, row, _, rfl, hrow, hrest⟩
  rcases of_bind hrest with ⟨_, uuid, _, rfl, huuid, hrest⟩
  rcases of_bind hrest with ⟨_, target, _, rfl, _, hrest⟩
  rcases of_bind hrest with ⟨_, via, _, rfl, _, hrest⟩
  rcases of_bind hrest with ⟨_, route, _, rfl, hroute, hwrite⟩
  rcases of_pure hwrite with ⟨rfl, rfl⟩
  rcases of_requireParent hrow with ⟨_, hget⟩
  rcases of_input hroute with ⟨_, hbuild⟩
  have hrow := get?_of_get? hts.wellFormed hget
  refine .attach ⟨fun c => by cases c <;> rfl, rfl, _, hrow, trivial⟩ ?_
  rw [of_drawUuid huuid]
  simp [Row.uuid, StaticRoute.uuid_of_build hbuild]

/-- Some of the routes of a router go off it. -/
theorem issued_routesGone (hts : Sound (listing calls) nothing ts) {router : Router}
    (hrouter : (ts .router).get? router.uuid = some (.router router)) {goes : String → Prop}
    {ops : List Operation}
    (hops : ∀ op, op ∈ ops ↔ ∃ u ∈ router.staticRoutes, goes u ∧
      (op = .removeRefs .router (.uuid router.uuid) .staticRoutes [u] ∨
        op = .delete .staticRoute (.uuid u))) :
    Issued calls ts drawn ops := by
  refine .remove (fun op hop => ?_) fun _ => ?_
  · rcases (hops op).mp hop with ⟨u, hu, hgoes, rfl | rfl⟩
    · refine .reference fun t howner => ?_
      cases t <;> cases howner
      exact (hops _).mpr ⟨u, hu, hgoes, .inr rfl⟩
    · exact .owned rfl
  · intro t u hop ht o k row c hrow htarget hu
    rcases (hops _).mp hop with ⟨v, hv, hgoes, heq | heq⟩
    · cases heq
    · cases heq
      have howner := RefColumn.owner?_of_target? htarget ht (by decide) (by decide)
      have howner' := howner
      cases howner'
      have hkey := hts.one howner hrow hrouter hu hv
      refine ⟨_, (hops _).mpr ⟨u, hv, hgoes, .inl rfl⟩, .removeRefs ?_ (by simp)⟩
      simp [Lookup.addresses, hts.wellFormed.uuid_eq hrow, hkey]

/-- A route to the destination goes off the router. -/
theorem of_dropRoute (target : NetAddress) (router : String) {uuid : String} {vs : List String}
    {ops : List Operation}
    (h : (do
      let route ← Plan.fetch StaticRoute (.uuid uuid)
      if route.any fun r => r.destination == target then
        return [
          .removeRefs .router (.uuid router) .staticRoutes [uuid],
          deleteOperation .staticRoute uuid]
      else
        return [] : Plan (List Operation)).Ends ts vs ops) :
    vs = [] ∧ ∀ op, op ∈ ops ↔
      ((∃ r, ts.get? .staticRoute (.uuid uuid) = some (.staticRoute r) ∧ r.destination = target) ∧
        (op = .removeRefs .router (.uuid router) .staticRoutes [uuid] ∨
          op = .delete .staticRoute (.uuid uuid))) := by
  rcases of_bind h with ⟨us, route, ws, rfl, hfetch, hdone⟩
  rcases of_fetch hfetch with ⟨rfl, hread⟩
  change ts.get? .staticRoute (.uuid uuid) = route.map .staticRoute at hread
  rw [hread]
  split at hdone
  · rename_i hany
    rcases of_pure hdone with ⟨rfl, rfl⟩
    constructor
    · rfl
    · intro op
      cases route with
      | none =>
          cases hany
      | some r =>
          have heq : r.destination = target := by
            simpa using hany
          simp [heq, deleteOperation]
  · rename_i hany
    rcases of_pure hdone with ⟨rfl, rfl⟩
    constructor
    · rfl
    · intro op
      cases route with
      | none =>
          simp
      | some r =>
          have hne : r.destination ≠ target := by
            simpa using hany
          simp [hne]

theorem issued_deleteRoute (hts : Sound (listing calls) nothing ts) {router destination : String}
    {t : Transaction Unit} (h : (deleteRoute router destination).Ends ts drawn t) :
    Issued calls ts drawn t.operations := by
  rcases of_bind h with ⟨_, target, _, _, _, hrest⟩
  rcases of_bind hrest with ⟨_, found, _, _, hfound, hrest⟩
  cases found with
  | none =>
      rcases of_pure hrest with ⟨_, rfl⟩
      exact .reads
  | some row =>
      rcases of_bind hrest with ⟨_, gone, _, _, hgone, hrest⟩
      rcases of_pure hrest with ⟨_, rfl⟩
      rcases of_fetch hfound with ⟨_, hget⟩
      have hmemGone := (of_gather (fun uuid vs cs => of_dropRoute target row.uuid) hgone).2
      exact issued_routesGone hts (get?_of_get? hts.wellFormed hget) hmemGone

/-! ## NAT rules -/

theorem issued_attachNat (hts : Sound (listing calls) nothing ts) {router : String}
    {rule : NatRule} (hdrawn : rule.uuid ∈ drawn) {us : List String} {t : Transaction NatRule}
    (h : (attachNat router rule).Ends ts us t) : Issued calls ts drawn t.operations := by
  rcases of_bind h with ⟨_, row, _, _, hrow, hwrite⟩
  rcases of_pure hwrite with ⟨_, rfl⟩
  rcases of_requireParent hrow with ⟨_, hget⟩
  have hfound := get?_of_get? hts.wellFormed hget
  refine .attach ⟨fun c => by cases c <;> rfl, rfl, _, hfound, ?_⟩ hdrawn
  show TextMap.get? _ ExternalId.router = _
  rw [name?_of_get? hts.wellFormed hget]
  exact TextMap.get?_insert_self _ _ _

theorem issued_createFloatingIp (hts : Sound (listing calls) nothing ts)
    {router floating internal : String} {t : Transaction NatRule}
    (h : (createFloatingIp router floating internal).Ends ts drawn t) :
    Issued calls ts drawn t.operations := by
  rcases of_bind h with ⟨_, uuid, _, rfl, huuid, hrest⟩
  rcases of_bind hrest with ⟨_, external, _, rfl, _, hrest⟩
  rcases of_bind hrest with ⟨_, logical, _, rfl, _, hrest⟩
  rcases of_bind hrest with ⟨_, rule, _, rfl, hrule, hrest⟩
  rcases of_input hrule with ⟨_, hbuild⟩
  refine issued_attachNat hts ?_ hrest
  rw [of_drawUuid huuid]
  simp [NatRule.uuid_of_build hbuild]

theorem issued_createSnat (hts : Sound (listing calls) nothing ts)
    {router external subnet : String} {t : Transaction NatRule}
    (h : (createSnat router external subnet).Ends ts drawn t) :
    Issued calls ts drawn t.operations := by
  rcases of_bind h with ⟨_, uuid, _, rfl, huuid, hrest⟩
  rcases of_bind hrest with ⟨_, external, _, rfl, _, hrest⟩
  rcases of_bind hrest with ⟨_, logical, _, rfl, _, hrest⟩
  rcases of_bind hrest with ⟨_, rule, _, rfl, hrule, hrest⟩
  rcases of_input hrule with ⟨_, hbuild⟩
  refine issued_attachNat hts ?_ hrest
  rw [of_drawUuid huuid]
  simp [NatRule.uuid_of_build hbuild]

/-- The rule goes off every router with the name that it bears. -/
def GoesOff (ts : Tables) (rule : NatRule) (op : Operation) : Prop :=
  ∃ k row, (ts .router).get? k = some row ∧ rule.uuid ∈ row.refs .nat ∧
    (∀ name, rule.router? = some name → row.name? = some name) ∧
    op = .removeRefs .router (.uuid k) .nat [rule.uuid]

theorem of_removeNat (hts : ts.WellFormed) {rule : NatRule} {vs : List String}
    {ops : List Operation} (h : (removeNat rule).Ends ts vs ops) :
    vs = [] ∧ ∀ op, op ∈ ops ↔ (GoesOff ts rule op ∨ op = .delete .nat (.uuid rule.uuid)) := by
  unfold removeNat at h
  dsimp only at h
  split at h
  · rename_i name hname
    rcases of_bind h with ⟨us, routers, ws, rfl, hrouters, hdone⟩
    rcases of_map hrouters with ⟨found, hfound, rfl⟩
    rcases of_fetch hfound with ⟨rfl, hget⟩
    rcases of_pure hdone with ⟨rfl, rfl⟩
    constructor
    · rfl
    · intro op
      rw [List.mem_append, List.mem_singleton]
      refine or_congr_left ⟨fun hop => ?_, ?_⟩
      · rcases List.mem_map.mp hop with ⟨r, hr, rfl⟩
        rcases List.mem_filter.mp hr with ⟨hmem, hu⟩
        rw [Option.mem_toList] at hmem
        rw [hmem] at hget
        have hmemNat : rule.uuid ∈ r.nat := by
          simpa using hu
        refine ⟨_, _, get?_of_get? hts hget, hmemNat, fun name' hname' => ?_, rfl⟩
        rw [hname] at hname'
        cases hname'
        exact name?_of_get? hts hget
      · intro hfound
        rcases hfound with ⟨k, row, hrow, hu, hrouter, rfl⟩
        have haddresses : (Lookup.name name).addresses row = true := by
          simp [Lookup.addresses, hrouter name hname]
        have hread := hts.get?_of_addresses hrow haddresses (.inr rfl)
        change ts.get? .router (.name name) = found.map .router at hget
        rw [hread] at hget
        rcases Option.map_eq_some_iff.mp hget.symm with ⟨r, rfl, rfl⟩
        rw [← hts.uuid_eq hrow]
        change rule.uuid ∈ r.nat at hu
        exact List.mem_map.mpr ⟨r, List.mem_filter.mpr ⟨by simp, by simpa using hu⟩, rfl⟩
  · rename_i hname
    rcases of_bind h with ⟨us, routers, ws, rfl, hlist, hdone⟩
    rcases of_listAll hlist with ⟨rfl, hrouters⟩
    rcases of_pure hdone with ⟨rfl, rfl⟩
    constructor
    · rfl
    · intro op
      rw [List.mem_append, List.mem_singleton]
      refine or_congr_left ((mem_unlists_of_listAll hts hrouters rule.uuid .nat op).trans ?_)
      constructor
      · intro hfound
        rcases hfound with ⟨k, row, hrow, hu, rfl⟩
        refine ⟨k, row, hrow, hu, fun name hrouter => ?_, rfl⟩
        rw [hname] at hrouter
        cases hrouter
      · intro hfound
        rcases hfound with ⟨k, row, hrow, hu, _, rfl⟩
        exact ⟨k, row, hrow, hu, rfl⟩

/-- Rules that are there go off their routers. -/
theorem issued_natGone (hts : Sound (listing calls) nothing ts) (rules : List NatRule)
    (hrules : ∀ rule ∈ rules, (ts .nat).get? rule.uuid = some (.nat rule)) {ops : List Operation}
    (hops : ∀ op, op ∈ ops ↔
      ∃ rule ∈ rules, GoesOff ts rule op ∨ op = .delete .nat (.uuid rule.uuid)) :
    Issued calls ts drawn ops := by
  refine .remove (fun op hop => ?_) fun _ => ?_
  · rcases (hops op).mp hop with ⟨rule, hrule, ⟨k, row, _, _, _, rfl⟩ | rfl⟩
    · refine .reference fun t howner => ?_
      cases t <;> cases howner
      exact (hops _).mpr ⟨rule, hrule, .inr rfl⟩
    · exact .owned rfl
  · intro t u hop ht o k row c hrow htarget hu
    rcases (hops _).mp hop with ⟨rule, hrule, ⟨_, _, _, _, _, heq⟩ | heq⟩
    · cases heq
    · cases heq
      cases RefColumn.owner?_of_target? htarget ht (by decide) (by decide)
      rcases exists_lists hts hrow htarget hu with ⟨r, hr, hfits⟩
      rw [hrules rule hrule] at hr
      cases hr
      have hname : ∀ name, rule.router? = some name → row.name? = some name := by
        intro name hrouter
        rw [← hrouter]
        exact hfits.symm
      have hmem := (hops _).mpr ⟨rule, hrule, .inl ⟨k, row, hrow, hu, hname, rfl⟩⟩
      refine ⟨_, hmem, .removeRefs ?_ (by simp)⟩
      simp [Lookup.addresses, hts.wellFormed.uuid_eq hrow]

theorem issued_deleteFloatingIp (hts : Sound (listing calls) nothing ts) {floating : String}
    {t : Transaction Unit} (h : (deleteFloatingIp floating).Ends ts drawn t) :
    Issued calls ts drawn t.operations := by
  rcases of_bind h with ⟨_, rules, _, _, hrules, hrest⟩
  rcases of_bind hrest with ⟨_, gone, _, _, hgone, hwrite⟩
  rcases of_pure hwrite with ⟨_, rfl⟩
  rcases of_findAll hrules with ⟨_, hfind⟩
  exact issued_natGone hts rules (fun rule hrule => (get?_of_find hts.wellFormed hfind hrule).1)
    (of_gather (fun rule vs cs => of_removeNat hts.wellFormed) hgone).2

theorem issued_deleteNat (hts : Sound (listing calls) nothing ts) {uuid : String}
    {t : Transaction Unit} (h : (deleteNat uuid).Ends ts drawn t) :
    Issued calls ts drawn t.operations := by
  rcases of_bind h with ⟨_, found, _, _, hfound, hrest⟩
  cases found with
  | none =>
      rcases of_pure hrest with ⟨_, rfl⟩
      exact .reads
  | some rule =>
      rcases of_bind hrest with ⟨_, gone, _, _, hgone, hwrite⟩
      rcases of_pure hwrite with ⟨_, rfl⟩
      rcases of_fetch hfound with ⟨_, hget⟩
      have hmemGone := (of_removeNat hts.wellFormed hgone).2
      refine issued_natGone hts [rule] ?_ fun op => ?_
      · intro rule' hrule'
        rw [List.mem_singleton.mp hrule']
        exact get?_of_get? hts.wellFormed hget
      · rw [hmemGone]
        simp

end Client
end LogicalNet
