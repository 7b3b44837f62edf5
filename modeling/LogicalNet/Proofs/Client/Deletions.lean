import LogicalNet.Proofs.Client.Interfaces
import LogicalNet.Proofs.Store.Frame

/-!
# Deletions

A deletion reads what there is to delete and takes it away in one transaction.  It
succeeds whatever it finds.  A row that it leaves was there before under the same name
and with the same external ids, so that the deletion, made again, finds nothing that
it has not already tried to take away.
-/

namespace LogicalNet

/-! ## Tables without references -/

namespace Row

theorem mapReferences_of_target?_eq_none (f : List String → List String) {c : RefColumn} {r : Row}
    (h : c.target? r.table = none) : r.mapReferences f c = r := by
  cases c <;> cases r <;> first | rfl | cases h

end Row

/-- What routers own refers to nothing. -/
theorem Table.bare_of_owner? {t : Table} {c : RefColumn} (h : t.owner? = some (.router, c))
    (c' : RefColumn) : c'.target? t = none := by
  cases t <;> cases h <;> cases c' <;> rfl

theorem Plan.Total.of_input {α : Type} {ts : Tables} {x : Except InputFault α} {a : α}
    (h : x = .ok a) : (liftM x : Plan α).Total ts := by
  subst h
  exact .done a

namespace Client

open Tables Plan.Ends

variable {ts us : Tables} {ops : List Operation} {drawn drawn' : List String}

/-- A row without columns of references stays as it is where no keys are set. -/
theorem eq_of_revised {r s : Row} (h : Revised ops r s)
    (hbare : ∀ c : RefColumn, c.target? r.table = none)
    (hkeys : ∀ l c entries, .setKeys r.table l c entries ∉ ops) : s = r := by
  induction h with
  | refl =>
      rfl
  | drop _ p c ih =>
      rw [ih]
      exact Row.mapReferences_of_target?_eq_none _ (hbare c)
  | @add _ _ c _ _ _ _ ih =>
      rw [ih]
      exact Row.mapReferences_of_target?_eq_none _ (hbare c)
  | keys _ hop _ ih =>
      rw [ih] at hop
      exact absurd hop (hkeys _ _ _)

/-! ## Rows that are left -/

/-- The operations take away, and lead from the first tables to the others. -/
structure Reduces (ops : List Operation) (ts us : Tables) : Prop where
  wellFormed : ts.WellFormed
  removes : ∀ op ∈ ops, Removes op
  applied : ts.applyAll ops = .ok us

namespace Reduces

variable {table : Table} {lookup : Lookup} {key value name k u : String} {c : RefColumn} {s : Row}

theorem wellFormed_after (h : Reduces ops ts us) : us.WellFormed :=
  h.wellFormed.applyAll h.applied

theorem setKeys_not_mem (h : Reduces ops ts us) (table : Table) (lookup : Lookup)
    (c : MapColumn) (entries : TextMap String) : .setKeys table lookup c entries ∉ ops := by
  intro hmem
  cases h.removes _ hmem

/-- Every row was there before, and has only lost references. -/
theorem exists_row (h : Reduces ops ts us) (hs : (us table).get? k = some s) :
    ∃ r, (ts table).get? k = some r ∧ Revised ops r s := by
  obtain ⟨r, hr | ⟨hputs, _⟩, hrevised⟩ := exists_revised_of_applyAll h.wellFormed h.applied hs
  · exact ⟨r, hr, hrevised⟩
  · cases hputs with
    | inl hinsert => cases h.removes _ hinsert
    | inr hupdate => cases h.removes _ hupdate

/-- Rows of tables without columns of references are as they were. -/
theorem get?_of_bare (h : Reduces ops ts us) (hbare : ∀ c : RefColumn, c.target? table = none)
    (hs : (us table).get? k = some s) : (ts table).get? k = some s := by
  obtain ⟨r, hr, hrevised⟩ := h.exists_row hs
  have hsame : s = r := by
    apply eq_of_revised hrevised
    · intro c
      rw [h.wellFormed.table_eq hr]
      exact hbare c
    · exact h.setKeys_not_mem _
  rw [hsame]
  exact hr

theorem bears (h : Reduces ops ts us) (hbears : Bears us table key value u) :
    Bears ts table key value u := by
  obtain ⟨s, hs, hvalue⟩ := hbears
  obtain ⟨r, hr, hrevised⟩ := h.exists_row hs
  rw [hrevised.externalIds (h.setKeys_not_mem _)] at hvalue
  exact ⟨r, hr, hvalue⟩

theorem stored (h : Reduces ops ts us) (hindex : table.hasNameIndex = true)
    (hstored : Stored us table name u) : Stored ts table name u := by
  obtain ⟨s, hs, hname⟩ := (stored_iff h.wellFormed_after hindex).mp hstored
  obtain ⟨r, hr, hrevised⟩ := h.exists_row hs
  exact (stored_iff h.wellFormed hindex).mpr ⟨r, hr, hrevised.name?.symm.trans hname⟩

theorem listedIn (h : Reduces ops ts us) (hindex : table.hasNameIndex = true)
    (hlisted : ListedIn us table name c u) : ListedIn ts table name c u := by
  obtain ⟨k, s, hs, hname, hu⟩ := (listedIn_iff h.wellFormed_after hindex).mp hlisted
  obtain ⟨r, hr, hrevised⟩ := h.exists_row hs
  have hmem : u ∈ r.refs c := by
    cases hrevised.mem_refs hu with
    | inl hold =>
        exact hold
    | inr hadded =>
        obtain ⟨l, uuids, hop, _⟩ := hadded
        cases h.removes _ hop
  exact (listedIn_iff h.wellFormed hindex).mpr
    ⟨k, r, hr, hrevised.name?.symm.trans hname, hmem⟩

/-- What is deleted by what tells it from all others is not found any more. -/
theorem get?_eq_none (h : Reduces ops ts us) (hlasts : Lasts (.delete table lookup))
    (hmem : .delete table lookup ∈ ops) : us.get? table lookup = none := by
  obtain ⟨front, rest, rfl⟩ := List.append_of_mem hmem
  obtain ⟨vs, hfront, hrest⟩ := applyAll_append_eq_ok_iff.mp h.applied
  obtain ⟨ws, hdelete, hrest⟩ := applyAll_cons_eq_ok_iff.mp hrest
  have hvs := h.wellFormed.applyAll hfront
  have hws := hvs.apply hdelete
  have hnone : ws.get? table lookup = none :=
    get?_eq_none_of_effect hvs hlasts (effect_of_apply hvs hdelete)
  have hreduces : Reduces rest ws us :=
    ⟨hws, fun op hop => h.removes op (by simp [hop]), hrest⟩
  cases hget : us.get? table lookup with
  | none =>
      rfl
  | some s =>
      -- the row would have been there right after the deletion, under the same lookup
      obtain ⟨hkey, hs⟩ := h.wellFormed_after.get?_eq_some_iff.mp hget
      obtain ⟨r, hr, hrevised⟩ := hreduces.exists_row hs
      have haddresses := (h.wellFormed_after.addressed hkey hs).2.addresses
      rw [hrevised.addresses] at haddresses
      rw [hws.get?_of_addresses hr haddresses (unique_of_lasts hlasts)] at hnone
      cases hnone

/-- A deletion that has been made has nothing to do. -/
theorem apply_delete (h : Reduces ops ts us) (hlasts : Lasts (.delete table lookup))
    (hmem : .delete table lookup ∈ ops) : us.apply (.delete table lookup) = .ok us := by
  have hnone := h.get?_eq_none hlasts hmem
  apply congrArg Except.ok
  cases hkey : us.findKey? table lookup with
  | none =>
      exact delete_eq_self hkey
  | some key =>
      obtain ⟨row, hrow, _⟩ := h.wellFormed_after.get?_of_findKey? hkey
      have hget : us.get? table lookup = some row := by
        rw [Tables.get?, hkey]
        exact hrow
      rw [hget] at hnone
      cases hnone

/-- A row is gone when it has been deleted by what tells it from all others. -/
theorem get?_eq_none_of_addresses (h : Reduces ops ts us) {row : Row}
    (hrow : (ts table).get? u = some row) (haddresses : lookup.addresses row = true)
    (hlasts : Lasts (.delete table lookup)) (hmem : .delete table lookup ∈ ops) :
    (us table).get? u = none := by
  cases hget : (us table).get? u with
  | none =>
      rfl
  | some s =>
      -- it would still be found by what it was deleted by
      obtain ⟨r, hr, hrevised⟩ := h.exists_row hget
      rw [hrow] at hr
      cases hr
      rw [← hrevised.addresses] at haddresses
      have hnone := h.get?_eq_none hlasts hmem
      rw [h.wellFormed_after.get?_of_addresses hget haddresses (unique_of_lasts hlasts)] at hnone
      cases hnone

theorem get?_uuid_eq_none (h : Reduces ops ts us) (hmem : .delete table (.uuid u) ∈ ops) :
    (us table).get? u = none := by
  rw [← get?_uuid]
  exact h.get?_eq_none trivial hmem

theorem not_bears (h : Reduces ops ts us) (hmem : .delete table (.uuid u) ∈ ops) :
    ¬ Bears us table key value u := by
  intro hbears
  obtain ⟨s, hs, _⟩ := hbears
  rw [h.get?_uuid_eq_none hmem] at hs
  cases hs

theorem not_stored (h : Reduces ops ts us) (hmem : .delete table (.uuid u) ∈ ops) :
    ¬ Stored us table name u := by
  intro hstored
  obtain ⟨s, hget, rfl⟩ := hstored
  have hs := get?_of_get? h.wellFormed_after hget
  rw [h.get?_uuid_eq_none hmem] at hs
  cases hs

end Reduces

theorem ListedIn.exists_stored {table : Table} {name u : String} {c : RefColumn}
    (h : ListedIn ts table name c u) : ∃ v, Stored ts table name v := by
  obtain ⟨row, hget, _⟩ := h
  exact ⟨row.uuid, row, hget, rfl⟩

/-! ## Plans that take away once and for all -/

/-- The plan comes to its end and only takes away; what it ends with afterwards does nothing. -/
structure Sweeps (p : Plan (Transaction Unit)) : Prop where
  total : ∀ {ts : Tables}, ts.WellFormed → p.Total ts
  removes : ∀ {ts : Tables} {drawn t}, ts.WellFormed → p.Ends ts drawn t →
    ∀ op ∈ t.operations, Removes op
  settled : ∀ {ts us : Tables} {drawn drawn' t t'}, p.Ends ts drawn t →
    Reduces t.operations ts us → p.Ends us drawn' t' → ∀ op ∈ t'.operations, us.apply op = .ok us

theorem applyAll_eq_self (h : ∀ op ∈ ops, us.apply op = .ok us) : us.applyAll ops = .ok us := by
  induction ops with
  | nil =>
      rfl
  | cons op rest ih =>
      exact applyAll_cons_eq_ok_iff.mpr
        ⟨us, h op (by simp), ih fun op' hop' => h op' (by simp [hop'])⟩

namespace Sweeps

variable {p : Plan (Transaction Unit)} {ι : Type} [IdSource ι] {m : Memory}

/-- Every time the plan is performed it takes away what it has read. -/
theorem perform (h : Sweeps p) (hm : m.tables.WellFormed) (ids : ι) :
    ∃ drawn t us, p.Ends m.tables drawn t ∧ Reduces t.operations m.tables us ∧
      ((toDone p).perform m ids).1 = .ok .done ∧
      ((toDone p).perform m ids).2.1 = { m with tables := us } := by
  have htotal : (toDone p).Total m.tables := (h.total hm).bind fun _ _ _ => .done _
  obtain ⟨t', hrun⟩ := htotal.exists_run ids
  obtain ⟨_, drawn, _, hends⟩ := Plan.run_spec (toDone p) m ids
  obtain ⟨vs, t, _, _, hplan, hwrite⟩ := of_bind (hends t' hrun)
  obtain ⟨_, rfl⟩ := of_pure hwrite
  have hremoves := h.removes hm hplan
  obtain ⟨us, hops⟩ := exists_applyAll_of_removes hremoves m.tables
  exact ⟨vs, t, us, hplan, ⟨hm, hremoves, hops⟩, Plan.perform_of_run hrun hops⟩

theorem perform_again (h : Sweeps p) (hm : m.tables.WellFormed) (ids ids' : ι) :
    ((toDone p).perform ((toDone p).perform m ids).2.1 ids').1 = .ok .done ∧
      ((toDone p).perform ((toDone p).perform m ids).2.1 ids').2.1 =
        ((toDone p).perform m ids).2.1 := by
  obtain ⟨_, t, us, hends, hreduces, _, hfirst⟩ := h.perform hm ids
  rw [hfirst]
  obtain ⟨_, t', vs, hends', hreduces', hdone, hsecond⟩ :=
    h.perform (m := { m with tables := us }) hreduces.wellFormed_after ids'
  have hsame := applyAll_eq_self (h.settled hends hreduces hends')
  rw [hreduces'.applied] at hsame
  cases hsame
  exact ⟨hdone, hsecond⟩

end Sweeps

/-- It is enough that the plan finds nothing to take away the second time. -/
theorem Sweeps.of_nothing_left {p : Plan (Transaction Unit)}
    (htotal : ∀ {ts : Tables}, ts.WellFormed → p.Total ts)
    (hremoves : ∀ {ts : Tables} {drawn t}, ts.WellFormed → p.Ends ts drawn t →
      ∀ op ∈ t.operations, Removes op)
    (hnothing : ∀ {ts us : Tables} {drawn drawn' t t'}, p.Ends ts drawn t →
      Reduces t.operations ts us → p.Ends us drawn' t' → ∀ op, op ∉ t'.operations) :
    Sweeps p :=
  ⟨htotal, hremoves, fun h hreduces h' op hop => absurd hop (hnothing h hreduces h' op)⟩

/-! ## Switches, ports and DHCP options -/

theorem sweeps_deleteSwitch (network : String) : Sweeps (deleteSwitch network) := by
  apply Sweeps.of_nothing_left (total_deleteSwitch · network)
    fun hts h => (expulsion_deleteSwitch hts h).removes
  intro ts us _ _ t t' h hreduces h' op hop
  have hmem := mem_deleteSwitch_iff hreduces.wellFormed h
  have hgone : ∀ u, ¬ Stored us .switch (Name.switch network) u := by
    intro u hstored
    have hdelete := (hmem _).mpr (.inr (.inr ⟨u, hreduces.stored rfl hstored, rfl⟩))
    exact hreduces.not_stored hdelete hstored
  rcases (mem_deleteSwitch_iff hreduces.wellFormed_after h' op).mp hop with
    ⟨u, hbears, _⟩ | ⟨u, hlisted, _⟩ | ⟨u, hstored, _⟩
  · have hdelete := (hmem _).mpr (.inl ⟨u, hreduces.bears hbears, rfl⟩)
    exact hreduces.not_bears hdelete hbears
  · obtain ⟨v, hstored⟩ := hlisted.exists_stored
    exact hgone v hstored
  · exact hgone u hstored

theorem sweeps_deletePort (port : String) : Sweeps (deletePort port) := by
  apply Sweeps.of_nothing_left (total_deletePort · port)
    fun hts h => (expulsion_deletePort hts h).removes
  intro ts us _ _ t t' h hreduces h' op hop
  obtain ⟨u, hstored, _⟩ := (mem_deletePort_iff hreduces.wellFormed_after h' op).mp hop
  have hdelete := (mem_deletePort_iff hreduces.wellFormed h _).mpr
    ⟨u, hreduces.stored rfl hstored, .inr (.inr rfl)⟩
  exact hreduces.not_stored hdelete hstored

theorem sweeps_deleteDhcpOptions (uuid : String) : Sweeps (deleteDhcpOptions uuid) := by
  have hops : ∀ {ts : Tables} {drawn t}, (deleteDhcpOptions uuid).Ends ts drawn t →
      t.operations = [.delete .dhcpOptions (.uuid uuid)] := by
    intro ts _ t h
    obtain ⟨_, rfl⟩ := of_pure h
    rfl
  constructor
  · intro ts _
    exact .done _
  · intro ts _ t _ h op hop
    rw [hops h] at hop
    rw [List.mem_singleton.mp hop]
    exact .delete _ _
  · intro ts us _ _ t t' h hreduces h' op hop
    rw [hops h'] at hop
    rw [List.mem_singleton.mp hop]
    exact hreduces.apply_delete trivial (by simp [hops h])

/-! ## Routers and interfaces -/

theorem sweeps_deleteRouter (router : String) : Sweeps (deleteRouter router) := by
  apply Sweeps.of_nothing_left (total_deleteRouter · router)
    fun hts h => removes_deleteRouter hts h
  intro ts us _ _ t t' h hreduces h' op hop
  have hgone : ∀ u, ¬ Stored us .router (Name.router router) u := by
    intro u hstored
    have hdelete := (mem_deleteRouter_iff hreduces.wellFormed h _).mpr
      (.inr (.inr ⟨u, hreduces.stored rfl hstored, rfl⟩))
    exact hreduces.not_stored hdelete hstored
  rcases (mem_deleteRouter_iff hreduces.wellFormed_after h' op).mp hop with
    ⟨_, ⟨v, hstored⟩, _⟩ | ⟨_, _, _, _, hlisted, _⟩ | ⟨u, hstored, _⟩
  · exact hgone v hstored
  · obtain ⟨v, hstored⟩ := hlisted.exists_stored
    exact hgone v hstored
  · exact hgone u hstored

theorem sweeps_removeInterface (router network : String) :
    Sweeps (removeInterface router network) := by
  apply Sweeps.of_nothing_left (total_removeInterface · router network)
    fun _ h => removes_removeInterface h
  intro ts us _ _ t t' h hreduces h' op hop
  have hmem := mem_removeInterface_iff h
  rcases (mem_removeInterface_iff h' op).mp hop with ⟨u, hstored, _⟩ | ⟨u, hstored, _⟩
  · have hdelete := (hmem _).mpr (.inl ⟨u, hreduces.stored rfl hstored, .inr rfl⟩)
    exact hreduces.not_stored hdelete hstored
  · have hdelete := (hmem _).mpr (.inr ⟨u, hreduces.stored rfl hstored, .inr rfl⟩)
    exact hreduces.not_stored hdelete hstored

/-! ## Static routes -/

/-- The router lists the route, which leads to the target. -/
def RouteOf (ts : Tables) (router : String) (target : NetAddress) (key u : String) : Prop :=
  Stored ts .router (Name.router router) key ∧
    ListedIn ts .router (Name.router router) .staticRoutes u ∧
      ∃ route : StaticRoute, (ts .staticRoute).get? u = some (.staticRoute route) ∧
        route.destination = target

theorem mem_deleteRoute_iff {router destination : String} {target : NetAddress}
    (htarget : NetAddress.read destination = .ok target) {t : Transaction Unit}
    (h : (deleteRoute router destination).Ends ts drawn t) (op : Operation) :
    op ∈ t.operations ↔ ∃ key u, RouteOf ts router target key u ∧
      (op = .removeRefs .router (.uuid key) .staticRoutes [u] ∨
        op = .delete .staticRoute (.uuid u)) := by
  obtain ⟨_, target', _, _, hread, hrest⟩ := of_bind h
  obtain ⟨_, hread⟩ := of_input hread
  rw [htarget] at hread
  cases hread
  obtain ⟨_, found, _, _, hfound, hrest⟩ := of_bind hrest
  obtain ⟨_, hget⟩ := of_fetch hfound
  change ts.get? .router _ = found.map .router at hget
  cases found with
  | none =>
      obtain ⟨_, rfl⟩ := of_pure hrest
      simp [RouteOf, Stored, hget]
  | some row =>
      obtain ⟨_, gone, _, _, hgone, hrest⟩ := of_bind hrest
      obtain ⟨_, rfl⟩ := of_pure hrest
      have hmem := (of_gather (fun uuid vs cs => of_dropRoute target row.uuid) hgone).2
      rw [hmem]
      simp [RouteOf, Stored, ListedIn, hget, Row.refs, Row.references?, Row.uuid, get?_uuid,
        and_assoc]

theorem total_deleteRoute {destination : String} {target : NetAddress}
    (htarget : NetAddress.read destination = .ok target) (hts : ts.WellFormed) (router : String) :
    (deleteRoute router destination).Total ts := by
  apply Plan.Total.bind (Plan.Total.of_input htarget)
  intro _ target _
  apply Plan.Total.bind (.fetch hts _)
  intro _ found _
  cases found with
  | none =>
      exact .done _
  | some row =>
      apply Plan.Total.bind (.gather (fun uuid => ?_) row.staticRoutes)
      · intro _ gone _
        exact .done _
      · apply Plan.Total.bind (.fetch hts _)
        intro _ route _
        split
        · exact .done _
        · exact .done _

theorem Reduces.routeOf {router key u : String} {target : NetAddress} (h : Reduces ops ts us)
    (hroute : RouteOf us router target key u) : RouteOf ts router target key u := by
  obtain ⟨hstored, hlisted, route, hrow, htarget⟩ := hroute
  exact ⟨h.stored rfl hstored, h.listedIn rfl hlisted, route,
    h.get?_of_bare (Table.bare_of_owner? rfl) hrow, htarget⟩

theorem Reduces.get?_of_routeOf {router destination key u : String} {target : NetAddress}
    {t : Transaction Unit} (h : Reduces t.operations ts us)
    (htarget : NetAddress.read destination = .ok target)
    (hends : (deleteRoute router destination).Ends ts drawn t)
    (hroute : RouteOf ts router target key u) : (us .staticRoute).get? u = none :=
  h.get?_uuid_eq_none ((mem_deleteRoute_iff htarget hends _).mpr ⟨key, u, hroute, .inr rfl⟩)

theorem sweeps_deleteRoute {destination : String} {target : NetAddress}
    (htarget : NetAddress.read destination = .ok target) (router : String) :
    Sweeps (deleteRoute router destination) := by
  apply Sweeps.of_nothing_left (total_deleteRoute htarget · router)
  · intro ts _ t _ h op hop
    obtain ⟨key, u, _, rfl | rfl⟩ := (mem_deleteRoute_iff htarget h op).mp hop
    · exact .removeRefs _ _ rfl
    · exact .delete _ _
  · intro ts us _ _ t t' h hreduces h' op hop
    obtain ⟨key, u, hroute, _⟩ := (mem_deleteRoute_iff htarget h' op).mp hop
    have hnone := hreduces.get?_of_routeOf htarget h (hreduces.routeOf hroute)
    obtain ⟨_, _, route, hrow, _⟩ := hroute
    rw [hnone] at hrow
    cases hrow

/-! ## NAT rules -/

theorem GoesOff.removes {rule : NatRule} {op : Operation} (h : GoesOff ts rule op) :
    Removes op := by
  obtain ⟨_, _, _, _, _, rfl⟩ := h
  exact .removeRefs _ _ rfl

theorem total_removeNat (hts : ts.WellFormed) (rule : NatRule) : (removeNat rule).Total ts := by
  unfold removeNat
  dsimp only
  split
  · apply Plan.Total.bind
    · apply Plan.Total.bind (.fetch hts _)
      intro _ router _
      exact .done _
    · intro _ routers _
      exact .done _
  · apply Plan.Total.bind (.listAll hts)
    intro _ routers _
    exact .done _

/-- The rules that were made for the address go, off their routers. -/
theorem mem_deleteFloatingIp_iff (hts : ts.WellFormed) {floating : String} {t : Transaction Unit}
    (h : (deleteFloatingIp floating).Ends ts drawn t) (op : Operation) :
    op ∈ t.operations ↔ ∃ rule : NatRule, (ts .nat).get? rule.uuid = some (.nat rule) ∧
      rule.externalIds.get? ExternalId.floatingIp = some floating ∧
        (GoesOff ts rule op ∨ op = .delete .nat (.uuid rule.uuid)) := by
  obtain ⟨_, rules, _, _, hrules, hrest⟩ := of_bind h
  obtain ⟨_, gone, _, _, hgone, hwrite⟩ := of_bind hrest
  obtain ⟨_, rfl⟩ := of_pure hwrite
  obtain ⟨_, hfind⟩ := of_findAll hrules
  change ts.find .nat _ _ = _ at hfind
  rw [(of_gather (fun rule vs cs => of_removeNat hts) hgone).2]
  constructor
  · intro hop
    obtain ⟨rule, hrule, hop⟩ := hop
    obtain ⟨hrow, hbears⟩ := get?_of_find hts hfind hrule
    exact ⟨rule, hrow, hbears, hop⟩
  · intro hop
    obtain ⟨rule, hrow, hbears, hop⟩ := hop
    obtain ⟨rule', hrule', huuid⟩ := (mem_find_iff hts hfind).mpr ⟨_, hrow, hbears⟩
    have hrow' := (get?_of_find hts hfind hrule').1
    rw [huuid, hrow] at hrow'
    cases hrow'
    exact ⟨rule, hrule', hop⟩

theorem mem_deleteNat_iff (hts : ts.WellFormed) {uuid : String} {t : Transaction Unit}
    (h : (deleteNat uuid).Ends ts drawn t) (op : Operation) :
    op ∈ t.operations ↔ ∃ rule : NatRule, (ts .nat).get? uuid = some (.nat rule) ∧
      rule.uuid = uuid ∧ (GoesOff ts rule op ∨ op = .delete .nat (.uuid uuid)) := by
  obtain ⟨_, found, _, _, hfound, hrest⟩ := of_bind h
  obtain ⟨_, hget⟩ := of_fetch hfound
  change ts.get? .nat _ = found.map .nat at hget
  rw [get?_uuid] at hget
  cases found with
  | none =>
      obtain ⟨_, rfl⟩ := of_pure hrest
      simp [hget]
  | some rule =>
      obtain ⟨_, gone, _, _, hgone, hwrite⟩ := of_bind hrest
      obtain ⟨_, rfl⟩ := of_pure hwrite
      rw [(of_removeNat hts hgone).2]
      have huuid : rule.uuid = uuid := hts.uuid_eq hget
      simp [hget, huuid]

theorem sweeps_deleteFloatingIp (floating : String) : Sweeps (deleteFloatingIp floating) := by
  apply Sweeps.of_nothing_left
  · intro ts hts
    apply Plan.Total.bind (.findAll hts _ _)
    intro _ rules _
    apply Plan.Total.bind (.gather (total_removeNat hts) rules)
    intro _ gone _
    exact .done _
  · intro ts _ t hts h op hop
    obtain ⟨rule, _, _, hoff | rfl⟩ := (mem_deleteFloatingIp_iff hts h op).mp hop
    · exact hoff.removes
    · exact .delete _ _
  · intro ts us _ _ t t' h hreduces h' op hop
    obtain ⟨rule, hrow, hbears, _⟩ :=
      (mem_deleteFloatingIp_iff hreduces.wellFormed_after h' op).mp hop
    have hold := hreduces.get?_of_bare (Table.bare_of_owner? rfl) hrow
    have hdelete := (mem_deleteFloatingIp_iff hreduces.wellFormed h _).mpr
      ⟨rule, hold, hbears, .inr rfl⟩
    rw [hreduces.get?_uuid_eq_none hdelete] at hrow
    cases hrow

theorem sweeps_deleteNat (uuid : String) : Sweeps (deleteNat uuid) := by
  apply Sweeps.of_nothing_left
  · intro ts hts
    apply Plan.Total.bind (.fetch hts _)
    intro _ found _
    cases found with
    | none =>
        exact .done _
    | some rule =>
        apply Plan.Total.bind (total_removeNat hts rule)
        intro _ gone _
        exact .done _
  · intro ts _ t hts h op hop
    obtain ⟨rule, _, _, hoff | rfl⟩ := (mem_deleteNat_iff hts h op).mp hop
    · exact hoff.removes
    · exact .delete _ _
  · intro ts us _ _ t t' h hreduces h' op hop
    obtain ⟨rule, hrow, huuid, _⟩ := (mem_deleteNat_iff hreduces.wellFormed_after h' op).mp hop
    have hold := hreduces.get?_of_bare (Table.bare_of_owner? rfl) hrow
    have hdelete := (mem_deleteNat_iff hreduces.wellFormed h _).mpr
      ⟨rule, hold, huuid, .inr rfl⟩
    rw [hreduces.get?_uuid_eq_none hdelete] at hrow
    cases hrow

/-! ## Security groups -/

theorem mem_deleteGroup_iff {group : String} {t : Transaction Unit}
    (h : (deleteGroup group).Ends ts drawn t) (op : Operation) :
    op ∈ t.operations ↔
      (∃ u, ListedIn ts .portGroup (Name.portGroup group) .acls u ∧
        op = .delete .acl (.uuid u)) ∨
      (∃ u, Stored ts .portGroup (Name.portGroup group) u ∧ op = .delete .portGroup (.uuid u)) ∨
      op = .delete .addressSet (.name (Name.addressSet group)) := by
  obtain ⟨_, old, _, _, hold, hwrite⟩ := of_bind h
  obtain ⟨_, rfl⟩ := of_pure hwrite
  obtain ⟨_, hget⟩ := of_fetch hold
  change ts.get? .portGroup _ = old.map .portGroup at hget
  cases old with
  | none =>
      simp [ListedIn, Stored, hget]
  | some row =>
      simp [ListedIn, Stored, hget, removeGroup, deleteOperation, Row.refs, Row.references?,
        Row.uuid, eq_comm]

theorem sweeps_deleteGroup (group : String) : Sweeps (deleteGroup group) := by
  constructor
  · exact fun hts => total_deleteGroup hts group
  · intro ts _ t _ h op hop
    rcases (mem_deleteGroup_iff h op).mp hop with ⟨_, _, rfl⟩ | ⟨_, _, rfl⟩ | rfl
    · exact .delete _ _
    · exact .delete _ _
    · exact .delete _ _
  · intro ts us _ _ t t' h hreduces h' op hop
    have hmem := mem_deleteGroup_iff h
    have hgone : ∀ u, ¬ Stored us .portGroup (Name.portGroup group) u := by
      intro u hstored
      have hdelete := (hmem _).mpr (.inr (.inl ⟨u, hreduces.stored rfl hstored, rfl⟩))
      exact hreduces.not_stored hdelete hstored
    rcases (mem_deleteGroup_iff h' op).mp hop with ⟨u, hlisted, _⟩ | ⟨u, hstored, _⟩ | rfl
    · obtain ⟨v, hstored⟩ := hlisted.exists_stored
      exact absurd hstored (hgone v)
    · exact absurd hstored (hgone u)
    · -- the set is deleted by its name each time
      exact hreduces.apply_delete rfl ((hmem _).mpr (.inr (.inr rfl)))

theorem operations_removeFromGroup {port group : String} {t : Transaction Unit}
    (h : (removeFromGroup port group).Ends ts drawn t) :
    ∃ found : Option SwitchPort,
      ts.get? .switchPort (.name (Name.switchPort port)) = found.map .switchPort ∧
      t.operations = found.toList.map fun p =>
        .removeRefs .portGroup (.name (Name.portGroup group)) .ports [p.uuid] := by
  obtain ⟨_, found, _, _, hfound, hrest⟩ := of_bind h
  obtain ⟨_, hget⟩ := of_fetch hfound
  refine ⟨found, hget, ?_⟩
  cases found with
  | none =>
      obtain ⟨_, rfl⟩ := of_pure hrest
      rfl
  | some row =>
      obtain ⟨_, rfl⟩ := of_pure hrest
      rfl

theorem sweeps_removeFromGroup (port group : String) : Sweeps (removeFromGroup port group) := by
  constructor
  · intro ts hts
    apply Plan.Total.bind (.fetch hts _)
    intro _ found _
    cases found with
    | none =>
        exact .done _
    | some row =>
        exact .done _
  · intro ts _ t _ h op hop
    obtain ⟨found, _, hoperations⟩ := operations_removeFromGroup h
    rw [hoperations] at hop
    obtain ⟨row, _, rfl⟩ := List.mem_map.mp hop
    exact .removeRefs _ _ rfl
  · intro ts us _ _ t t' h hreduces h' op hop
    obtain ⟨found, hget, hoperations⟩ := operations_removeFromGroup h
    obtain ⟨found', hget', hoperations'⟩ := operations_removeFromGroup h'
    rw [hoperations'] at hop
    obtain ⟨row', hrow', rfl⟩ := List.mem_map.mp hop
    rw [Option.mem_toList.mp hrow'] at hget'
    -- the port is the one that was read the first time
    obtain ⟨row, hstored, huuid⟩ := hreduces.stored rfl ⟨_, hget', rfl⟩
    rw [hget] at hstored
    obtain ⟨row, rfl, rfl⟩ := Option.map_eq_some_iff.mp hstored
    change row.uuid = row'.uuid at huuid
    have happlied := hreduces.applied
    rw [hoperations] at happlied
    obtain ⟨vs, hop, hdone⟩ := applyAll_cons_eq_ok_iff.mp happlied
    cases hdone
    rw [← huuid]
    exact apply_again_of_effect hreduces.wellFormed trivial
      (effect_of_apply hreduces.wellFormed hop)

/-! ## Load balancers -/

/-- The balancer goes, off the switches and the routers that it is assigned to. -/
theorem mem_deleteBalancer_iff (hts : ts.WellFormed) {balancer : String} {t : Transaction Unit}
    (h : (deleteBalancer balancer).Ends ts drawn t) (op : Operation) :
    op ∈ t.operations ↔ ∃ u, Stored ts .loadBalancer (Name.loadBalancer balancer) u ∧
      (Unlists ts .switch .loadBalancers u op ∨ Unlists ts .router .loadBalancers u op ∨
        op = .delete .loadBalancer (.uuid u)) := by
  obtain ⟨_, found, _, _, hfound, hrest⟩ := of_bind h
  obtain ⟨_, hget⟩ := of_fetch hfound
  change ts.get? .loadBalancer _ = found.map .loadBalancer at hget
  cases found with
  | none =>
      obtain ⟨_, rfl⟩ := of_pure hrest
      simp [Stored, hget]
  | some row =>
      obtain ⟨_, switches, _, _, hswitches, hrest⟩ := of_bind hrest
      obtain ⟨_, routers, _, _, hrouters, hrest⟩ := of_bind hrest
      obtain ⟨_, rfl⟩ := of_pure hrest
      obtain ⟨_, hswitches⟩ := of_listAll hswitches
      obtain ⟨_, hrouters⟩ := of_listAll hrouters
      have hoff := mem_unlists_of_listAll hts hswitches row.uuid .loadBalancers op
      have hout := mem_unlists_of_listAll hts hrouters row.uuid .loadBalancers op
      have hself : (∃ u, Stored ts .loadBalancer (Name.loadBalancer balancer) u ∧
          (Unlists ts .switch .loadBalancers u op ∨ Unlists ts .router .loadBalancers u op ∨
            op = .delete .loadBalancer (.uuid u))) ↔
          (Unlists ts .switch .loadBalancers row.uuid op ∨
            Unlists ts .router .loadBalancers row.uuid op ∨
              op = .delete .loadBalancer (.uuid row.uuid)) := by
        simp [Stored, hget, Row.uuid]
      rw [hself, List.mem_append, List.mem_append, List.mem_singleton, or_assoc]
      exact or_congr hoff (or_congr hout .rfl)

theorem sweeps_deleteBalancer (balancer : String) : Sweeps (deleteBalancer balancer) := by
  apply Sweeps.of_nothing_left
  · intro ts hts
    apply Plan.Total.bind (.fetch hts _)
    intro _ found _
    cases found with
    | none =>
        exact .done _
    | some row =>
        apply Plan.Total.bind (.listAll hts)
        intro _ switches _
        apply Plan.Total.bind (.listAll hts)
        intro _ routers _
        exact .done _
  · intro ts _ t hts h op hop
    obtain ⟨u, _, hunlists | hunlists | rfl⟩ := (mem_deleteBalancer_iff hts h op).mp hop
    · exact hunlists.removes hts
    · exact hunlists.removes hts
    · exact .delete _ _
  · intro ts us _ _ t t' h hreduces h' op hop
    obtain ⟨u, hstored, _⟩ := (mem_deleteBalancer_iff hreduces.wellFormed_after h' op).mp hop
    have hdelete := (mem_deleteBalancer_iff hreduces.wellFormed h _).mpr
      ⟨u, hreduces.stored rfl hstored, .inr (.inr rfl)⟩
    exact hreduces.not_stored hdelete hstored

/-! ## Every deletion -/

/-- The requests that take something away; static routes are taken away by a prefix that reads. -/
def Request.isDeletion : Request → Bool
  | deleteSwitch _ | deletePort _ | deleteDhcpOptions _ | deleteRouter _ | removeInterface _ _
  | deleteGroup _ | removeFromGroup _ _ | deleteFloatingIp _ | deleteNat _
  | deleteBalancer _ => true
  | deleteRoute _ destination => (NetAddress.ofText? destination).isSome
  | _ => false

theorem read_eq_ok_iff {text : String} {address : NetAddress} :
    NetAddress.read text = .ok address ↔ NetAddress.ofText? text = some address := by
  unfold NetAddress.read
  split <;> simp_all

theorem exists_read {text : String} (h : (NetAddress.ofText? text).isSome = true) :
    ∃ address, NetAddress.read text = .ok address := by
  obtain ⟨address, haddress⟩ := Option.isSome_iff_exists.mp h
  exact ⟨address, read_eq_ok_iff.mpr haddress⟩

theorem Request.exists_sweeps {r : Request} (h : r.isDeletion = true) :
    (¬ ∃ network, r = .createSwitch network) ∧ ∃ p, r.plan = toDone p ∧ Sweeps p := by
  constructor
  · intro hcreates
    obtain ⟨network, rfl⟩ := hcreates
    cases h
  cases r <;> try (cases h; done)
  case deleteSwitch network => exact ⟨_, rfl, sweeps_deleteSwitch network⟩
  case deletePort port => exact ⟨_, rfl, sweeps_deletePort port⟩
  case deleteDhcpOptions uuid => exact ⟨_, rfl, sweeps_deleteDhcpOptions uuid⟩
  case deleteRouter router => exact ⟨_, rfl, sweeps_deleteRouter router⟩
  case removeInterface router network => exact ⟨_, rfl, sweeps_removeInterface router network⟩
  case deleteRoute router destination =>
    obtain ⟨target, htarget⟩ := exists_read h
    exact ⟨_, rfl, sweeps_deleteRoute htarget router⟩
  case deleteGroup group => exact ⟨_, rfl, sweeps_deleteGroup group⟩
  case removeFromGroup port group => exact ⟨_, rfl, sweeps_removeFromGroup port group⟩
  case deleteFloatingIp floating => exact ⟨_, rfl, sweeps_deleteFloatingIp floating⟩
  case deleteNat uuid => exact ⟨_, rfl, sweeps_deleteNat uuid⟩
  case deleteBalancer balancer => exact ⟨_, rfl, sweeps_deleteBalancer balancer⟩

section Histories

variable {ι : Type} [IdSource ι] {m : Memory} {r : Request}

theorem Request.perform_deletion (h : r.isDeletion = true) (hm : m.tables.WellFormed) (ids : ι) :
    (r.perform m ids).1 = .ok .done := by
  obtain ⟨hr, p, hplan, hsweeps⟩ := Request.exists_sweeps h
  obtain ⟨_, _, _, _, _, hdone, _⟩ := hsweeps.perform hm ids
  rw [Journal.perform_eq_plan hr, hplan]
  exact hdone

/-- After any calls a deletion succeeds, whatever it is told to delete and whether that or its
owners are there, and it succeeds again without changing anything. -/
theorem deletion_total_and_idempotent (calls : List Call) (start : ι) (h : r.isDeletion = true)
    (ids ids' : ι) :
    let first := r.perform (history calls start).1 ids
    let second := r.perform first.2.1 ids'
    first.1 = .ok .done ∧ second.1 = .ok .done ∧ second.2.1 = first.2.1 := by
  have hts := (sound_history (fun _ hcall => hcall) start :
    Sound (listing calls) nothing (history calls start).1.tables).wellFormed
  obtain ⟨hr, p, hplan, hsweeps⟩ := Request.exists_sweeps h
  have hfirst := Request.perform_deletion h hts ids
  have hagain := hsweeps.perform_again hts ids ids'
  rw [← hplan, ← Journal.perform_eq_plan hr, ← Journal.perform_eq_plan hr] at hagain
  exact ⟨hfirst, hagain⟩

/-- A router with two routes to one network and one to another. -/
def threeRoutes : List Call := [
  .request (.createRouter "r" "" false),
  .request (.addRoute "r" "10.1.0.0/16" "10.0.0.1"),
  .request (.addRoute "r" "10.2.0.0/16" "10.0.0.2"),
  .request (.addRoute "r" "10.1.0.0/16" "10.0.0.3")]

theorem deletion_total_and_idempotent_threeRoutes :
    let r := Request.deleteRoute "r" "10.1.0.0/16"
    let first := r.perform (history threeRoutes (Counter.mk 1)).1 (Counter.mk 9)
    let second := r.perform first.2.1 (Counter.mk 9)
    r.isDeletion = true ∧ (first.2.1.tables.list .staticRoute).length = 1 ∧
      first.1 = .ok .done ∧ second.1 = .ok .done ∧ second.2.1 = first.2.1 := by
  have hdeletion : (Request.deleteRoute "r" "10.1.0.0/16").isDeletion = true := by
    decide +kernel
  exact ⟨hdeletion, by decide +kernel,
    deletion_total_and_idempotent threeRoutes (Counter.mk 1) hdeletion _ _⟩

end Histories
end Client
end LogicalNet
