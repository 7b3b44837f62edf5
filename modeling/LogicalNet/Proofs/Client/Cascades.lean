import LogicalNet.Proofs.Client.RoundTrips

/-!
# What goes along with a router or a switch

The deletion of a router takes its ports, rules and routes from its lists and finds its
switch ports by the router that they name; the deletion of a switch finds its DHCP
options in the same way.  As what a router lists names it and what names it is listed or
found, nothing but DHCP options names the router afterwards.  The other rows stay, and
only lose references to what has gone.
-/

namespace LogicalNet

open Tables

/-- Rows of the table may have the name of a router among their external ids. -/
def Table.namesRouters : Table → Bool
  | switchPort | routerPort | staticRoute | nat | dhcpOptions => true
  | _ => false

/-! ## Rows without some references -/

namespace Row

variable {gone : List (Table × String)} {r : Row}

/-- Only the references of one column are left out. -/
theorem without_eq_mapReferences {c : RefColumn} {t : Table} (htarget : c.target? r.table = some t)
    (h : ∀ c' t', c' ≠ c → c'.target? r.table = some t' → ∀ u ∈ r.refs c', (t', u) ∉ gone) :
    r.without gone = r.mapReferences (List.filter fun u => (t, u) ∉ gone) c := by
  have hkeeps : (r.mapReferences (List.filter fun u => (t, u) ∉ gone) c).without gone =
      r.without gone := by
    apply without_mapReferences
    intro t' htarget' l
    rw [htarget] at htarget'
    cases htarget'
    rw [List.filter_filter]
    simp
  rw [← hkeeps]
  apply without_eq_self
  intro c' t' htarget' u hu
  rw [table_mapReferences] at htarget'
  by_cases hc : c' = c
  · subst hc
    rw [htarget] at htarget'
    cases htarget'
    rw [refs_mapReferences_filter, if_pos rfl] at hu
    simpa using (List.mem_filter.mp hu).2
  · rw [refs_mapReferences_of_ne _ hc] at hu
    exact h c' t' hc htarget' u hu

/-- The row without the switch ports that go. -/
def withoutPorts (gone : List (Table × String)) (r : Row) : Row :=
  r.mapReferences (List.filter fun u => !gone.contains (Table.switchPort, u)) .ports

theorem withoutPorts_eq (gone : List (Table × String)) (r : Row) : r.withoutPorts gone =
    r.mapReferences (List.filter fun u => (Table.switchPort, u) ∉ gone) .ports := by
  simp [withoutPorts]

@[simp]
theorem externalIds_withoutPorts (gone : List (Table × String)) (r : Row) :
    (r.withoutPorts gone).externalIds = r.externalIds :=
  externalIds_mapReferences _ _ _

theorem mem_refs_withoutPorts {u : String} :
    u ∈ (r.withoutPorts gone).refs .ports ↔ u ∈ r.refs .ports ∧ (.switchPort, u) ∉ gone := by
  simp [withoutPorts_eq, refs_mapReferences_filter]

end Row

namespace Client

variable {calls : List Call} {ts us : Tables} {ops : List Operation}
  {gone : List (Table × String)}

/-- The rows in the places go; the rows of one table lose the switch ports among them, and all
other rows are the same. -/
structure Takes (gone : List (Table × String)) (lister : Table) (ts us : Tables) : Prop where
  taken : ∀ {t k}, (t, k) ∈ gone → (us t).get? k = none
  listers : ∀ {k}, (lister, k) ∉ gone →
    (us lister).get? k = ((ts lister).get? k).map (Row.withoutPorts gone)
  others : ∀ {t k}, t ≠ lister → (t, k) ∉ gone → (us t).get? k = (ts t).get? k

/-- What is left are the rows in other places, without references to what has gone. -/
theorem Reduces.get?_eq_without {B : Bond} {loose : Table → String → Prop}
    (h : Reduces ops ts us) (hus : Sound B loose us) (hclears : ∀ op ∈ ops, Clears gone ts op)
    (hdeletes : ∀ p ∈ gone, .delete p.1 (.uuid p.2) ∈ ops) (t : Table) (k : String) :
    (us t).get? k =
      if (t, k) ∈ gone then none else ((ts t).get? k).map (Row.without gone) := by
  have hnone : ∀ p ∈ gone, (us p.1).get? p.2 = none :=
    fun p hp => h.get?_uuid_eq_none (hdeletes p hp)
  split
  · rename_i hgone
    exact hnone _ hgone
  · rename_i hleft
    rw [← beside_of_clears_all h.wellFormed hclears h.applied t k hleft]
    cases hrow : (us t).get? k with
    | none =>
        rfl
    | some row =>
        rw [Option.map_some, Row.without_eq_self]
        intro c t' htarget u hu hgone
        rw [hus.wellFormed.table_eq hrow] at htarget
        exact hus.not_mem_of_get?_eq_none hrow htarget (hnone _ hgone) hu

/-- It is enough to know who lists what goes: a row that goes as well, or rows of the one table. -/
theorem Reduces.takes {B : Bond} {loose : Table → String → Prop} {lister : Table}
    (h : Reduces ops ts us) (hus : Sound B loose us) (hclears : ∀ op ∈ ops, Clears gone ts op)
    (hdeletes : ∀ p ∈ gone, .delete p.1 (.uuid p.2) ∈ ops)
    (hports : RefColumn.ports.target? lister = some .switchPort)
    (hlisters : ∀ {t k r c t' u}, (ts t).get? k = some r → c.target? t = some t' → u ∈ r.refs c →
      (t', u) ∈ gone → (t, k) ∈ gone ∨ (t = lister ∧ c = .ports)) : Takes gone lister ts us := by
  have hwithout := h.get?_eq_without hus hclears hdeletes
  constructor
  · intro t k hgone
    rw [hwithout, if_pos hgone]
  · intro k hleft
    rw [hwithout, if_neg hleft]
    cases hrow : (ts lister).get? k with
    | none =>
        rfl
    | some r =>
        have htable := h.wellFormed.table_eq hrow
        rw [Option.map_some, Option.map_some, Row.withoutPorts_eq, Row.without_eq_mapReferences]
        · rw [htable]
          exact hports
        · intro c t' hc htarget u hu hmem
          rw [htable] at htarget
          cases hlisters hrow htarget hu hmem with
          | inl hplace => exact hleft hplace
          | inr hlists => exact hc hlists.2
  · intro t k hother hleft
    rw [hwithout, if_neg hleft]
    cases hrow : (ts t).get? k with
    | none =>
        rfl
    | some r =>
        rw [Option.map_some, Row.without_eq_self]
        intro c t' htarget u hu hmem
        rw [h.wellFormed.table_eq hrow] at htarget
        cases hlisters hrow htarget hu hmem with
        | inl hplace => exact hleft hplace
        | inr hlists => exact hother hlists.1

section Takes

variable {lister : Table} {k : String} {row : Row}

/-- A row that is left was there before with the same external ids. -/
theorem Takes.exists_row {t : Table} (h : Takes gone lister ts us)
    (hrow : (us t).get? k = some row) : (t, k) ∉ gone ∧
      ∃ r, (ts t).get? k = some r ∧ r.externalIds = row.externalIds := by
  have hleft : (t, k) ∉ gone := by
    intro hgone
    rw [h.taken hgone] at hrow
    cases hrow
  refine ⟨hleft, ?_⟩
  by_cases hlister : t = lister
  · subst hlister
    rw [h.listers hleft] at hrow
    obtain ⟨r, hr, rfl⟩ := Option.map_eq_some_iff.mp hrow
    exact ⟨r, hr, (Row.externalIds_withoutPorts gone r).symm⟩
  · rw [h.others hlister hleft] at hrow
    exact ⟨row, hrow, rfl⟩

theorem Takes.not_mem_of_listed (h : Takes gone lister ts us)
    (hrow : (us lister).get? k = some row) : ∀ u ∈ row.refs .ports, (.switchPort, u) ∉ gone := by
  rw [h.listers (h.exists_row hrow).1] at hrow
  obtain ⟨r, _, rfl⟩ := Option.map_eq_some_iff.mp hrow
  intro u hu
  exact (Row.mem_refs_withoutPorts.mp hu).2

end Takes

/-! ## Routers and switches -/

/-- The rows that go with a router. -/
def goneWithRouter (ts : Tables) (router : String) : List (Table × String) :=
  match ts.get? .router (.name (Name.router router)) with
  | none => []
  | some row =>
      row.place :: ((row.refs .ports).map fun u => (.routerPort, u)) ++
        ((row.refs .nat).map fun u => (.nat, u)) ++
        ((row.refs .staticRoutes).map fun u => (.staticRoute, u)) ++
        (ts.find .switchPort ExternalId.router (Name.router router)).map Row.place

/-- The rows that go with the switch of a network. -/
def goneWithSwitch (ts : Tables) (network : String) : List (Table × String) :=
  (ts.find .dhcpOptions ExternalId.switch (Name.switch network)).map Row.place ++
    match ts.get? .switch (.name (Name.switch network)) with
    | none => []
    | some row => row.place :: (row.refs .ports).map fun u => (.switchPort, u)

theorem mem_map_place_find_iff (hts : ts.WellFormed) {table t : Table} {key value u : String} :
    (t, u) ∈ (ts.find table key value).map Row.place ↔ t = table ∧ Bears ts table key value u := by
  simp only [List.mem_map, Tables.find, List.mem_filter, beq_iff_eq]
  constructor
  · rintro ⟨row, ⟨hvalues, hvalue⟩, hplace⟩
    obtain ⟨k, hrow⟩ := TextMap.mem_values_iff.mp hvalues
    cases hplace
    rw [← hts.uuid_eq hrow] at hrow
    exact ⟨hts.table_eq hrow, row, hrow, hvalue⟩
  · rintro ⟨rfl, row, hrow, hvalue⟩
    refine ⟨row, ⟨TextMap.mem_values_iff.mpr ⟨u, hrow⟩, hvalue⟩, ?_⟩
    rw [Row.place, hts.table_eq hrow, hts.uuid_eq hrow]

theorem place_eq_iff (hts : ts.WellFormed) {t table : Table} {lookup : Lookup} {row : Row}
    {u : String} (hget : ts.get? table lookup = some row) :
    (t, u) = row.place ↔ t = table ∧ row.uuid = u := by
  have htable := hts.table_eq (hts.get?_eq_some_iff.mp hget).2
  simp [Row.place, htable, eq_comm]

theorem mem_goneWithRouter_iff (hts : ts.WellFormed) {router : String} {t : Table} {u : String} :
    (t, u) ∈ goneWithRouter ts router ↔
      (t = .router ∧ Stored ts .router (Name.router router) u) ∨
      (∃ c, t.owner? = some (.router, c) ∧ ListedIn ts .router (Name.router router) c u) ∨
      (t = .switchPort ∧ (∃ v, Stored ts .router (Name.router router) v) ∧
        Bears ts .switchPort ExternalId.router (Name.router router) u) := by
  unfold goneWithRouter
  cases hget : ts.get? .router (.name (Name.router router)) with
  | none =>
      simp [Stored, ListedIn, hget]
  | some row =>
      simp only [List.mem_append, List.mem_cons, mem_map_place_find_iff hts, place_eq_iff hts hget]
      simp only [Stored, ListedIn, hget]
      cases t <;> simp [Table.owner?]

theorem mem_goneWithSwitch_iff (hts : ts.WellFormed) {network : String} {t : Table} {u : String} :
    (t, u) ∈ goneWithSwitch ts network ↔
      (t = .dhcpOptions ∧ Bears ts .dhcpOptions ExternalId.switch (Name.switch network) u) ∨
      (t = .switch ∧ Stored ts .switch (Name.switch network) u) ∨
      (t = .switchPort ∧ ListedIn ts .switch (Name.switch network) .ports u) := by
  unfold goneWithSwitch
  rw [List.mem_append, mem_map_place_find_iff hts]
  cases hget : ts.get? .switch (.name (Name.switch network)) with
  | none =>
      simp [Stored, ListedIn, hget]
  | some row =>
      rw [List.mem_cons, place_eq_iff hts hget]
      simp [Stored, ListedIn, hget, eq_comm, and_comm]

/-- What lists a row that goes with a router goes as well, or it is the switch of a port. -/
theorem lister_goneWithRouter (hts : Sound (listing calls) nothing ts) {router : String}
    {t t' : Table} {k u : String} {r : Row} {c : RefColumn} (hrow : (ts t).get? k = some r)
    (htarget : c.target? t = some t') (hu : u ∈ r.refs c)
    (hgone : (t', u) ∈ goneWithRouter ts router) :
    (t, k) ∈ goneWithRouter ts router ∨ (t = .switch ∧ c = .ports) := by
  rcases (mem_goneWithRouter_iff hts.wellFormed).mp hgone with
    ⟨rfl, _⟩ | ⟨c', howner, owner, hget, hlisted⟩ | ⟨rfl, _, port, hport, hnames⟩
  · cases c <;> cases t <;> cases htarget
  · -- the router is the only owner of what it lists
    have hroot : t'.isRoot = false := by
      cases t' <;> cases howner <;> rfl
    have hother : t' ≠ .switchPort ∧ t' ≠ .acl := by
      constructor <;> rintro rfl <;> cases howner
    have howner' := RefColumn.owner?_of_target? htarget hroot hother.1 hother.2
    rw [howner] at howner'
    cases howner'
    have hkey := hts.one howner hrow (get?_of_get? hts.wellFormed hget) hu hlisted
    subst hkey
    exact .inl ((mem_goneWithRouter_iff hts.wellFormed).mpr (.inl ⟨rfl, owner, hget, rfl⟩))
  · rcases RefColumn.lister_of_target? htarget rfl with howner | ⟨_, rfl, rfl⟩ | ⟨heq, _⟩
    · cases howner
      exact .inr ⟨rfl, rfl⟩
    · exact absurd hu (not_mem_of_names_router hts hport hnames hrow)
    · cases heq

theorem lister_goneWithSwitch (hts : Sound (listing calls) nothing ts) {network : String}
    {t t' : Table} {k u : String} {r : Row} {c : RefColumn} (hrow : (ts t).get? k = some r)
    (htarget : c.target? t = some t') (hu : u ∈ r.refs c)
    (hgone : (t', u) ∈ goneWithSwitch ts network) :
    (t, k) ∈ goneWithSwitch ts network ∨ (t = .portGroup ∧ c = .ports) := by
  rcases (mem_goneWithSwitch_iff hts.wellFormed).mp hgone with
    ⟨rfl, _⟩ | ⟨rfl, _⟩ | ⟨rfl, owner, hget, hlisted⟩
  · cases c <;> cases t <;> cases htarget
  · cases c <;> cases t <;> cases htarget
  · rcases RefColumn.lister_of_target? htarget rfl with howner | ⟨_, rfl, rfl⟩ | ⟨heq, _⟩
    · cases howner
      have hkey := hts.one (t := .switchPort) rfl hrow (get?_of_get? hts.wellFormed hget) hu hlisted
      subst hkey
      exact .inl ((mem_goneWithSwitch_iff hts.wellFormed).mpr (.inr (.inl ⟨rfl, owner, hget, rfl⟩)))
    · exact .inr ⟨rfl, rfl⟩
    · cases heq

theorem takes_deleteRouter (hts : Sound (listing calls) nothing ts)
    (hus : Sound (listing calls) nothing us) {router : String} {drawn : List String}
    {t : Transaction Unit} (hends : (deleteRouter router).Ends ts drawn t)
    (h : Reduces t.operations ts us) : Takes (goneWithRouter ts router) .switch ts us := by
  have hmem := mem_deleteRouter_iff hts.wellFormed hends
  apply h.takes hus _ _ rfl (lister_goneWithRouter hts)
  · intro op hop
    rcases (hmem op).mp hop with
      ⟨u, hrouter, hnames, hoff | rfl⟩ | ⟨t', c, u, howner, hlisted, rfl⟩ | ⟨u, hstored, rfl⟩
    · exact hoff.clears rfl ((mem_goneWithRouter_iff hts.wellFormed).mpr
        (.inr (.inr ⟨rfl, hrouter, hnames⟩)))
    · exact .delete_uuid hts.wellFormed ((mem_goneWithRouter_iff hts.wellFormed).mpr
        (.inr (.inr ⟨rfl, hrouter, hnames⟩)))
    · exact .delete_uuid hts.wellFormed ((mem_goneWithRouter_iff hts.wellFormed).mpr
        (.inr (.inl ⟨c, howner, hlisted⟩)))
    · exact .delete_uuid hts.wellFormed ((mem_goneWithRouter_iff hts.wellFormed).mpr
        (.inl ⟨rfl, hstored⟩))
  · rintro ⟨t', u⟩ hgone
    apply (hmem _).mpr
    rcases (mem_goneWithRouter_iff hts.wellFormed).mp hgone with
      ⟨rfl, hstored⟩ | ⟨c, howner, hlisted⟩ | ⟨rfl, hrouter, hnames⟩
    · exact .inr (.inr ⟨u, hstored, rfl⟩)
    · exact .inr (.inl ⟨t', c, u, howner, hlisted, rfl⟩)
    · exact .inl ⟨u, hrouter, hnames, .inr rfl⟩

theorem takes_deleteSwitch (hts : Sound (listing calls) nothing ts)
    (hus : Sound (listing calls) nothing us) {network : String} {drawn : List String}
    {t : Transaction Unit} (hends : (deleteSwitch network).Ends ts drawn t)
    (h : Reduces t.operations ts us) : Takes (goneWithSwitch ts network) .portGroup ts us := by
  have hmem := mem_deleteSwitch_iff hts.wellFormed hends
  apply h.takes hus _ _ rfl (lister_goneWithSwitch hts)
  · intro op hop
    rcases (hmem op).mp hop with ⟨u, hbears, rfl⟩ | ⟨u, hlisted, hoff | rfl⟩ | ⟨u, hstored, rfl⟩
    · exact .delete_uuid hts.wellFormed ((mem_goneWithSwitch_iff hts.wellFormed).mpr
        (.inl ⟨rfl, hbears⟩))
    · exact hoff.clears rfl ((mem_goneWithSwitch_iff hts.wellFormed).mpr
        (.inr (.inr ⟨rfl, hlisted⟩)))
    · exact .delete_uuid hts.wellFormed ((mem_goneWithSwitch_iff hts.wellFormed).mpr
        (.inr (.inr ⟨rfl, hlisted⟩)))
    · exact .delete_uuid hts.wellFormed ((mem_goneWithSwitch_iff hts.wellFormed).mpr
        (.inr (.inl ⟨rfl, hstored⟩)))
  · rintro ⟨t', u⟩ hgone
    apply (hmem _).mpr
    rcases (mem_goneWithSwitch_iff hts.wellFormed).mp hgone with
      ⟨rfl, hbears⟩ | ⟨rfl, hstored⟩ | ⟨rfl, hlisted⟩
    · exact .inl ⟨u, hbears, rfl⟩
    · exact .inr (.inr ⟨u, hstored, rfl⟩)
    · exact .inr (.inl ⟨u, hlisted, .inr rfl⟩)

/-! ## Names of routers -/

/-- Only rows of certain tables have an external id for the name of a router. -/
def NamesNoRouter (row : Row) : Prop :=
  row.table.namesRouters = false → row.externalIds.get? ExternalId.router = none

theorem namesNoRouter_of_pairs {row : Row} {pairs : List (String × String)}
    (hids : row.externalIds = .ofPairs pairs) (hkeys : ExternalId.router ∉ pairs.map Prod.fst) :
    NamesNoRouter row := by
  intro _
  rw [hids]
  apply get?_ofPairs_of_forall_ne
  intro p hp hkey
  apply hkeys
  rw [← hkey]
  exact List.mem_map_of_mem hp

theorem lasting_namesNoRouter : Lasting NamesNoRouter := by
  apply lasting_of_alike
  intro row s halike _ hrow htable
  rw [halike.router]
  apply hrow
  rw [← halike.table]
  exact htable

theorem namesNoRouter_of_storedRows {row : Row} {group : SecurityGroup} {plan : GroupPlan}
    {uuids : List String} (hplan : group.plan = .ok plan)
    (hrow : row ∈ storedRows (carriedOver ts (plan.withUuids uuids))) : NamesNoRouter row := by
  have hids := SecurityGroup.externalIds_of_plan hplan
  have hkeys : ExternalId.router ∉ [ExternalId.securityGroup, ExternalId.securityGroupName] := by
    decide
  have hdraft : ∀ key ∈ [ExternalId.builtin, ExternalId.rule],
      ExternalId.router ∉ [key, ExternalId.securityGroup] := by
    decide
  rcases mem_storedRows.mp hrow with rfl | ⟨a, ha, rfl⟩ | rfl
  · exact namesNoRouter_of_pairs hids hkeys
  · obtain ⟨d, hd, u, rfl⟩ := GroupPlan.exists_draft ha
    obtain ⟨key, value, hkey, heq⟩ := SecurityGroup.externalIds_of_mem_drafts hplan d hd
    exact namesNoRouter_of_pairs heq (hdraft key hkey)
  · exact namesNoRouter_of_pairs hids hkeys

theorem namesNoRouter_of_balancerRow {balancer : Tenant.Balancer} {uuid : String}
    {row : LoadBalancer} (h : balancerRow balancer uuid = .ok row) :
    NamesNoRouter (.loadBalancer row) := by
  have hkeys : ExternalId.router ∉ [ExternalId.loadBalancer, ExternalId.project] := by
    decide
  obtain ⟨vip, _, hrest⟩ := Outcome.bind_eq_ok_iff.mp h
  split at hrest
  · cases hrest
  · cases hrest
    exact namesNoRouter_of_pairs rfl hkeys

theorem Made.namesNoRouter {r : Request} {row : Row} {owner : Option Row}
    (h : Made ts r row owner) : NamesNoRouter row := by
  cases h with
  | switch =>
      have hkeys : ExternalId.router ∉
          [ExternalId.network, ExternalId.project, ExternalId.name] := by
        decide
      exact namesNoRouter_of_pairs rfl hkeys
  | router =>
      have hkeys : ExternalId.router ∉ [ExternalId.routerId, ExternalId.project] := by
        decide
      exact namesNoRouter_of_pairs rfl hkeys
  | group hplan hrow =>
      exact namesNoRouter_of_storedRows hplan hrow
  | balancer hrow =>
      exact namesNoRouter_of_balancerRow hrow
  | newBalancer hrow =>
      exact namesNoRouter_of_balancerRow hrow
  | _ =>
      intro htable
      cases htable

theorem name?_of_leadsTo {t : Table} {row o : Row} {c : RefColumn} {name : String}
    (howner : t.owner? = some (.router, c)) (htable : row.table = t) (hleads : row.LeadsTo o)
    (hnames : row.externalIds.get? ExternalId.router = some name) : o.name? = some name := by
  have hrouter : ∃ name', row.externalIds.get? ExternalId.router = some name' ∧
      o.name? = some name' := by
    rw [Row.LeadsTo, htable] at hleads
    cases t <;> cases howner <;> exact hleads
  obtain ⟨name', hnames', hname⟩ := hrouter
  rw [hnames] at hnames'
  cases hnames'
  exact hname

section Histories

variable {ι : Type} [IdSource ι]

theorem namesNoRouter_history (calls : List Call) (ids : ι) :
    ∀ t k row, ((history calls ids).1.tables t).get? k = some row → NamesNoRouter row := by
  apply rows_history lasting_namesNoRouter calls ids
  · intro ts r row _ hnew
    obtain ⟨owner, hmade⟩ := hnew
    exact hmade.namesNoRouter
  · intro ts r row _ hrows hnew
    cases hnew with
    | dhcp =>
        intro htable
        cases htable
    | addresses hold =>
        have hrow := hrows _ _ _ hold
        exact hrow
    | balancer hrow =>
        exact namesNoRouter_of_balancerRow hrow

/-- A row that needs a router is listed by the one that it names. -/
theorem listedIn_of_names (calls : List Call) (ids : ι) {router : String} {t : Table}
    {c : RefColumn} {k : String} {row : Row} (howner : t.owner? = some (.router, c))
    (hrow : ((history calls ids).1.tables t).get? k = some row)
    (hnames : row.externalIds.get? ExternalId.router = some (Name.router router)) :
    ListedIn (history calls ids).1.tables .router (Name.router router) c k := by
  have hts : Sound (listing calls) nothing (history calls ids).1.tables :=
    sound_history (fun _ hcall => hcall) ids
  obtain ⟨key, o, ho, hk⟩ := hts.listed howner hrow id
  have hleads := leadsTo_history calls ids howner ho hk hrow
  have hname := name?_of_leadsTo howner (hts.wellFormed.table_eq hrow) hleads hnames
  exact (listedIn_iff hts.wellFormed rfl).mpr ⟨key, o, ho, hname, hk⟩

/-- What names a router goes with it, but for DHCP options. -/
theorem goneWithRouter_of_names (calls : List Call) (ids : ι) {router : String} {t : Table}
    {k : String} {row : Row} (ht : t ≠ .dhcpOptions)
    (hrow : ((history calls ids).1.tables t).get? k = some row)
    (hnames : row.externalIds.get? ExternalId.router = some (Name.router router)) :
    (t, k) ∈ goneWithRouter (history calls ids).1.tables router := by
  have hts : Sound (listing calls) nothing (history calls ids).1.tables :=
    sound_history (fun _ hcall => hcall) ids
  have htable := hts.wellFormed.table_eq hrow
  apply (mem_goneWithRouter_iff hts.wellFormed).mpr
  cases t with
  | switchPort =>
      obtain ⟨key, o, ho, hname⟩ := routed_history calls ids _ _ ⟨row, hrow, hnames⟩
      have hstored := (stored_iff hts.wellFormed rfl).mpr ⟨o, ho, hname⟩
      exact .inr (.inr ⟨rfl, ⟨key, hstored⟩, row, hrow, hnames⟩)
  | routerPort | staticRoute | nat =>
      exact .inr (.inl ⟨_, rfl, listedIn_of_names calls ids rfl hrow hnames⟩)
  | dhcpOptions =>
      exact absurd rfl ht
  | _ =>
      have hnone := namesNoRouter_history calls ids _ k row hrow (by rw [htable]; rfl)
      rw [hnames] at hnone
      cases hnone

/-- After any calls the deletion of a router succeeds and takes the router, what it lists and the
switch ports that name it, off the switches that list these.  Nothing else changes, and afterwards
nothing but DHCP options names the router.  The deletion of a switch takes the switch, its ports
and its DHCP options, and the ports off the port groups that list them. -/
theorem cascades_history (calls : List Call) (start ids : ι) (router network : String) :
    let before := (history calls start).1
    let ts := before.tables
    let deleted := (Request.deleteRouter router).perform before ids
    let deleted' := (Request.deleteSwitch network).perform before ids
    (deleted.1 = .ok .done ∧ Takes (goneWithRouter ts router) .switch ts deleted.2.1.tables ∧
      ∀ t k row, t ≠ .dhcpOptions → (deleted.2.1.tables t).get? k = some row →
        row.externalIds.get? ExternalId.router ≠ some (Name.router router)) ∧
    (deleted'.1 = .ok .done ∧
      Takes (goneWithSwitch ts network) .portGroup ts deleted'.2.1.tables ∧
      ∀ k row, (deleted'.2.1.tables .portGroup).get? k = some row → ∀ u ∈ row.refs .ports,
        (.switchPort, u) ∉ goneWithSwitch ts network) := by
  intro before ts deleted deleted'
  -- the deletions are calls of longer histories
  have hsound : ∀ r, Sound (listing (calls ++ [.request r])) nothing ts :=
    fun r => sound_history (fun _ hcall => List.mem_append_left _ hcall) start
  have hcall : ∀ r, .request r ∈ calls ++ [.request r] :=
    fun r => List.mem_append_right _ List.mem_cons_self
  constructor
  · obtain ⟨_, _, us, hends, hreduces, hus, hdone, hwritten⟩ :=
      (sweeps_deleteRouter router).perform_sound (r := .deleteRouter router) rfl rfl (hsound _)
        (hcall _) ids
    have htakes := takes_deleteRouter (hsound _) hus hends hreduces
    rw [hwritten]
    refine ⟨hdone, htakes, fun t k row ht hrow hnames => ?_⟩
    obtain ⟨hleft, r, hr, hids⟩ := htakes.exists_row hrow
    rw [← hids] at hnames
    exact hleft (goneWithRouter_of_names calls start ht hr hnames)
  · obtain ⟨_, _, us, hends, hreduces, hus, hdone, hwritten⟩ :=
      (sweeps_deleteSwitch network).perform_sound (r := .deleteSwitch network) rfl rfl (hsound _)
        (hcall _) ids
    have htakes := takes_deleteSwitch (hsound _) hus hends hreduces
    rw [hwritten]
    exact ⟨hdone, htakes, fun k row hrow => htakes.not_mem_of_listed hrow⟩

example : goneWithRouter (history attached (Counter.mk 1)).1.tables "r" =
    [(.router, "4"), (.routerPort, "5"), (.switchPort, "6")] := by
  decide +kernel

end Histories
end Client
end LogicalNet
