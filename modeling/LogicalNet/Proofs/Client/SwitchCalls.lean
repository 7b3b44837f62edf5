import LogicalNet.Proofs.Client.Ending
import LogicalNet.Proofs.Client.Issued

/-!
# What the calls on switches write
-/

namespace LogicalNet
namespace Client

open Tables Plan.Ends

variable {calls : List Call} {ts : Tables} {drawn : List String}

/-! ## Rows that a plan has read -/

/-- The row of the name has the identifier. -/
def Stored (ts : Tables) (table : Table) (name uuid : String) : Prop :=
  ∃ row, ts.get? table (.name name) = some row ∧ row.uuid = uuid

/-- The row of the name lists the identifier in the column. -/
def ListedIn (ts : Tables) (table : Table) (name : String) (c : RefColumn) (uuid : String) : Prop :=
  ∃ row, ts.get? table (.name name) = some row ∧ uuid ∈ row.refs c

/-- The row of the identifier has the external id. -/
def Bears (ts : Tables) (table : Table) (key value uuid : String) : Prop :=
  ∃ row, (ts table).get? uuid = some row ∧ row.externalIds.get? key = some value

theorem get?_of_get? (hts : ts.WellFormed) {table : Table} {lookup : Lookup} {row : Row}
    (h : ts.get? table lookup = some row) : (ts table).get? row.uuid = some row :=
  (hts.get?_eq_some_iff.mp h).2

theorem name?_of_get? (hts : ts.WellFormed) {table : Table} {name : String} {row : Row}
    (h : ts.get? table (.name name) = some row) : row.name? = some name := by
  have hrow := hts.get?_eq_some_iff.mp h
  rcases hts.get?_of_findKey? hrow.1 with ⟨row', hrow', haddresses⟩
  rw [hrow.2] at hrow'
  cases hrow'
  simpa [Lookup.addresses] using haddresses

/-- What is listed and was read by its name fits the row that lists it. -/
theorem lists_of_get? (hts : Sound (listing calls) nothing ts) {o t : Table} {name : String}
    {r : Row} (hget : ts.get? t (.name name) = some r) {c : RefColumn} {k : String} {row : Row}
    (hrow : (ts o).get? k = some row) (ht : c.target? o = some t) (hu : r.uuid ∈ row.refs c) :
    Lists calls o c row r ∧ r.name? = some name := by
  rcases exists_lists hts hrow ht hu with ⟨s, hs, hfits⟩
  rw [get?_of_get? hts.wellFormed hget] at hs
  cases hs
  exact ⟨hfits, name?_of_get? hts.wellFormed hget⟩

theorem get?_iff_of_list {ρ : Type} [RowType ρ] (hts : ts.WellFormed) {table : Table}
    {rows : List ρ} (h : ts.list table = rows.map RowType.toRow) {k : String} {row : Row} :
    (ts table).get? k = some row ↔
      ∃ a ∈ rows, row = RowType.toRow a ∧ k = (RowType.toRow a).uuid := by
  constructor
  · intro hrow
    have hmem : row ∈ ts.list table := TextMap.mem_values_iff.mpr ⟨k, hrow⟩
    rw [h] at hmem
    rcases List.mem_map.mp hmem with ⟨a, ha, rfl⟩
    exact ⟨a, ha, rfl, (hts.uuid_eq hrow).symm⟩
  · intro hfound
    rcases hfound with ⟨a, ha, rfl, rfl⟩
    have hmem : RowType.toRow a ∈ ts.list table := by
      rw [h]
      exact List.mem_map_of_mem ha
    rcases TextMap.mem_values_iff.mp hmem with ⟨k, hk⟩
    rw [hts.uuid_eq hk]
    exact hk

theorem get?_of_find {ρ : Type} [RowType ρ] (hts : ts.WellFormed) {table : Table}
    {key value : String} {rows : List ρ}
    (h : ts.find table key value = rows.map RowType.toRow) {a : ρ} (ha : a ∈ rows) :
    (ts table).get? (RowType.toRow a).uuid = some (RowType.toRow a) ∧
      (RowType.toRow a).externalIds.get? key = some value := by
  have hmem : RowType.toRow a ∈ ts.find table key value := by
    rw [h]
    exact List.mem_map_of_mem ha
  rcases List.mem_filter.mp hmem with ⟨hlist, hkey⟩
  rcases TextMap.mem_values_iff.mp hlist with ⟨k, hk⟩
  rw [hts.uuid_eq hk]
  exact ⟨hk, by simpa using hkey⟩

theorem mem_find_iff {ρ : Type} [RowType ρ] (hts : ts.WellFormed) {table : Table}
    {key value : String} {rows : List ρ}
    (h : ts.find table key value = rows.map RowType.toRow) {u : String} :
    (∃ a ∈ rows, (RowType.toRow a).uuid = u) ↔ Bears ts table key value u := by
  constructor
  · intro hfound
    rcases hfound with ⟨a, ha, rfl⟩
    exact ⟨_, get?_of_find hts h ha⟩
  · intro hfound
    rcases hfound with ⟨row, hrow, hkey⟩
    have hmem : row ∈ ts.find table key value :=
      List.mem_filter.mpr ⟨TextMap.mem_values_iff.mpr ⟨u, hrow⟩, by simpa using hkey⟩
    rw [h] at hmem
    rcases List.mem_map.mp hmem with ⟨a, ha, rfl⟩
    exact ⟨a, ha, hts.uuid_eq hrow⟩

/-! ## Taking rows off what lists them -/

/-- The operation takes the reference out of a row of the table that has it. -/
def Unlists (ts : Tables) (table : Table) (c : RefColumn) (u : String) (op : Operation) : Prop :=
  ∃ k row, (ts table).get? k = some row ∧ u ∈ row.refs c ∧
    op = .removeRefs table (.uuid k) c [u]

theorem Unlists.withdraws {table : Table} {c : RefColumn} {u : String} {op : Operation}
    {ops : List Operation} (h : Unlists ts table c u op)
    (hdeleted : ∀ t : Table, t.owner? = some (table, c) → .delete t (.uuid u) ∈ ops) :
    Withdraws ts ops op := by
  rcases h with ⟨k, row, _, _, rfl⟩
  exact .reference hdeleted

/-- An owner goes when the rows that it lists are deleted. -/
theorem withdraws_owner (hts : ts.WellFormed) {table : Table} (hroot : table.isRoot = true)
    (owner : Row) (ho : (ts table).get? owner.uuid = some owner) {ops : List Operation}
    (hlisted : ∀ (t : Table) c, t.owner? = some (table, c) → ∀ u ∈ owner.refs c,
      .delete t (.uuid u) ∈ ops) :
    Withdraws ts ops (.delete table (.uuid owner.uuid)) := by
  refine .owner hroot fun t c howner k row hrow haddresses u hu => ?_
  have huuid : row.uuid = owner.uuid := by
    simpa [Lookup.addresses] using haddresses
  rw [hts.uuid_eq hrow] at huuid
  rw [huuid, ho] at hrow
  cases hrow
  exact hlisted t c howner u hu

theorem withdraws_of_bare {table : Table} (hroot : table.isRoot = true)
    (h : ∀ t c, Table.owner? t ≠ some (table, c)) (ops : List Operation) (lookup : Lookup) :
    Withdraws ts ops (.delete table lookup) :=
  .owner hroot fun t c howner => absurd howner (h t c)

/-- When every reference of the kind is taken out, none is left. -/
theorem exists_detaches_of_unlists (hts : ts.WellFormed) {table : Table} {c : RefColumn}
    {u : String} {ops : List Operation} (h : ∀ op, Unlists ts table c u op → op ∈ ops)
    {k : String} {row : Row} (hrow : (ts table).get? k = some row) (hu : u ∈ row.refs c) :
    ∃ op ∈ ops, Detaches table row c u op := by
  refine ⟨.removeRefs table (.uuid k) c [u], h _ ⟨k, row, hrow, hu, rfl⟩, .removeRefs ?_ (by simp)⟩
  simp [Lookup.addresses, hts.uuid_eq hrow]

/-- The one owner of a row is deleted. -/
theorem exists_detaches_of_owner (h : Sound (listing calls) nothing ts) {t o : Table}
    {c : RefColumn} (howner : t.owner? = some (o, c)) (owner : Row)
    (ho : (ts o).get? owner.uuid = some owner) {ops : List Operation}
    (hop : .delete o (.uuid owner.uuid) ∈ ops) {k u : String} {row : Row}
    (hrow : (ts o).get? k = some row) (hu : u ∈ row.refs c) (hu' : u ∈ owner.refs c) :
    ∃ op ∈ ops, Detaches o row c u op := by
  refine ⟨_, hop, .delete ?_⟩
  rw [h.one howner hrow ho hu hu', ho] at hrow
  cases hrow
  simp [Lookup.addresses]

theorem mem_unlists_of_listAll {ρ : Type} [RowType ρ] (hts : ts.WellFormed) {table : Table}
    {rows : List ρ} (h : ts.list table = rows.map RowType.toRow) (u : String) (c : RefColumn)
    (op : Operation) :
    op ∈ ((rows.filter fun a => ((RowType.toRow a).refs c).contains u).map fun a =>
      Operation.removeRefs table (.uuid (RowType.toRow a).uuid) c [u]) ↔
      Unlists ts table c u op := by
  constructor
  · intro hop
    rcases List.mem_map.mp hop with ⟨a, ha, rfl⟩
    rcases List.mem_filter.mp ha with ⟨hmem, hu⟩
    exact ⟨_, _, (get?_iff_of_list hts h).mpr ⟨a, hmem, rfl, rfl⟩, by simpa using hu, rfl⟩
  · intro hfound
    rcases hfound with ⟨k, row, hrow, hu, rfl⟩
    rcases (get?_iff_of_list hts h).mp hrow with ⟨a, ha, rfl, rfl⟩
    refine List.mem_map.mpr ⟨a, List.mem_filter.mpr ⟨ha, by simpa using hu⟩, rfl⟩

theorem of_leaveGroups (hts : ts.WellFormed) {port : String} {vs : List String}
    {ops : List Operation} (h : (leaveGroups port).Ends ts vs ops) :
    vs = [] ∧ ∀ op, op ∈ ops ↔ Unlists ts .portGroup .ports port op := by
  rcases of_bind h with ⟨us, groups, ws, rfl, hlist, hdone⟩
  rcases of_listAll hlist with ⟨rfl, hgroups⟩
  rcases of_pure hdone with ⟨rfl, rfl⟩
  exact ⟨rfl, mem_unlists_of_listAll hts hgroups port .ports⟩

theorem of_leaveSwitches (hts : ts.WellFormed) {port : String} {vs : List String}
    {ops : List Operation} (h : (leaveSwitches port).Ends ts vs ops) :
    vs = [] ∧ ∀ op, op ∈ ops ↔ Unlists ts .switch .ports port op := by
  rcases of_bind h with ⟨us, switches, ws, rfl, hlist, hdone⟩
  rcases of_listAll hlist with ⟨rfl, hswitches⟩
  rcases of_pure hdone with ⟨rfl, rfl⟩
  exact ⟨rfl, mem_unlists_of_listAll hts hswitches port .ports⟩

/-- A port that has gone off rows of a table is deleted. -/
theorem of_leave_delete {table : Table} {leave : String → Plan (List Operation)} (port : String)
    (hleave : ∀ {vs ops}, (leave port).Ends ts vs ops →
      vs = [] ∧ ∀ op, op ∈ ops ↔ Unlists ts table .ports port op) {vs : List String}
    {ops : List Operation}
    (h : (do return (← leave port) ++ [deleteOperation .switchPort port] :
      Plan (List Operation)).Ends ts vs ops) :
    vs = [] ∧ ∀ op, op ∈ ops ↔
      (Unlists ts table .ports port op ∨ op = .delete .switchPort (.uuid port)) := by
  rcases of_bind h with ⟨us, left, ws, rfl, hleft, hdone⟩
  rcases hleave hleft with ⟨rfl, hmem⟩
  rcases of_pure hdone with ⟨rfl, rfl⟩
  constructor
  · rfl
  · intro op
    rw [List.mem_append, hmem, List.mem_singleton]
    rfl

/-! ## Switches -/

theorem issued_createSwitch {network : Tenant.Network} {t : Transaction Switch}
    (h : (createSwitch network).Ends ts drawn t) : Issued calls ts drawn t.operations := by
  rcases of_bind h with ⟨us, uuid, ws, rfl, huuid, hwrite⟩
  rcases of_pure hwrite with ⟨rfl, rfl⟩
  rw [of_drawUuid huuid]
  exact .insert rfl (fun c => by cases c <;> rfl) (List.mem_singleton_self uuid)

theorem withdraws_dhcpOptions (ops : List Operation) (lookup : Lookup) :
    Withdraws ts ops (.delete .dhcpOptions lookup) :=
  withdraws_of_bare rfl (fun t c => by cases t <;> simp [Table.owner?]) ops lookup

theorem issued_dhcpGone (uuids : List String) :
    Issued calls ts drawn (uuids.map (deleteOperation .dhcpOptions)) := by
  refine .remove (fun op hop => ?_) fun _ t u hop ht => ?_
  · rcases List.mem_map.mp hop with ⟨u, _, rfl⟩
    exact withdraws_dhcpOptions _ _
  · rcases List.mem_map.mp hop with ⟨v, _, heq⟩
    cases heq
    cases ht

/-- The DHCP options that bear the name of the switch go, and the switch with all that it lists. -/
theorem mem_deleteSwitch_iff (hts : ts.WellFormed) {network : String} {t : Transaction Unit}
    (h : (deleteSwitch network).Ends ts drawn t) (op : Operation) :
    op ∈ t.operations ↔
      (∃ u, Bears ts .dhcpOptions ExternalId.switch (Name.switch network) u ∧
        op = .delete .dhcpOptions (.uuid u)) ∨
      (∃ u, ListedIn ts .switch (Name.switch network) .ports u ∧
        (Unlists ts .portGroup .ports u op ∨ op = .delete .switchPort (.uuid u))) ∨
      ∃ u, Stored ts .switch (Name.switch network) u ∧ op = .delete .switch (.uuid u) := by
  rcases of_bind h with ⟨_, dhcp, _, _, hdhcp, hrest⟩
  rcases of_bind hrest with ⟨_, found, _, _, hfound, hrest⟩
  rcases of_findAll hdhcp with ⟨_, hfind⟩
  rcases of_fetch hfound with ⟨_, hget⟩
  change ts.find .dhcpOptions _ _ = _ at hfind
  change ts.get? .switch _ = found.map .switch at hget
  have hgone : op ∈ (dhcp.map fun d => deleteOperation .dhcpOptions d.uuid) ↔
      ∃ u, Bears ts .dhcpOptions ExternalId.switch (Name.switch network) u ∧
        op = .delete .dhcpOptions (.uuid u) := by
    simp only [← mem_find_iff hts hfind, List.mem_map, deleteOperation, eq_comm]
    constructor
    · intro hop
      rcases hop with ⟨d, hd, hop⟩
      exact ⟨d.uuid, ⟨d, hd, rfl⟩, hop⟩
    · intro hop
      rcases hop with ⟨_, ⟨d, hd, rfl⟩, hop⟩
      exact ⟨d, hd, hop⟩
  cases found with
  | none =>
      rcases of_pure hrest with ⟨_, rfl⟩
      rw [hgone]
      simp [ListedIn, Stored, hget]
  | some switch =>
      rcases of_bind hrest with ⟨_, portsGone, _, _, hports, hrest⟩
      rcases of_pure hrest with ⟨_, rfl⟩
      have hportsGone := (of_gather (fun port vs cs =>
        of_leave_delete port (of_leaveGroups hts)) hports).2
      rw [List.mem_append, List.mem_append, hgone, hportsGone, List.mem_singleton, or_assoc]
      simp [ListedIn, Stored, hget, Row.refs, Row.references?, Row.uuid, deleteOperation]

theorem issued_deleteSwitch (hts : Sound (listing calls) nothing ts) {network : String}
    {t : Transaction Unit} (h : (deleteSwitch network).Ends ts drawn t) :
    Issued calls ts drawn t.operations := by
  have hops := mem_deleteSwitch_iff hts.wellFormed h
  refine .remove (fun op hop => ?_) fun _ => ?_
  · rcases (hops op).mp hop with ⟨_, _, rfl⟩ | ⟨_, _, hunlists | rfl⟩ | ⟨_, hstored, rfl⟩
    · exact withdraws_dhcpOptions _ _
    · exact hunlists.withdraws fun t howner => by cases t <;> cases howner
    · exact .owned rfl
    · rcases hstored with ⟨switch, hget, rfl⟩
      refine withdraws_owner hts.wellFormed rfl switch (get?_of_get? hts.wellFormed hget) ?_
      intro t c howner u hu
      cases t <;> cases howner
      exact (hops _).mpr (.inr (.inl ⟨u, ⟨switch, hget, hu⟩, .inr rfl⟩))
  · intro t u hop ht o k row c hrow htarget hu
    rcases (hops _).mp hop with
      ⟨_, _, heq⟩ | ⟨_, ⟨switch, hget, hport⟩, ⟨_, _, _, _, heq⟩ | heq⟩ | ⟨_, _, heq⟩
    · cases heq
      cases ht
    · cases heq
    · cases heq
      rcases RefColumn.lister_of_target? htarget ht with howner | ⟨_, rfl, rfl⟩ | ⟨heq, _⟩
      · have hswitchGone := (hops (.delete .switch (.uuid switch.uuid))).mpr
          (.inr (.inr ⟨_, ⟨switch, hget, rfl⟩, rfl⟩))
        have howner' := howner
        cases howner'
        exact exists_detaches_of_owner hts howner switch (get?_of_get? hts.wellFormed hget)
          hswitchGone hrow hu hport
      · refine exists_detaches_of_unlists hts.wellFormed (fun op hunlists => ?_) hrow hu
        exact (hops op).mpr (.inr (.inl ⟨u, ⟨switch, hget, hport⟩, .inl hunlists⟩))
      · cases heq
    · cases heq
      cases ht

/-! ## DHCP options -/

theorem issued_createDhcpOptions {config : Tenant.DhcpConfig} {t : Transaction DhcpOptions}
    (h : (createDhcpOptions config).Ends ts drawn t) : Issued calls ts drawn t.operations := by
  unfold createDhcpOptions at h
  dsimp only at h
  -- The address is given or drawn; what follows is the same.
  split at h
  all_goals
    rcases of_bind h with ⟨_, mac, _, rfl, _, hrest⟩
    rcases of_bind hrest with ⟨_, uuid, _, rfl, huuid, hwrite⟩
    rcases of_pure hwrite with ⟨rfl, rfl⟩
    refine .insert rfl (fun c => by cases c <;> rfl) ?_
    rw [of_drawUuid huuid]
    simp [Row.uuid]

theorem issued_createNetworkDhcp {network : Tenant.Network} {t : Transaction DhcpOptions}
    (h : (createNetworkDhcp network).Ends ts drawn t) : Issued calls ts drawn t.operations := by
  unfold createNetworkDhcp at h
  split at h
  · exact issued_createDhcpOptions h
  · cases h

theorem issued_updateDhcpOptions {options : DhcpOptions} {t : Transaction Unit}
    (h : (updateDhcpOptions options).Ends ts drawn t) : Issued calls ts drawn t.operations := by
  rcases of_pure h with ⟨_, rfl⟩
  refine .update rfl (fun c => by cases c <;> rfl) fun c o htarget => ?_
  cases c <;> cases o <;> cases htarget

theorem issued_deleteDhcpOptions {uuid : String} {t : Transaction Unit}
    (h : (deleteDhcpOptions uuid).Ends ts drawn t) : Issued calls ts drawn t.operations := by
  rcases of_pure h with ⟨_, rfl⟩
  exact issued_dhcpGone [uuid]

/-! ## Ports -/

theorem get?_ofPairs_of_forall_ne {pairs : List (String × String)} {key : String}
    (h : ∀ p ∈ pairs, p.1 ≠ key) : (ExternalIds.ofPairs pairs).get? key = none :=
  TextMap.get?_ofList_of_forall_ne fun p hp => h p (List.mem_filter.mp hp).1

theorem issued_createPort (hts : Sound (listing calls) nothing ts) {port : Tenant.Port}
    {t : Transaction SwitchPort} (h : (createPort port).Ends ts drawn t) :
    Issued calls ts drawn t.operations := by
  rcases of_bind h with ⟨_, switch, _, rfl, hswitch, hrest⟩
  rcases of_bind hrest with ⟨_, mac, _, rfl, _, hrest⟩
  rcases of_bind hrest with ⟨_, uuid, _, rfl, huuid, hrest⟩
  rcases of_bind hrest with ⟨_, dhcp, _, rfl, _, hwrite⟩
  rcases of_pure hwrite with ⟨rfl, rfl⟩
  rcases of_requireParent hswitch with ⟨_, hget⟩
  have hrow := get?_of_get? hts.wellFormed hget
  refine .attach ⟨fun c => by cases c <;> rfl, rfl, _, hrow, ?_⟩ ?_
  · refine .machine rfl (get?_ofPairs_of_forall_ne ?_)
    simp [ExternalId.port, ExternalId.vm, ExternalId.router]
  · rw [of_drawUuid huuid]
    simp [Row.uuid, portRow]

theorem issued_createLocalnetPort (hts : Sound (listing calls) nothing ts) {network : String}
    {vlan : UInt32} {physicalNetwork : String}
    (hcall : .request (.createLocalnetPort network vlan physicalNetwork) ∈ calls)
    {t : Transaction SwitchPort}
    (h : (createLocalnetPort network vlan physicalNetwork).Ends ts drawn t) :
    Issued calls ts drawn t.operations := by
  unfold createLocalnetPort at h
  dsimp only at h
  split at h
  · cases h
  · rcases of_bind h with ⟨_, switch, _, rfl, hswitch, hrest⟩
    rcases of_bind hrest with ⟨_, uuid, _, rfl, huuid, hwrite⟩
    rcases of_pure hwrite with ⟨rfl, rfl⟩
    rcases of_requireParent hswitch with ⟨_, hget⟩
    have hrow := get?_of_get? hts.wellFormed hget
    refine .attach ⟨fun c => by cases c <;> rfl, rfl, _, hrow, ?_⟩ ?_
    · exact .localnet ⟨vlan, physicalNetwork, hcall⟩ (name?_of_get? hts.wellFormed hget) rfl
    · rw [of_drawUuid huuid]
      simp [Row.uuid]

theorem issued_bindPort {port vm host : String} {t : Transaction Unit}
    (h : (bindPort port vm host).Ends ts drawn t) : Issued calls ts drawn t.operations := by
  rcases of_bind h with ⟨_, row, _, _, _, hwrite⟩
  rcases of_pure hwrite with ⟨_, rfl⟩
  refine .relabel fun op hop => ?_
  simp only [List.mem_cons, List.not_mem_nil, or_false] at hop
  rcases hop with rfl | rfl
  · exact .setKeys (TextMap.get?_ofList_of_forall_ne (by simp [ExternalId.vm, ExternalId.router]))
  · exact .setKeys (TextMap.get?_ofList_of_forall_ne (by simp [ExternalId.router]))

/-- A port goes, off its switch and out of its groups. -/
theorem mem_deletePort_iff (hts : ts.WellFormed) {port : String} {t : Transaction Unit}
    (h : (deletePort port).Ends ts drawn t) (op : Operation) :
    op ∈ t.operations ↔ ∃ u, Stored ts .switchPort (Name.switchPort port) u ∧
      (Unlists ts .switch .ports u op ∨ Unlists ts .portGroup .ports u op ∨
        op = .delete .switchPort (.uuid u)) := by
  rcases of_bind h with ⟨_, found, _, _, hfound, hrest⟩
  rcases of_fetch hfound with ⟨_, hget⟩
  change ts.get? .switchPort _ = found.map .switchPort at hget
  cases found with
  | none =>
      rcases of_pure hrest with ⟨_, rfl⟩
      simp [Stored, hget]
  | some row =>
      rcases of_bind hrest with ⟨_, off, _, _, hoff, hrest⟩
      rcases of_bind hrest with ⟨_, out, _, _, hout, hrest⟩
      rcases of_pure hrest with ⟨_, rfl⟩
      rcases of_leaveSwitches hts hoff with ⟨_, hmemOff⟩
      rcases of_leaveGroups hts hout with ⟨_, hmemOut⟩
      rw [List.mem_append, List.mem_append, hmemOff, hmemOut, List.mem_singleton, or_assoc]
      simp [Stored, hget, Row.uuid, deleteOperation]

theorem issued_deletePort (hts : Sound (listing calls) nothing ts) {port : String}
    {t : Transaction Unit} (h : (deletePort port).Ends ts drawn t) :
    Issued calls ts drawn t.operations := by
  have hops := mem_deletePort_iff hts.wellFormed h
  refine .remove (fun op hop => ?_) fun _ => ?_
  · rcases (hops op).mp hop with ⟨u, hstored, hunlists | hunlists | rfl⟩
    · refine hunlists.withdraws fun t howner => ?_
      cases t <;> cases howner
      exact (hops _).mpr ⟨u, hstored, .inr (.inr rfl)⟩
    · exact hunlists.withdraws fun t howner => by cases t <;> cases howner
    · exact .owned rfl
  · intro t u hop ht o k row c hrow htarget hu
    rcases (hops _).mp hop with ⟨v, hstored, ⟨_, _, _, _, heq⟩ | ⟨_, _, _, _, heq⟩ | heq⟩
    · cases heq
    · cases heq
    · cases heq
      refine exists_detaches_of_unlists hts.wellFormed
        (fun op hunlists => (hops op).mpr ⟨u, hstored, ?_⟩) hrow hu
      rcases RefColumn.lister_of_target? htarget ht with howner | ⟨_, rfl, rfl⟩ | ⟨heq, _⟩
      · cases howner
        exact .inl hunlists
      · exact .inr (.inl hunlists)
      · cases heq

end Client
end LogicalNet
