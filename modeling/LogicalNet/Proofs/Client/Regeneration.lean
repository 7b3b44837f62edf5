import LogicalNet.Proofs.Client.Grouping

/-!
# Storing security groups again

A security group with an id that is not blank can always be stored: whatever its rules
are, what it compiles to may be written, and the rows that stand in its way go in the
same transaction.  Storing it replaces its rows and leaves all others as they are.
Deleting it takes away its rows, and with them the access control lists of groups whose
ids differ from its own in dashes and underscores only, as these have the same names.
-/

namespace LogicalNet

open IdSource (Drawn NeverEmpty NeverRepeats)

/-! ## Texts that are not empty -/

theorem Text.isEmpty_of_mem {c : Char} {s : String} (h : c ∈ s.toList) : s.isEmpty = false := by
  cases hs : s.isEmpty with
  | false =>
      rfl
  | true =>
      rw [String.isEmpty_iff.mp hs] at h
      cases h

theorem Sequential.neverEmpty (ids : Sequential) : NeverEmpty ids := by
  apply IdSource.neverEmpty_of_uuid
  intro ids
  apply Text.isEmpty_of_mem (c := '-')
  show '-' ∈ ("00000000-0000-0000-0000-" ++ _ : String).toList
  rw [String.toList_append]
  exact List.mem_append_left _ (by decide)

theorem Random.neverEmpty (ids : Random) : NeverEmpty ids := by
  apply IdSource.neverEmpty_of_uuid
  intro ids
  have hlength : ∀ n, 0 < (Text.hex 8 n).toList.length := by
    intro n
    rw [Text.hex, String.toList_ofList, Text.length_hexChars]
    decide
  rcases List.exists_mem_of_length_pos (hlength _) with ⟨c, hc⟩
  exact Text.isEmpty_of_mem (Text.mem_join_cons hc _ _)

theorem Client.Counter.neverEmpty (ids : Client.Counter) : NeverEmpty ids := by
  apply IdSource.neverEmpty_of_uuid
  intro ids
  rcases List.exists_mem_of_ne_nil (Nat.toDigits 10 ids.count) Nat.toDigits_ne_nil with ⟨c, hc⟩
  apply Text.isEmpty_of_mem (c := c)
  show c ∈ (Text.decimal ids.count).toList
  rw [Text.decimal, String.toList_ofList]
  exact hc

namespace Client

open Tables Plan.Ends

variable {calls : List Call} {ts us : Tables} {drawn : List String}

/-! ## A compiled group may be written -/

theorem isEmpty_portGroup (group : String) : (Name.portGroup group).isEmpty = false := by
  apply Text.isEmpty_of_mem (c := 'p')
  rw [Name.portGroup, String.toList_append]
  exact List.mem_append_left _ (by decide)

theorem isEmpty_addressSet (group : String) : (Name.addressSet group).isEmpty = false := by
  apply Text.isEmpty_of_mem (c := 'a')
  rw [Name.addressSet, String.toList_append]
  exact List.mem_append_left _ (by decide)

section Compiled

variable {g : SecurityGroup} {plan : GroupPlan}

theorem uuid_mem_of_storedRows (hlength : drawn.length = plan.size) {row : Row}
    (hrow : row ∈ storedRows (carriedOver ts (plan.withUuids drawn))) : row.uuid ∈ drawn := by
  rw [GroupPlan.uuids_eq hlength]
  rcases mem_storedRows.mp hrow with rfl | ⟨a, ha, rfl⟩ | rfl
  · exact List.mem_append_right _ (by simp [carriedOver, Row.uuid])
  · exact List.mem_append_left _ (List.mem_map_of_mem ha)
  · exact List.mem_append_right _ (by simp [carriedOver, Row.uuid])

/-- The rows of a compiled group have identifiers, names and contents that may be written. -/
theorem fault?_of_storedRows (hplan : g.plan = .ok plan) (hlength : drawn.length = plan.size)
    (hne : ∀ u ∈ drawn, u.isEmpty = false) {row : Row}
    (hrow : row ∈ storedRows (carriedOver ts (plan.withUuids drawn))) : row.fault? = none := by
  have huuid : row.uuid.isEmpty = false := hne _ (uuid_mem_of_storedRows hlength hrow)
  unfold Row.fault?
  rw [if_neg (by simp [huuid])]
  rcases mem_storedRows.mp hrow with rfl | ⟨a, ha, rfl⟩ | rfl
  · rw [if_neg]
    · rfl
    · show ¬ (true && (Name.addressSet plan.group).isEmpty) = true
      rw [isEmpty_addressSet]
      decide
  · rw [if_neg (by simp [Row.table, Table.hasNameIndex])]
    rcases GroupPlan.exists_draft ha with ⟨d, hd, u, rfl⟩
    exact (SecurityGroup.proper_of_plan hplan d hd).fault?_withUuid u
  · rw [if_neg]
    · rfl
    · show ¬ (true && (Name.portGroup plan.group).isEmpty) = true
      rw [isEmpty_portGroup]
      decide

theorem apart_of_table_ne {r s : Row} (h : r.table ≠ s.table) : Apart r s :=
  ⟨fun hplace => h hplace.1, fun htable => absurd htable h⟩

/-- No two rows of a compiled group are in each other's way. -/
theorem pairwise_apart_storedRows {c : CompiledGroup} (h : (c.acls.map Acl.uuid).Nodup) :
    (storedRows c).Pairwise fun r s => Apart s r := by
  have hacls : (c.acls.map Row.acl).Pairwise fun r s => Apart s r := by
    rw [List.pairwise_map]
    apply (List.pairwise_map.mp h).imp
    intro a b hab
    constructor
    · intro hplace
      exact hab hplace.2.symm
    · intro _ hindex
      cases hindex
  rw [storedRows, groupRows, List.cons_append, List.pairwise_cons, List.pairwise_append]
  refine ⟨fun r hr => apart_of_table_ne ?_, hacls, List.pairwise_singleton _ _,
    fun r hr s hs => apart_of_table_ne ?_⟩
  · rcases List.mem_append.mp hr with hr | hr
    · rcases List.mem_map.mp hr with ⟨a, _, rfl⟩
      simp [Row.table]
    · rw [List.mem_singleton.mp hr]
      simp [Row.table]
  · rcases List.mem_map.mp hr with ⟨a, _, rfl⟩
    rw [List.mem_singleton.mp hs]
    simp [Row.table]

/-- Once the old rows of the group are gone, nothing is in the way of the new ones. -/
theorem fits_storedRows {ws : Tables} (hts : ts.WellFormed) (hplan : g.plan = .ok plan)
    (hlength : drawn.length = plan.size) (hne : ∀ u ∈ drawn, u.isEmpty = false)
    (hfresh : ∀ u ∈ drawn, ∀ t, (ts t).get? u = none)
    (hgone : ∀ {t k r}, (ws t).get? k = some r → (ts t).get? k = some r ∧ ¬ OfGroup ts g.id r)
    {row : Row} (hrow : row ∈ storedRows (carriedOver ts (plan.withUuids drawn))) :
    Fits ws row := by
  refine ⟨fault?_of_storedRows hplan hlength hne hrow, fun {u r} hr => ?_⟩
  rcases hgone hr with ⟨hold, hnot⟩
  have htable := hts.table_eq hold
  constructor
  · intro hplace
    have hnone := hfresh _ (uuid_mem_of_storedRows hlength hrow) row.table
    rw [hplace.2, hts.uuid_eq hold, hold] at hnone
    cases hnone
  · intro _ hindex hname
    have hid := SecurityGroup.group_of_plan hplan
    rcases mem_storedRows.mp hrow with rfl | ⟨a, ha, rfl⟩ | rfl
    · apply hnot
      apply OfGroup.addressSet htable
      rw [← hname, ← hid]
      rfl
    · cases hindex
    · apply hnot
      apply OfGroup.portGroup htable
      rw [← hname, ← hid]
      rfl

/-- With identifiers that belong to no row, what the plan ends with can be written. -/
theorem exists_applyAll_createGroup (hts : Sound (listing calls) nothing ts)
    (hplan : g.plan = .ok plan) (hnodup : drawn.Nodup) (hne : ∀ u ∈ drawn, u.isEmpty = false)
    (hfresh : ∀ u ∈ drawn, ∀ t, (ts t).get? u = none) {t : Transaction CompiledGroup}
    (h : (createGroup g).Ends ts drawn t) : ∃ us, ts.applyAll t.operations = .ok us := by
  rcases operations_createGroup hts.wellFormed h with
    ⟨plan', hplan', hlength, hresult, old, sets, hget, hsets, _, hoperations⟩
  rw [hplan] at hplan'
  cases hplan'
  rw [SecurityGroup.group_of_plan hplan] at hget hsets
  rcases exists_gone hts hget hsets with ⟨ws, hws, hgone⟩
  have hacls : ((plan.withUuids drawn).acls.map Acl.uuid).Nodup := by
    rw [GroupPlan.map_uuid_withUuids]
    exact hnodup.sublist (List.take_sublist _ _)
  -- the places of the new rows are free as their identifiers are new, and their names are free as
  -- the old rows are gone
  have hmade : ∃ us, ws.applyAll ((storedRows t.result).map .insert) = .ok us := by
    rw [hresult]
    apply exists_applyAll_insert (hts.wellFormed.applyAll hws)
    · intro row hrow
      exact fits_storedRows hts.wellFormed hplan hlength hne hfresh hgone.mp hrow
    · exact pairwise_apart_storedRows hacls
  rcases hmade with ⟨us, hus⟩
  rw [hoperations]
  exact ⟨us, applyAll_append_eq_ok_iff.mpr ⟨ws, hws, hus⟩⟩

theorem total_createGroup (hts : ts.WellFormed) (hplan : g.plan = .ok plan) :
    (createGroup g).Total ts := by
  unfold createGroup
  rw [hplan]
  apply Plan.Total.bind (.drawUuids _)
  intro _ uuids _
  apply Plan.Total.bind (.fetch hts _)
  intro _ oldGroup _
  apply Plan.Total.bind (.fetch hts _)
  intro _ oldSet _
  exact .done _

end Compiled

/-! ## Tables in which a group is replaced -/

section Replaced

variable {c : CompiledGroup} {group : String}

theorem Replaces.acls_iff (hts : ts.WellFormed) (h : Replaces ts us group (storedRows c))
    (k : String) (r : Row) : (us .acl).get? k = some r ↔
      ((ts .acl).get? k = some r ∧ ¬ ListsAcl ts group k) ∨
        ∃ a ∈ c.acls, r = .acl a ∧ a.uuid = k := by
  rw [h]
  apply or_congr
  · apply and_congr_right
    intro hr
    rw [ofGroup_acl_iff r (hts.table_eq hr), hts.uuid_eq hr]
  · constructor
    · intro hnew
      rcases hnew with ⟨hmem, htable, huuid⟩
      rcases mem_storedRows.mp hmem with rfl | ⟨a, ha, rfl⟩ | rfl
      · cases htable
      · exact ⟨a, ha, rfl, huuid⟩
      · cases htable
    · intro hnew
      rcases hnew with ⟨a, ha, rfl, huuid⟩
      exact ⟨mem_storedRows.mpr (.inr (.inl ⟨a, ha, rfl⟩)), rfl, huuid⟩

theorem Replaces.get?_portGroup (hus : us.WellFormed) (hc : Compiles group c)
    (h : Replaces ts us group (storedRows c)) :
    us.get? .portGroup (.name (Name.portGroup group)) = some (.portGroup c.portGroup) := by
  rw [hus.get?_name_iff rfl]
  constructor
  · exact (h _ _ _).mpr (.inr ⟨mem_storedRows.mpr (.inr (.inr rfl)), rfl, rfl⟩)
  · exact congrArg some hc.portGroup

theorem Replaces.get?_addressSet (hus : us.WellFormed) (hc : Compiles group c)
    (h : Replaces ts us group (storedRows c)) :
    us.get? .addressSet (.name (Name.addressSet group)) = some (.addressSet c.addressSet) := by
  rw [hus.get?_name_iff rfl]
  constructor
  · exact (h _ _ _).mpr (.inr ⟨mem_storedRows.mpr (.inl rfl), rfl, rfl⟩)
  · exact congrArg some hc.addressSet

theorem Replaces.get?_other (hts : ts.WellFormed) (hc : Compiles group c)
    (h : Replaces ts us group (storedRows c)) {t : Table} {k : String} {r : Row} (hacl : t ≠ .acl)
    (hportGroup : ¬ (t = .portGroup ∧ r.name? = some (Name.portGroup group)))
    (haddressSet : ¬ (t = .addressSet ∧ r.name? = some (Name.addressSet group))) :
    (us t).get? k = some r ↔ (ts t).get? k = some r := by
  rw [h]
  constructor
  · intro hcases
    rcases hcases with hold | ⟨hmem, rfl, _⟩
    · exact hold.1
    · rcases mem_storedRows.mp hmem with rfl | ⟨a, _, rfl⟩ | rfl
      · exact absurd ⟨rfl, congrArg some hc.addressSet⟩ haddressSet
      · exact absurd rfl hacl
      · exact absurd ⟨rfl, congrArg some hc.portGroup⟩ hportGroup
  · intro hr
    have htable := hts.table_eq hr
    refine .inl ⟨hr, fun hof => ?_⟩
    cases hof with
    | portGroup ht hname =>
        exact hportGroup ⟨htable.symm.trans ht, hname⟩
    | addressSet ht hname =>
        exact haddressSet ⟨htable.symm.trans ht, hname⟩
    | acl ht _ =>
        exact hacl (htable.symm.trans ht)

end Replaced

/-! ## Storing a group -/

section Calls

variable {ι : Type} [IdSource ι] {m : Memory} {ids : ι}

theorem perform_createGroup {g : SecurityGroup} {plan : GroupPlan}
    (hts : Sound (listing calls) nothing m.tables) (hplan : g.plan = .ok plan)
    (hnodup : (IdSource.uuids plan.size ids).1.Nodup)
    (hne : ∀ u ∈ (IdSource.uuids plan.size ids).1, u.isEmpty = false)
    (hfresh : ∀ u ∈ (IdSource.uuids plan.size ids).1, ∀ t, (m.tables t).get? u = none) :
    ∃ us, ((createGroup g).perform m ids).1 =
        .ok (carriedOver m.tables (plan.withUuids (IdSource.uuids plan.size ids).1)) ∧
      ((createGroup g).perform m ids).2.1 = { m with tables := us } ∧ us.WellFormed ∧
      Replaces m.tables us g.id
        (storedRows (carriedOver m.tables (plan.withUuids (IdSource.uuids plan.size ids).1))) := by
  have hdraws : ∃ f, createGroup g = (Plan.drawUuids plan.size).bind f := by
    unfold createGroup
    rw [hplan]
    exact ⟨_, rfl⟩
  rcases hdraws with ⟨f, hf⟩
  rcases (total_createGroup hts.wellFormed hplan).exists_run ids with ⟨t, hrun⟩
  rcases Plan.ends_of_run_drawUuids hf hrun with ⟨ws, hends⟩
  rcases operations_createGroup hts.wellFormed hends with ⟨plan', hplan', hlength, hresult, _⟩
  rw [hplan] at hplan'
  cases hplan'
  -- nothing is drawn but these identifiers
  have hws : ws = [] := by
    rw [List.length_append, IdSource.length_uuids] at hlength
    exact List.eq_nil_of_length_eq_zero (Nat.add_eq_left.mp hlength)
  rw [hws, List.append_nil] at hends hresult
  rcases exists_applyAll_createGroup hts hplan hnodup hne hfresh hends with ⟨us, hops⟩
  rcases Plan.perform_of_run hrun hops with ⟨hanswer, hmemory⟩
  have hreplaces := replaces_createGroup hts hends hops
  rw [hresult] at hanswer hreplaces
  exact ⟨us, hanswer, hmemory, hts.wellFormed.applyAll hops, hreplaces⟩

/-- The lists of the group are found, and no others. -/
theorem perform_getAcls (hts : m.tables.WellFormed) (group : String) (ids : ι) :
    ∃ as, ((getAcls group).perform m ids).1 = .ok as ∧ ∀ a : Acl, a ∈ as ↔
      ∃ k, (m.tables .acl).get? k = some (.acl a) ∧
        a.externalIds.get? ExternalId.securityGroup = some group := by
  have htotal : (getAcls group).Total m.tables :=
    Plan.Total.bind (.findAll hts _ _) fun _ _ _ => .done _
  rcases htotal.exists_run ids with ⟨t, hrun⟩
  rcases Plan.run_spec (getAcls group) m ids with ⟨_, _, _, hends⟩
  rcases of_bind (hends t hrun) with ⟨_, as, _, _, hfound, hwrite⟩
  rcases of_pure hwrite with ⟨_, rfl⟩
  rcases of_findAll hfound with ⟨_, hfind⟩
  refine ⟨as, (Plan.perform_of_run hrun rfl).1, fun a => ?_⟩
  have hmem : a ∈ as ↔ Row.acl a ∈ as.map Row.acl := by
    simp
  rw [hmem]
  change m.tables.find .acl ExternalId.securityGroup group = as.map Row.acl at hfind
  rw [← hfind, Tables.find, List.mem_filter, Tables.list, TextMap.mem_values_iff, beq_iff_eq]
  constructor
  · intro h
    rcases h with ⟨⟨k, hk⟩, hgroup⟩
    exact ⟨k, hk, hgroup⟩
  · intro h
    rcases h with ⟨k, hk, hgroup⟩
    exact ⟨⟨k, hk⟩, hgroup⟩

/-- The group is stored as what it compiles to, with the members and the addresses from before; its
old lists are gone, its new ones are found, and no other row changes. -/
structure Regenerated (g : SecurityGroup) (m : Memory) (ids : ι) (c : CompiledGroup)
    (us : Tables) : Prop where
  compiled : (g.compile ids).1 = .ok c
  answered : ((createGroup g).perform m ids).1 = .ok (carriedOver m.tables c)
  stored : ((createGroup g).perform m ids).2.1 = { m with tables := us }
  portGroup : us.get? .portGroup (.name (Name.portGroup g.id)) =
    some (.portGroup { c.portGroup with ports := portsOf m.tables (Name.portGroup g.id) })
  lists : c.portGroup.acls = c.acls.map Acl.uuid
  addressSet : us.get? .addressSet (.name (Name.addressSet g.id)) =
    some (.addressSet
      { c.addressSet with addresses := addressesOf m.tables (Name.addressSet g.id) })
  acls : ∀ k r, (us .acl).get? k = some r ↔
    ((m.tables .acl).get? k = some r ∧ ¬ ListsAcl m.tables g.id k) ∨
      ∃ a ∈ c.acls, r = .acl a ∧ a.uuid = k
  found : ∀ ids' : ι, ∃ as, ((getAcls g.id).perform { m with tables := us } ids').1 = .ok as ∧
    ∀ a, a ∈ as ↔ a ∈ c.acls
  others : ∀ t k r, t ≠ .acl → ¬ (t = .portGroup ∧ r.name? = some (Name.portGroup g.id)) →
    ¬ (t = .addressSet ∧ r.name? = some (Name.addressSet g.id)) →
    ((us t).get? k = some r ↔ (m.tables t).get? k = some r)

/-- The rows that are deleted with a group: those of its names, and the lists of all groups that
have the same names. -/
inductive MadeFor (group : String) (row : Row) : Prop where
  | portGroup (htable : row.table = .portGroup)
      (hname : row.name? = some (Name.portGroup group)) : MadeFor group row
  | addressSet (htable : row.table = .addressSet)
      (hname : row.name? = some (Name.addressSet group)) : MadeFor group row
  | acl {other : String} (htable : row.table = .acl)
      (hother : row.externalIds.get? ExternalId.securityGroup = some other)
      (hsame : Name.underscored other = Name.underscored group) : MadeFor group row

/-- Nothing is left of the group, and nothing else goes but lists of groups with its names. -/
structure Deleted (group : String) (m : Memory) (ids : ι) (us : Tables) : Prop where
  answered : ((deleteGroup group).perform m ids).1 = .ok ()
  stored : ((deleteGroup group).perform m ids).2.1 = { m with tables := us }
  portGroup : ¬ us.HasNamed .portGroup (Name.portGroup group)
  addressSet : ¬ us.HasNamed .addressSet (Name.addressSet group)
  acls : ∀ k r, (us .acl).get? k = some r →
    r.externalIds.get? ExternalId.securityGroup ≠ some group
  others : ∀ t k r, (us t).get? k = some r ↔ (m.tables t).get? k = some r ∧ ¬ MadeFor group r

theorem exists_regenerated {g : SecurityGroup} {plan : GroupPlan}
    (hts : Sound (listing calls) nothing m.tables) (hgrouped : Grouped m.tables)
    (hplan : g.plan = .ok plan) (hnodup : (IdSource.uuids plan.size ids).1.Nodup)
    (hne : ∀ u ∈ (IdSource.uuids plan.size ids).1, u.isEmpty = false)
    (hfresh : ∀ u ∈ (IdSource.uuids plan.size ids).1, ∀ t, (m.tables t).get? u = none) :
    ∃ c us, Regenerated g m ids c us := by
  rcases perform_createGroup hts hplan hnodup hne hfresh with
    ⟨us, hanswer, hmemory, hus, hreplaces⟩
  generalize hc : plan.withUuids (IdSource.uuids plan.size ids).1 = c at hanswer hreplaces
  have hcompiles : Compiles g.id (carriedOver m.tables c) := by
    rw [← hc]
    exact compiles_withUuids hplan _ m.tables
  have hacls := hreplaces.acls_iff hts.wellFormed
  refine ⟨c, us, ?_, hanswer, hmemory, ?_, ?_, ?_, hacls, ?_, ?_⟩
  · rw [SecurityGroup.compile, hplan, ← hc]
  · have hname : c.portGroup.name = Name.portGroup g.id := hcompiles.portGroup
    rw [hreplaces.get?_portGroup hus hcompiles, ← hname]
    rfl
  · exact hcompiles.lists
  · have hname : c.addressSet.name = Name.addressSet g.id := hcompiles.addressSet
    rw [hreplaces.get?_addressSet hus hcompiles, ← hname]
    rfl
  · intro ids'
    have hafter : ({ m with tables := us } : Memory).tables.WellFormed := hus
    rcases perform_getAcls hafter g.id ids' with ⟨as, has, hmem⟩
    refine ⟨as, has, fun a => ?_⟩
    rw [hmem]
    constructor
    · intro hfound
      rcases hfound with ⟨k, hk, hgroup⟩
      rcases (hacls k _).mp hk with ⟨hold, hnot⟩ | ⟨b, hb, heq, _⟩
      · exact absurd ((hgrouped.listsAcl_iff hts hold).mpr ⟨g.id, hgroup, rfl⟩) hnot
      · cases heq
        exact hb
    · intro ha
      exact ⟨a.uuid, (hacls a.uuid _).mpr (.inr ⟨a, ha, rfl, rfl⟩), hcompiles.acls a ha⟩
  · intro t k r hacl hportGroup haddressSet
    exact hreplaces.get?_other hts.wellFormed hcompiles hacl hportGroup haddressSet

/-! ## Deleting a group -/

theorem ofGroup_iff_madeFor (hts : Sound (listing calls) nothing ts) (hgrouped : Grouped ts)
    {group : String} {t : Table} {k : String} {r : Row} (hr : (ts t).get? k = some r) :
    OfGroup ts group r ↔ MadeFor group r := by
  constructor
  · intro h
    cases h with
    | portGroup htable hname =>
        exact .portGroup htable hname
    | addressSet htable hname =>
        exact .addressSet htable hname
    | acl htable hlisted =>
        rw [hts.wellFormed.uuid_eq hr] at hlisted
        rw [← hts.wellFormed.table_eq hr, htable] at hr
        rcases (hgrouped.listsAcl_iff hts hr).mp hlisted with ⟨other, hother, hsame⟩
        exact .acl htable hother hsame
  · intro h
    cases h with
    | portGroup htable hname =>
        exact .portGroup htable hname
    | addressSet htable hname =>
        exact .addressSet htable hname
    | @acl other htable hother hsame =>
        apply OfGroup.acl htable
        rw [hts.wellFormed.uuid_eq hr]
        rw [← hts.wellFormed.table_eq hr, htable] at hr
        exact (hgrouped.listsAcl_iff hts hr).mpr ⟨other, hother, hsame⟩

theorem exists_deleted (hts : Sound (listing calls) nothing m.tables)
    (hgrouped : Grouped m.tables) (group : String) : ∃ us, Deleted group m ids us := by
  rcases (total_deleteGroup hts.wellFormed group).exists_run ids with ⟨t, hrun⟩
  rcases Plan.run_spec (deleteGroup group) m ids with ⟨_, _, _, hends⟩
  have ht := hends t hrun
  rcases exists_applyAll_deleteGroup hts ht with ⟨us, hops⟩
  rcases Plan.perform_of_run hrun hops with ⟨hanswer, hmemory⟩
  have hreplaces := replaces_deleteGroup hts ht hops
  have hothers : ∀ t k r, (us t).get? k = some r ↔
      (m.tables t).get? k = some r ∧ ¬ MadeFor group r := by
    intro t k r
    rw [hreplaces]
    simp only [List.not_mem_nil, false_and, or_false]
    apply and_congr_right
    intro hr
    rw [ofGroup_iff_madeFor hts hgrouped hr]
  refine ⟨us, hanswer, hmemory, ?_, ?_, ?_, hothers⟩
  · intro hnamed
    rcases hnamed with ⟨k, r, hr, hname⟩
    rcases (hothers _ _ _).mp hr with ⟨hold, hnot⟩
    exact hnot (.portGroup (hts.wellFormed.table_eq hold) hname)
  · intro hnamed
    rcases hnamed with ⟨k, r, hr, hname⟩
    rcases (hothers _ _ _).mp hr with ⟨hold, hnot⟩
    exact hnot (.addressSet (hts.wellFormed.table_eq hold) hname)
  · intro k r hr hgroup
    rcases (hothers _ _ _).mp hr with ⟨hold, hnot⟩
    exact hnot (.acl (hts.wellFormed.table_eq hold) hgroup rfl)

/-! ## After every history -/

theorem exists_regenerated_history (past : List Call) (ids : ι) (hids : NeverRepeats ids)
    (hne : NeverEmpty ids) {g : SecurityGroup} (hg : Text.isBlankText g.id = false) :
    ∃ c us, Regenerated g (history past ids).1 (history past ids).2 c us := by
  have hsound : Sound (listing past) nothing (history past ids).1.tables :=
    sound_history (fun _ hcall => hcall) ids
  have hkept : Kept past ids (Journal.start (history past ids).1) (history past ids).2 :=
    kept_history (fun _ hcall => hcall) ids
  rcases SecurityGroup.exists_plan hg with ⟨plan, hplan⟩
  have hdrawn := IdSource.drawn_uuids plan.size (history past ids).2
  rcases hkept.exists_drawn_from_start hdrawn with ⟨seen, hseen⟩
  apply exists_regenerated hsound (grouped_history past ids) hplan
  · exact (List.nodup_append.mp (hids _ _ hseen)).2.1
  · intro u hu
    exact hne _ _ hseen u (List.mem_append_right _ hu)
  · exact hkept.get?_of_drawn hids hdrawn

theorem exists_deleted_history (past : List Call) (ids : ι) (group : String) :
    ∃ us, Deleted group (history past ids).1 (history past ids).2 us :=
  exists_deleted (sound_history (fun _ hcall => hcall) ids) (grouped_history past ids) group

/-- After every history a group can be stored and can be deleted, each with no effect but its own,
and its port group and its address set are there together or not at all. -/
theorem regeneration_exact (past : List Call) (ids : ι) (hids : NeverRepeats ids)
    (hne : NeverEmpty ids) :
    (∀ g : SecurityGroup, Text.isBlankText g.id = false →
      ∃ c us, Regenerated g (history past ids).1 (history past ids).2 c us) ∧
    (∀ group : String, ∃ us, Deleted group (history past ids).1 (history past ids).2 us) ∧
    ∀ group : String,
      (history past ids).1.tables.HasNamed .portGroup (Name.portGroup group) ↔
        (history past ids).1.tables.HasNamed .addressSet (Name.addressSet group) := by
  constructor
  · intro g hg
    exact exists_regenerated_history past ids hids hne hg
  · constructor
    · exact exists_deleted_history past ids
    · exact (grouped_history past ids).paired

end Calls

/-! ## Groups of the same names -/

/-- The names of this group are also those of a group with the id `a_b`. -/
def dashed : SecurityGroup where
  id := "a-b"
  name := "web"

theorem regeneration_exact_dashed :
    NeverRepeats (Counter.mk 1) ∧ NeverEmpty (Counter.mk 1) ∧
      (∃ c us, Regenerated dashed (history [.request (.createGroup dashed)] (Counter.mk 1)).1
        (history [.request (.createGroup dashed)] (Counter.mk 1)).2 c us) ∧
      ∃ us, Deleted "a_b" (history [.request (.createGroup dashed)] (Counter.mk 1)).1
        (history [.request (.createGroup dashed)] (Counter.mk 1)).2 us := by
  have hids := Counter.neverRepeats (Counter.mk 1)
  have hne := Counter.neverEmpty (Counter.mk 1)
  have hexact := regeneration_exact [.request (.createGroup dashed)] (Counter.mk 1) hids hne
  exact ⟨hids, hne, hexact.1 dashed (by decide), hexact.2.1 "a_b"⟩

/-- The deletion of a group takes away more than the rows of its names and the lists that name it:
those of a group with another id may go as well. -/
theorem not_only_own_rows_deleted :
    ¬ ∀ (past : List Call) (ids : Counter) (group : String) (t : Table) (k : String) (r : Row),
      NeverRepeats ids → NeverEmpty ids → ((history past ids).1.tables t).get? k = some r →
      ¬ (t = .portGroup ∧ r.name? = some (Name.portGroup group)) →
      ¬ (t = .addressSet ∧ r.name? = some (Name.addressSet group)) →
      ¬ (t = .acl ∧ r.externalIds.get? ExternalId.securityGroup = some group) →
      (((deleteGroup group).perform (history past ids).1 (history past ids).2).2.1.tables t).get? k =
        some r := by
  intro h
  have hkept := h [.request (.createGroup dashed)] (Counter.mk 1) "a_b" .acl "1"
    (.acl ((SecurityGroup.egressDraft "a-b").withUuid "1")) (Counter.neverRepeats _)
    (Counter.neverEmpty _) (by decide +kernel) (by simp) (by simp) (by decide +kernel)
  exact absurd hkept (by decide +kernel)

end Client
end LogicalNet
