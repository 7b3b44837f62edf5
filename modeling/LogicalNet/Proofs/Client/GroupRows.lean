import LogicalNet.Proofs.Client.Bystanders
import LogicalNet.Proofs.Policy.GroupPlans
import LogicalNet.Proofs.Store.Exactness

/-!
# The rows of a security group

A security group is stored as a port group, the access control lists that this lists,
and an address set, found by names made from the id of the group.  Storing a group
and deleting it replace exactly these rows; the other calls on groups change one row
and keep its name and its lists.
-/

namespace LogicalNet
namespace Client

open Tables Plan.Ends

variable {calls : List Call} {ts us : Tables} {drawn : List String}

/-! ## The rows of a group -/

/-- The port group of the group lists the access control list. -/
def ListsAcl (ts : Tables) (group uuid : String) : Prop :=
  ∃ k owner, (ts .portGroup).get? k = some owner ∧
    owner.name? = some (Name.portGroup group) ∧ uuid ∈ owner.refs .acls

inductive OfGroup (ts : Tables) (group : String) (row : Row) : Prop where
  | portGroup (htable : row.table = .portGroup)
      (hname : row.name? = some (Name.portGroup group)) : OfGroup ts group row
  | addressSet (htable : row.table = .addressSet)
      (hname : row.name? = some (Name.addressSet group)) : OfGroup ts group row
  | acl (htable : row.table = .acl) (hlisted : ListsAcl ts group row.uuid) :
      OfGroup ts group row

/-- The rows of the group give way to the new ones, and all others stay as they are. -/
def Replaces (ts us : Tables) (group : String) (rows : List Row) : Prop :=
  ∀ t k r, (us t).get? k = some r ↔
    ((ts t).get? k = some r ∧ ¬ OfGroup ts group r) ∨ (r ∈ rows ∧ r.table = t ∧ r.uuid = k)

/-! ## Taking a group away -/

/-- The port group and its lists. -/
def removed (group : PortGroup) : List (Table × String) :=
  group.acls.map (Table.acl, ·) ++ [(.portGroup, group.uuid)]

theorem removeGroup_eq (group : PortGroup) :
    removeGroup group = (removed group).map fun p => .delete p.1 (.uuid p.2) := by
  simp [removeGroup, removed, deleteOperation, Function.comp_def]

theorem mem_removed {group : PortGroup} {p : Table × String} :
    p ∈ removed group ↔ (p.1 = .acl ∧ p.2 ∈ group.acls) ∨ p = (.portGroup, group.uuid) := by
  rw [removed, List.mem_append, List.mem_singleton, List.mem_map]
  apply or_congr_left
  constructor
  · intro h
    rcases h with ⟨u, hu, rfl⟩
    exact ⟨rfl, hu⟩
  · intro h
    rcases p with ⟨t, u⟩
    rcases h with ⟨rfl, hu⟩
    exact ⟨u, hu, rfl⟩

/-- Nothing but the port group lists its lists. -/
theorem not_mem_of_removed (hts : Sound (listing calls) nothing ts) {group : PortGroup}
    (hgroup : (ts .portGroup).get? group.uuid = some (.portGroup group)) {t : Table} {u : String}
    {r : Row} (hr : (ts t).get? u = some r) (hnot : (t, u) ∉ removed group)
    {p : Table × String} (hp : p ∈ removed group) {c : RefColumn} (htarget : c.target? t = some p.1) :
    p.2 ∉ r.refs c := by
  intro hmem
  rcases mem_removed.mp hp with ⟨htable, hu⟩ | rfl
  · rw [htable] at htarget
    rcases RefColumn.lister_of_target? htarget rfl with howner | ⟨heq, _⟩ | ⟨_, rfl, rfl⟩
    · cases howner
      have hkey := hts.one (t := .acl) (c := .acls) rfl hr hgroup hmem hu
      exact hnot (mem_removed.mpr (.inr (by rw [hkey])))
    · cases heq
    · rcases exists_lists hts hr htarget hmem with ⟨_, _, hfits⟩
      exact hfits.elim
  · cases c <;> cases t <;> cases htarget

/-- The address set of the name goes by the operations, whatever happened to other tables before. -/
def ClearsSet (ts : Tables) (name : String) (ops : List Operation) : Prop :=
  ∀ {vs : Tables}, vs.WellFormed → (∀ k, (vs .addressSet).get? k = (ts .addressSet).get? k) →
    ∃ ws, vs.applyAll ops = .ok ws ∧ ∀ {t k r}, (ws t).get? k = some r ↔
      (vs t).get? k = some r ∧ ¬ (t = .addressSet ∧ r.name? = some name)

theorem addressSet_not_target (o : Table) (c : RefColumn) : c.target? o ≠ some .addressSet := by
  cases c <;> cases o <;> simp [RefColumn.target?]

theorem clearsSet_name (ts : Tables) (name : String) :
    ClearsSet ts name [.delete .addressSet (.name name)] := by
  intro vs hvs _
  refine ⟨_, rfl, fun {t k r} => ?_⟩
  rw [get?_delete_of_not_target hvs addressSet_not_target (.inr rfl)]
  simp [Lookup.addresses]

theorem clearsSet_uuid (hts : ts.WellFormed) {name : String} {old : Option AddressSet}
    (hget : ts.get? .addressSet (.name name) = old.map .addressSet) :
    ClearsSet ts name (old.toList.map fun set => deleteOperation .addressSet set.uuid) := by
  intro vs hvs hsame
  have hnamed : ∀ {k r}, (vs .addressSet).get? k = some r →
      (r.name? = some name ↔ old.map .addressSet = some r) := by
    intro k r hr
    rw [hsame] at hr
    rw [hts.name?_eq_iff rfl hr, hget]
  cases old with
  | none =>
      refine ⟨vs, rfl, fun {t k r} => ?_⟩
      constructor
      · intro hr
        refine ⟨hr, fun hfound => ?_⟩
        rcases hfound with ⟨rfl, hname⟩
        cases (hnamed hr).mp hname
      · intro hr
        exact hr.1
  | some set =>
      have hset : (vs .addressSet).get? set.uuid = some (.addressSet set) := by
        rw [hsame]
        exact get?_of_get? hts hget
      refine ⟨_, rfl, fun {t k r} => ?_⟩
      show (vs.delete .addressSet (.uuid set.uuid) t).get? k = some r ↔ _
      rw [get?_delete_of_not_target hvs addressSet_not_target (.inl ⟨_, rfl⟩)]
      apply and_congr_right
      intro hr
      apply not_congr
      apply and_congr_right
      intro htable
      subst htable
      rw [hnamed hr]
      simp only [Lookup.addresses, beq_iff_eq, Option.map_some, Option.some.injEq]
      constructor
      · intro huuid
        rw [hvs.uuid_eq hr] at huuid
        rw [huuid, hset] at hr
        exact Option.some.inj hr
      · intro heq
        rw [← heq]
        rfl

/-- The rows of a group, by the places that are cleared when it goes. -/
theorem ofGroup_iff (hts : ts.WellFormed) {group : String} {old : Option PortGroup}
    (hget : ts.get? .portGroup (.name (Name.portGroup group)) = old.map .portGroup) {t : Table}
    {k : String} {r : Row} (hr : (ts t).get? k = some r) :
    OfGroup ts group r ↔ (∃ g ∈ old, (t, k) ∈ removed g) ∨
      (t = .addressSet ∧ r.name? = some (Name.addressSet group)) := by
  have htable := hts.table_eq hr
  have huuid := hts.uuid_eq hr
  constructor
  · intro h
    cases h with
    | portGroup hportGroup hname =>
        rw [htable] at hportGroup
        subst hportGroup
        have hread := (hts.name?_eq_iff rfl hr).mp hname
        rw [hget] at hread
        rcases Option.map_eq_some_iff.mp hread with ⟨g, hg, rfl⟩
        exact .inl ⟨g, hg, mem_removed.mpr (.inr (by rw [← huuid]; rfl))⟩
    | addressSet haddressSet hname =>
        exact .inr ⟨htable ▸ haddressSet, hname⟩
    | acl hacl hlists =>
        rcases hlists with ⟨_, owner, howner, hname, hlisted⟩
        have hread := (hts.name?_eq_iff rfl howner).mp hname
        rw [hget] at hread
        rcases Option.map_eq_some_iff.mp hread with ⟨g, hg, rfl⟩
        refine .inl ⟨g, hg, mem_removed.mpr (.inl ⟨htable ▸ hacl, ?_⟩)⟩
        rw [← huuid]
        exact hlisted
  · intro h
    rcases h with ⟨g, hg, hmem⟩ | ⟨haddressSet, hname⟩
    · rw [Option.mem_def.mp hg] at hget
      have hrow := get?_of_get? hts hget
      have hname := name?_of_get? hts hget
      rcases mem_removed.mp hmem with ⟨hacl, hlisted⟩ | heq
      · apply OfGroup.acl (htable.trans hacl)
        refine ⟨_, _, hrow, hname, ?_⟩
        rw [huuid]
        exact hlisted
      · cases heq
        change (ts .portGroup).get? g.uuid = _ at hrow
        rw [hrow] at hr
        cases hr
        exact .portGroup rfl hname
    · exact .addressSet (htable.trans haddressSet) hname

theorem exists_applyAll_removeGroup (hts : Sound (listing calls) nothing ts) {name : String}
    {old : Option PortGroup} (hget : ts.get? .portGroup (.name name) = old.map .portGroup) :
    ∃ vs, ts.applyAll (old.toList.flatMap removeGroup) = .ok vs ∧
      ∀ t k, (vs t).get? k = if ∃ g ∈ old, (t, k) ∈ removed g then none else (ts t).get? k := by
  cases old with
  | none =>
      exact ⟨ts, rfl, by simp⟩
  | some g =>
      have hrow := get?_of_get? hts.wellFormed hget
      refine ⟨ts.deleteAll (removed g), ?_, fun t k => ?_⟩
      · simp only [Option.toList_some, List.flatMap_cons, List.flatMap_nil, List.append_nil,
          removeGroup_eq]
        exact applyAll_deletions ts (removed g)
      · rw [get?_deleteAll_of_closed hts.wellFormed fun hr hnot p hp c htarget =>
          not_mem_of_removed hts hrow hr hnot hp htarget]
        simp

/-- Exactly the rows of the group go. -/
theorem exists_gone (hts : Sound (listing calls) nothing ts) {group : String}
    {old : Option PortGroup}
    (hget : ts.get? .portGroup (.name (Name.portGroup group)) = old.map .portGroup)
    {sets : List Operation} (hsets : ClearsSet ts (Name.addressSet group) sets) :
    ∃ ws, ts.applyAll (old.toList.flatMap removeGroup ++ sets) = .ok ws ∧
      ∀ {t k r}, (ws t).get? k = some r ↔ (ts t).get? k = some r ∧ ¬ OfGroup ts group r := by
  rcases exists_applyAll_removeGroup hts hget with ⟨vs, hvs, hgone⟩
  have hset : ∀ k, (vs .addressSet).get? k = (ts .addressSet).get? k := by
    intro k
    rw [hgone, if_neg]
    intro hfound
    rcases hfound with ⟨g, _, hmem⟩
    rcases mem_removed.mp hmem with ⟨htable, _⟩ | heq
    · cases htable
    · cases heq
  rcases hsets (hts.wellFormed.applyAll hvs) hset with ⟨ws, hws, hcleared⟩
  refine ⟨ws, applyAll_append_eq_ok_iff.mpr ⟨vs, hvs, hws⟩, fun {t k r} => ?_⟩
  rw [hcleared, hgone]
  constructor
  · intro h
    rcases h with ⟨hr, hnotSet⟩
    split at hr
    · cases hr
    · rename_i hnot
      rw [ofGroup_iff hts.wellFormed hget hr]
      exact ⟨hr, fun hof => hof.elim hnot hnotSet⟩
  · intro h
    rcases h with ⟨hr, hnot⟩
    rw [ofGroup_iff hts.wellFormed hget hr] at hnot
    constructor
    · rw [if_neg fun hfound => hnot (.inl hfound)]
      exact hr
    · exact fun hfound => hnot (.inr hfound)

theorem replaces_deleteGroup (hts : Sound (listing calls) nothing ts) {group : String}
    {t : Transaction Unit} (h : (deleteGroup group).Ends ts drawn t)
    (hops : ts.applyAll t.operations = .ok us) : Replaces ts us group [] := by
  rcases of_bind h with ⟨_, old, _, _, hold, hwrite⟩
  rcases of_pure hwrite with ⟨_, rfl⟩
  rcases of_fetch hold with ⟨_, hget⟩
  rcases exists_gone hts hget (clearsSet_name ts _) with ⟨ws, hws, hgone⟩
  change ts.applyAll (_ ++ _) = .ok us at hops
  rw [hws] at hops
  cases hops
  intro t k r
  rw [hgone]
  simp

theorem total_deleteGroup (hts : ts.WellFormed) (group : String) : (deleteGroup group).Total ts := by
  apply Plan.Total.bind (.fetch hts _)
  intro _ old _
  exact .done _

theorem exists_applyAll_deleteGroup (hts : Sound (listing calls) nothing ts) {group : String}
    {t : Transaction Unit} (h : (deleteGroup group).Ends ts drawn t) :
    ∃ us, ts.applyAll t.operations = .ok us := by
  rcases of_bind h with ⟨_, old, _, _, hold, hwrite⟩
  rcases of_pure hwrite with ⟨_, rfl⟩
  rcases of_fetch hold with ⟨_, hget⟩
  rcases exists_gone hts hget (clearsSet_name ts _) with ⟨us, hus, _⟩
  exact ⟨us, hus⟩

/-- The deletion of a group never fails. -/
theorem exists_perform_deleteGroup {ι : Type} [IdSource ι] {m : Memory}
    (hts : Sound (listing calls) nothing m.tables) (group : String) (ids : ι) :
    ∃ a, ((Request.deleteGroup group).perform m ids).1 = .ok a := by
  apply Plan.exists_perform_translated (total_deleteGroup hts.wellFormed group)
  intro us ids' t _ hends
  exact exists_applyAll_deleteGroup hts hends

/-! ## Storing a group -/

/-- The members of the port group of the name. -/
def portsOf (ts : Tables) (name : String) : List String :=
  match ts.get? .portGroup (.name name) with
  | some row => row.refs .ports
  | none => []

/-- The addresses of the address set of the name. -/
def addressesOf (ts : Tables) (name : String) : List String :=
  match ts.get? .addressSet (.name name) with
  | some (.addressSet set) => set.addresses
  | _ => []

/-- The compiled group with the members and the addresses that are stored under its names. -/
def carriedOver (ts : Tables) (c : CompiledGroup) : CompiledGroup where
  acls := c.acls
  portGroup := { c.portGroup with ports := portsOf ts c.portGroup.name }
  addressSet := { c.addressSet with addresses := addressesOf ts c.addressSet.name }
  skipped := c.skipped

def storedRows (c : CompiledGroup) : List Row :=
  groupRows c.addressSet c.acls c.portGroup

/-- The old rows are taken away before the new ones are made. -/
theorem operations_createGroup (hts : ts.WellFormed) {group : SecurityGroup}
    {t : Transaction CompiledGroup} (h : (createGroup group).Ends ts drawn t) :
    ∃ plan, group.plan = .ok plan ∧ drawn.length = plan.size ∧
      t.result = carriedOver ts (plan.withUuids drawn) ∧
      ∃ (old : Option PortGroup) (sets : List Operation),
        ts.get? .portGroup (.name (Name.portGroup plan.group)) = old.map .portGroup ∧
        ClearsSet ts (Name.addressSet plan.group) sets ∧
        (∀ op ∈ sets, ∃ lookup, op = .delete .addressSet lookup) ∧
        t.operations = (old.toList.flatMap removeGroup ++ sets) ++
          (storedRows t.result).map .insert := by
  unfold createGroup at h
  split at h
  · cases h
  · rename_i plan hplan
    rcases of_bind h with ⟨_, uuids, _, rfl, huuids, hrest⟩
    rcases of_bind hrest with ⟨_, oldGroup, _, rfl, holdGroup, hrest⟩
    rcases of_bind hrest with ⟨_, oldSet, _, rfl, holdSet, hwrite⟩
    rcases of_pure hwrite with ⟨rfl, rfl⟩
    rcases of_fetch holdGroup with ⟨rfl, hgroup⟩
    rcases of_fetch holdSet with ⟨rfl, hset⟩
    rcases of_drawUuids huuids with ⟨rfl, hlength⟩
    change ts.get? .portGroup (.name (Name.portGroup plan.group)) = oldGroup.map .portGroup at hgroup
    change ts.get? .addressSet (.name (Name.addressSet plan.group)) = oldSet.map .addressSet at hset
    refine ⟨plan, hplan, by simpa using hlength, ?_, oldGroup, _, hgroup,
      clearsSet_uuid hts hset, ?_, ?_⟩
    · have hports : portsOf ts (Name.portGroup plan.group) =
          (oldGroup.map PortGroup.ports).getD [] := by
        rw [portsOf, hgroup]
        cases oldGroup <;> rfl
      have haddresses : addressesOf ts (Name.addressSet plan.group) =
          (oldSet.map AddressSet.addresses).getD [] := by
        rw [addressesOf, hset]
        cases oldSet <;> rfl
      simp only [carriedOver, GroupPlan.withUuids, hports, haddresses, List.append_nil]
      cases oldGroup <;> cases oldSet <;> rfl
    · intro op hop
      rcases List.mem_map.mp hop with ⟨set, _, rfl⟩
      exact ⟨_, rfl⟩
    · rw [storedRows, map_insert_groupRows]
      simp only [List.append_assoc]

theorem replaces_createGroup (hts : Sound (listing calls) nothing ts) {group : SecurityGroup}
    {t : Transaction CompiledGroup} (h : (createGroup group).Ends ts drawn t)
    (hops : ts.applyAll t.operations = .ok us) : Replaces ts us group.id (storedRows t.result) := by
  rcases operations_createGroup hts.wellFormed h with
    ⟨plan, hplan, _, _, old, sets, hget, hsets, _, hoperations⟩
  rw [SecurityGroup.group_of_plan hplan] at hget hsets
  rw [hoperations] at hops
  rcases exists_gone hts hget hsets with ⟨ws, hws, hgone⟩
  rcases applyAll_append_eq_ok_iff.mp hops with ⟨ws', hws', hmade⟩
  rw [hws] at hws'
  cases hws'
  have hwell := hts.wellFormed.applyAll hws
  have hinserted := inserted_of_applyAll hwell hmade
  intro t' k r
  constructor
  · intro hr
    rcases hinserted.old hr with hold | ⟨hmem, htable⟩
    · exact .inl (hgone.mp hold)
    · exact .inr ⟨hmem, htable, (hwell.applyAll hmade).uuid_eq hr⟩
  · intro hcases
    rcases hcases with hold | ⟨hmem, rfl, rfl⟩
    · exact hinserted.kept (hgone.mpr hold)
    · exact hinserted.made r hmem

/-! ## Changing one row of a group -/

theorem changes_applyGroup (hts : ts.WellFormed) {port group : String} {t : Transaction Unit}
    (h : (applyGroup port group).Ends ts drawn t) (hops : ts.applyAll t.operations = .ok us) :
    ∃ p : SwitchPort, ts.get? .switchPort (.name (Name.switchPort port)) = some (.switchPort p) ∧
      ts.HasNamed .portGroup (Name.portGroup group) ∧
      ChangesNamed .portGroup (Name.portGroup group)
        (Row.mapReferences (addMissing · [p.uuid]) .ports) ts us := by
  rcases of_bind h with ⟨_, groupRow, _, _, hgroup, hrest⟩
  rcases of_bind hrest with ⟨_, portRow, _, _, hport, hrest⟩
  rcases of_require hgroup with ⟨_, hgetGroup⟩
  rcases of_require hport with ⟨_, hgetPort⟩
  change ts.get? .portGroup (.name (Name.portGroup group)) = some (.portGroup groupRow) at hgetGroup
  have hnamed : ts.HasNamed .portGroup (Name.portGroup group) := by
    rw [hts.hasNamed_iff rfl, hgetGroup]
    rfl
  refine ⟨portRow, hgetPort, hnamed, ?_⟩
  split at hrest
  · rename_i hcontains
    rcases of_pure hrest with ⟨_, rfl⟩
    cases hops
    apply changesNamed_of_fixed hts rfl
    intro row hrow
    rw [hgetGroup] at hrow
    cases hrow
    apply Row.mapReferences_eq_self
    show addMissing groupRow.ports [portRow.uuid] = groupRow.ports
    rw [addMissing, List.foldl_cons, if_pos hcontains]
    rfl
  · rcases of_pure hrest with ⟨_, rfl⟩
    rcases applyAll_cons_eq_ok_iff.mp hops with ⟨vs, hop, hdone⟩
    cases hdone
    cases effect_of_apply hts hop with
    | addRefs _ _ hkey hrow _ =>
        cases eq_of_findKey?_uuid hkey
        have hgroupRow := get?_of_get? hts hgetGroup
        change (ts .portGroup).get? groupRow.uuid = _ at hgroupRow
        rw [hgroupRow] at hrow
        cases hrow
        exact changesNamed_of_setRow hts rfl hgetGroup _

theorem changes_removeFromGroup (hts : ts.WellFormed) {port group : String} {t : Transaction Unit}
    (h : (removeFromGroup port group).Ends ts drawn t)
    (hops : ts.applyAll t.operations = .ok us) :
    (ts.get? .switchPort (.name (Name.switchPort port)) = none ∧ us = ts) ∨
      ∃ p : SwitchPort,
        ts.get? .switchPort (.name (Name.switchPort port)) = some (.switchPort p) ∧
        ChangesNamed .portGroup (Name.portGroup group)
          (Row.mapReferences (List.filter (· ∉ [p.uuid])) .ports) ts us := by
  rcases of_bind h with ⟨_, found, _, _, hfound, hrest⟩
  rcases of_fetch hfound with ⟨_, hget⟩
  cases found with
  | none =>
      rcases of_pure hrest with ⟨_, rfl⟩
      cases hops
      exact .inl ⟨hget, rfl⟩
  | some row =>
      rcases of_pure hrest with ⟨_, rfl⟩
      rcases applyAll_cons_eq_ok_iff.mp hops with ⟨vs, hop, hdone⟩
      cases hdone
      refine .inr ⟨row, hget, ?_⟩
      have heffect := effect_of_apply hts hop
      generalize hremoved : [row.uuid] = uuids at heffect ⊢
      cases heffect with
      | @removeRefs _ _ _ _ key groupRow _ hkey hrow =>
          have hgetGroup : ts.get? .portGroup (.name (Name.portGroup group)) = some groupRow := by
            rw [Tables.get?, hkey]
            exact hrow
          rw [← hts.uuid_eq hrow]
          exact changesNamed_of_setRow hts rfl hgetGroup _
      | removeRefsNone _ hkey =>
          apply changesNamed_of_fixed hts rfl
          intro groupRow hgetGroup
          rw [Tables.get?, hkey] at hgetGroup
          cases hgetGroup

/-- The row with the addresses, if it is an address set. -/
def withAddresses (addresses : List String) : Row → Row
  | .addressSet set => .addressSet { set with addresses := addresses }
  | row => row

theorem changes_updateAddresses (hts : ts.WellFormed) {group : String} {addresses : List String}
    {t : Transaction AddressSet} (h : (updateAddresses group addresses).Ends ts drawn t)
    (hops : ts.applyAll t.operations = .ok us) :
    ChangesNamed .addressSet (Name.addressSet group) (withAddresses addresses) ts us := by
  rcases of_bind h with ⟨_, old, _, _, hold, hrest⟩
  rcases of_require hold with ⟨_, hget⟩
  split at hrest
  · cases hrest
  · rcases of_pure hrest with ⟨_, rfl⟩
    rcases applyAll_cons_eq_ok_iff.mp hops with ⟨vs, hop, hdone⟩
    cases hdone
    cases effect_of_apply hts hop with
    | update _ _ _ =>
        exact changesNamed_of_setRow hts rfl hget (withAddresses addresses)

end Client
end LogicalNet
