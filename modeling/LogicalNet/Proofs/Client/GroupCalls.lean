import LogicalNet.Proofs.Client.SwitchCalls

/-!
# What the calls on security groups write
-/

namespace LogicalNet
namespace Client

open Tables Plan.Ends

variable {calls : List Call} {ts : Tables} {drawn : List String}

/-! ## Groups -/

/-- What takes a port group away together with its lists, and address sets. -/
structure GroupGone (ts : Tables) (old : Option PortGroup) (ops : List Operation) : Prop where
  found : ∀ group ∈ old, (ts .portGroup).get? group.uuid = some (.portGroup group)
  kind : ∀ op ∈ ops, (∃ group ∈ old, (∃ u ∈ group.acls, op = .delete .acl (.uuid u)) ∨
    op = .delete .portGroup (.uuid group.uuid)) ∨ ∃ lookup, op = .delete .addressSet lookup
  aclsGone : ∀ group ∈ old, ∀ u ∈ group.acls, .delete .acl (.uuid u) ∈ ops
  groupGone : ∀ group ∈ old, .delete .portGroup (.uuid group.uuid) ∈ ops

theorem groupGone_of_get? (hts : ts.WellFormed) {lookup : Lookup} {old : Option PortGroup}
    (h : ts.get? .portGroup lookup = old.map .portGroup) {sets : List Operation}
    (hsets : ∀ op ∈ sets, ∃ lookup, op = .delete .addressSet lookup) :
    GroupGone ts old (old.toList.flatMap removeGroup ++ sets) := by
  cases old with
  | none =>
      exact ⟨by simp, fun op hop => .inr (hsets op (by simpa using hop)), by simp, by simp⟩
  | some group =>
      constructor
      · intro group' hgroup'
        cases hgroup'
        exact get?_of_get? hts h
      · intro op hop
        simp only [Option.toList_some, List.flatMap_cons, List.flatMap_nil, List.append_nil,
          removeGroup, List.mem_append, List.mem_map, List.mem_singleton] at hop
        rcases hop with (⟨u, hu, rfl⟩ | rfl) | hop
        · exact .inl ⟨group, rfl, .inl ⟨u, hu, rfl⟩⟩
        · exact .inl ⟨group, rfl, .inr rfl⟩
        · exact .inr (hsets op hop)
      · intro group' hgroup' u hu
        cases hgroup'
        simp [removeGroup, deleteOperation, hu]
      · intro group' hgroup'
        cases hgroup'
        simp [removeGroup, deleteOperation]

namespace GroupGone

variable {old : Option PortGroup} {ops : List Operation}

theorem withdraws (h : GroupGone ts old ops) (hts : ts.WellFormed) :
    ∀ op ∈ ops, Withdraws ts ops op := by
  intro op hop
  rcases h.kind op hop with ⟨group, hgroup, ⟨u, _, rfl⟩ | rfl⟩ | ⟨lookup, rfl⟩
  · exact .owned rfl
  · refine withdraws_owner hts rfl (.portGroup group) (h.found group hgroup) ?_
    intro t c howner u hu
    cases t <;> cases howner
    exact h.aclsGone group hgroup u hu
  · exact withdraws_of_bare rfl (fun t c => by cases t <;> simp [Table.owner?]) _ lookup

/-- Only the lists of the group are not of root tables. -/
theorem eq_acl (h : GroupGone ts old ops) {t : Table} {u : String}
    (hop : .delete t (.uuid u) ∈ ops) (ht : t.isRoot = false) :
    t = .acl ∧ ∃ group ∈ old, u ∈ group.acls := by
  rcases h.kind _ hop with ⟨group, hgroup, ⟨v, hv, heq⟩ | heq⟩ | ⟨lookup, heq⟩
  · cases heq
    exact ⟨rfl, group, hgroup, hv⟩
  · cases heq
    cases ht
  · cases heq
    cases ht

theorem detached (h : GroupGone ts old ops) (hts : Sound (listing calls) nothing ts) :
    Detached ts ops := by
  intro t u hop ht o k row c hrow htarget hu
  rcases h.eq_acl hop ht with ⟨rfl, group, hgroup, hmem⟩
  rcases RefColumn.lister_of_target? htarget ht with howner | ⟨heq, _⟩ | ⟨_, rfl, rfl⟩
  · have howner' := howner
    cases howner'
    exact exists_detaches_of_owner hts howner (.portGroup group) (h.found group hgroup)
      (h.groupGone group hgroup) hrow hu hmem
  · cases heq
  · -- No switch lists an access control list.
    rcases exists_lists hts hrow htarget hu with ⟨r, _, hfits⟩
    exact hfits.elim

end GroupGone

theorem issued_deleteGroup (hts : Sound (listing calls) nothing ts) {group : String}
    {t : Transaction Unit} (h : (deleteGroup group).Ends ts drawn t) :
    Issued calls ts drawn t.operations := by
  rcases of_bind h with ⟨_, old, _, _, hold, hwrite⟩
  rcases of_pure hwrite with ⟨_, rfl⟩
  rcases of_fetch hold with ⟨_, hget⟩
  have hsets : ∀ op ∈ [Operation.delete .addressSet (.name (Name.addressSet group))],
      ∃ lookup, op = .delete .addressSet lookup := by
    intro op hop
    exact ⟨_, List.mem_singleton.mp hop⟩
  have hgone := groupGone_of_get? hts.wellFormed hget hsets
  exact .remove (hgone.withdraws hts.wellFormed) fun _ => hgone.detached hts

theorem map_insert_groupRows (set : AddressSet) (acls : List Acl) (group : PortGroup) :
    (groupRows set acls group).map Operation.insert = [.insert (.addressSet set)] ++
      acls.map (fun acl => .insert (.acl acl)) ++ [.insert (.portGroup group)] := by
  simp [groupRows, Function.comp_def]

theorem headD_drop_mem {uuids : List String} {n : Nat} (h : n < uuids.length) (d : String) :
    (uuids.drop n).headD d ∈ uuids := by
  rw [List.headD_eq_getD, List.getD_eq_getElem?_getD, List.getElem?_drop,
    List.getElem?_eq_getElem (by simpa using h)]
  simp

/-- What is made for a group bears identifiers that were drawn. -/
theorem uuid_mem_of_withUuids {plan : GroupPlan} {uuids : List String}
    (h : uuids.length = plan.size) {addresses ports : List String} {row : Row}
    (hrow : row ∈ groupRows { (plan.withUuids uuids).addressSet with addresses := addresses }
      (plan.withUuids uuids).acls { (plan.withUuids uuids).portGroup with ports := ports }) :
    row.uuid ∈ uuids := by
  have hlength : uuids.length = plan.drafts.length + 2 := h
  rcases List.mem_append.mp hrow with hrow | hrow
  · rcases List.mem_cons.mp hrow with rfl | hrow
    · show ((uuids.drop plan.drafts.length).drop 1).headD "" ∈ uuids
      rw [List.drop_drop]
      exact headD_drop_mem (by omega) ""
    · rcases List.mem_map.mp hrow with ⟨a, ha, rfl⟩
      rcases List.mem_iff_getElem?.mp ha with ⟨i, hi⟩
      rcases List.getElem?_zipWith_eq_some.mp hi with ⟨d, u, _, hu, rfl⟩
      exact List.mem_of_getElem? hu
  · rw [List.mem_singleton.mp hrow]
    exact headD_drop_mem (by omega) ""

/-- The ports of the old group are there and have the names of ports of machines. -/
theorem ports_of_get? (hts : Sound (listing calls) nothing ts) {old : PortGroup}
    (hold : (ts .portGroup).get? old.uuid = some (.portGroup old)) (group : PortGroup) :
    ∀ u ∈ old.ports, ∃ r, (ts .switchPort).get? u = some r ∧
      Lists calls .portGroup .ports (.portGroup group) r := by
  intro u hu
  rcases hts.bond hold (c := .ports) rfl u hu with ⟨r, hr, hfits⟩
  exact ⟨r, hr, hfits⟩

/-- The group is made anew after the old one is gone, with the same ports. -/
theorem issued_regroup (hts : Sound (listing calls) nothing ts) {old : Option PortGroup}
    {gone : List Operation} (hgone : GroupGone ts old gone) {plan : GroupPlan}
    {uuids : List String} (hlength : uuids.length = plan.size) (hdrawn : ∀ u ∈ uuids, u ∈ drawn)
    (addresses : List String) :
    Issued calls ts drawn (gone ++ (groupRows
      { (plan.withUuids uuids).addressSet with addresses := addresses }
      (plan.withUuids uuids).acls
      { (plan.withUuids uuids).portGroup with
        ports := (old.map PortGroup.ports).getD [] }).map .insert) := by
  refine .regroup (hgone.withdraws hts.wellFormed) (hgone.detached hts) ?_ ?_ rfl ?_ ?_ ?_
  · intro op hop
    rcases hgone.kind op hop with ⟨group, _, ⟨u, _, rfl⟩ | rfl⟩ | ⟨lookup, rfl⟩ <;>
      simp [Keeps, Operation.table]
  · intro t u hop ht
    rcases hgone.eq_acl hop ht with ⟨rfl, group, hgroup, hu⟩
    rcases hts.bond (hgone.found group hgroup) (c := .acls) rfl u hu with ⟨r, hr, _⟩
    exact ⟨rfl, r, hr⟩
  · cases old with
    | none =>
        exact .nil
    | some old =>
        exact hts.nodup (hgone.found old rfl) (c := .ports)
  · cases old with
    | none =>
        intro u hu
        cases hu
    | some old =>
        exact ports_of_get? hts (hgone.found old rfl) _
  · intro row hrow
    exact hdrawn _ (uuid_mem_of_withUuids hlength hrow)

theorem issued_createGroup (hts : Sound (listing calls) nothing ts) {group : SecurityGroup}
    {t : Transaction CompiledGroup} (h : (createGroup group).Ends ts drawn t) :
    Issued calls ts drawn t.operations := by
  unfold createGroup at h
  split at h
  · cases h
  · rename_i plan hplan
    rcases of_bind h with ⟨_, uuids, _, hdrawn, huuids, hrest⟩
    rcases of_bind hrest with ⟨_, oldGroup, _, _, holdGroup, hrest⟩
    rcases of_bind hrest with ⟨_, oldSet, _, _, holdSet, hwrite⟩
    rcases of_pure hwrite with ⟨_, rfl⟩
    rcases of_fetch holdGroup with ⟨_, hget⟩
    rcases of_drawUuids huuids with ⟨hus, hlength⟩
    have hsets : ∀ op ∈ oldSet.toList.map (fun old => deleteOperation .addressSet old.uuid),
        ∃ lookup, op = .delete .addressSet lookup := by
      intro op hop
      rcases List.mem_map.mp hop with ⟨set, _, rfl⟩
      exact ⟨_, rfl⟩
    have hmem : ∀ u ∈ uuids, u ∈ drawn := by
      intro u hu
      rw [hdrawn, hus]
      exact List.mem_append_left _ hu
    have hissued := issued_regroup hts (groupGone_of_get? hts.wellFormed hget hsets) hlength hmem
      ((oldSet.map AddressSet.addresses).getD [])
    rw [map_insert_groupRows, ← List.append_assoc, ← List.append_assoc] at hissued
    cases oldGroup <;> cases oldSet <;> exact hissued

/-! ## Members and addresses -/

theorem issued_applyGroup (hts : Sound (listing calls) nothing ts) {port group : String}
    {t : Transaction Unit} (h : (applyGroup port group).Ends ts drawn t) :
    Issued calls ts drawn t.operations := by
  rcases of_bind h with ⟨_, groupRow, _, _, hgroup, hrest⟩
  rcases of_bind hrest with ⟨_, portRow, _, _, hport, hrest⟩
  rcases of_require hport with ⟨_, hget⟩
  split at hrest
  · rcases of_pure hrest with ⟨_, rfl⟩
    exact .reads
  · rcases of_pure hrest with ⟨_, rfl⟩
    refine .link (fun t howner => by cases t <;> cases howner) fun o t r _ htarget hr => ?_
    cases htarget
    have hfound := get?_of_get? hts.wellFormed hget
    change (ts .switchPort).get? portRow.uuid = _ at hfound
    rw [hfound] at hr
    cases hr
    exact ⟨port, name?_of_get? hts.wellFormed hget⟩

theorem issued_removeFromGroup {port group : String} {t : Transaction Unit}
    (h : (removeFromGroup port group).Ends ts drawn t) : Issued calls ts drawn t.operations := by
  rcases of_bind h with ⟨_, found, _, _, _, hrest⟩
  cases found with
  | none =>
      rcases of_pure hrest with ⟨_, rfl⟩
      exact .reads
  | some row =>
      rcases of_pure hrest with ⟨_, rfl⟩
      refine .remove (fun op hop => ?_) fun _ t u hop => ?_
      · rw [List.mem_singleton.mp hop]
        exact .reference fun t howner => by cases t <;> cases howner
      · cases List.mem_singleton.mp hop

theorem issued_updateAddresses {group : String} {addresses : List String}
    {t : Transaction AddressSet} (h : (updateAddresses group addresses).Ends ts drawn t) :
    Issued calls ts drawn t.operations := by
  rcases of_bind h with ⟨_, old, _, _, _, hrest⟩
  split at hrest
  · cases hrest
  · rcases of_pure hrest with ⟨_, rfl⟩
    refine .update rfl (fun c => by cases c <;> rfl) fun c o htarget => ?_
    cases c <;> cases o <;> cases htarget

end Client
end LogicalNet
