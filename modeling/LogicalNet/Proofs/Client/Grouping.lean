import LogicalNet.Proofs.Client.GroupRows
import Mathlib.Data.List.Induction

/-!
# Security groups in every history

After any calls, the port group and the address set of a security group are there
together or not at all, and every access control list names a group whose port group
lists it.
-/

namespace LogicalNet
namespace Client

open Tables

variable {calls : List Call} {ts us : Tables} {group : String}

/-! ## One more call -/

section Histories

variable {ι : Type} [IdSource ι]

theorem performAll_append {σ : Type} [Store σ] (past later : List Call) (s : σ) (ids : ι) :
    performAll (past ++ later) s ids =
      performAll later (performAll past s ids).1 (performAll past s ids).2 := by
  induction past generalizing s ids with
  | nil =>
      rfl
  | cons call rest ih =>
      exact ih _ _

theorem history_append_singleton (past : List Call) (call : Call) (ids : ι) :
    history (past ++ [call]) ids = call.perform (history past ids).1 (history past ids).2 :=
  performAll_append past [call] Memory.empty ids

/-- What is seen of a history is owned, also by the calls of a longer one. -/
theorem sound_history {past : List Call} (hpast : ∀ call ∈ past, call ∈ calls) (ids : ι) :
    Sound (listing calls) nothing (history past ids).1.tables :=
  (kept_history hpast ids).sound

theorem Request.Writes.sound (hts : Sound (listing calls) nothing ts) {r : Request}
    (hcall : .request r ∈ calls) (h : r.Writes ts us) : Sound (listing calls) nothing us := by
  cases h with
  | call hends hops =>
      exact (issued_plan hts hcall hends).sound hts hops
  | dhcp _ hends hops =>
      exact (issued_createNetworkDhcp hends).sound hts hops

/-- What holds of the empty tables holds after every history, if every transaction of its calls
keeps it. -/
theorem history_induction {motive : Tables → Prop} (calls : List Call) (ids : ι)
    (hstart : motive Tables.empty)
    (hstep : ∀ {r : Request} {ts us : Tables}, Sound (listing calls) nothing ts →
      .request r ∈ calls → motive ts → r.Writes ts us → motive us) :
    motive (history calls ids).1.tables := by
  -- what is owned goes by all of `calls`, so the induction is on a first part of them
  have hpast : ∀ past : List Call, (∀ call ∈ past, call ∈ calls) →
      motive (history past ids).1.tables := by
    intro past
    induction past using List.reverseRecOn with
    | nil =>
        intro _
        exact hstart
    | append_singleton past call ih =>
        intro hpast
        have hearlier : ∀ call' ∈ past, call' ∈ calls := fun call' hcall' =>
          hpast call' (List.mem_append_left _ hcall')
        have hbefore := ih hearlier
        have hsound := sound_history hearlier ids
        have hcall := hpast call (by simp)
        rw [history_append_singleton]
        cases call with
        | close =>
            exact hbefore
        | request r =>
            have hboth := Request.perform_induction
              (motive := fun ts => Sound (listing calls) nothing ts ∧ motive ts) r
              (history past ids).1 (history past ids).2 ⟨hsound, hbefore⟩
              fun h hwrites => ⟨hwrites.sound h.1 hcall, hstep h.1 hcall h.2 hwrites⟩
            exact hboth.2
  exact hpast calls fun _ hcall => hcall

end Histories

/-! ## Names of groups -/

theorem portGroup_eq_iff {a b : String} :
    Name.portGroup a = Name.portGroup b ↔ Name.underscored a = Name.underscored b :=
  String.append_right_inj "pg_sg_"

theorem addressSet_eq_iff {a b : String} :
    Name.addressSet a = Name.addressSet b ↔ Name.underscored a = Name.underscored b :=
  String.append_right_inj "as_sg_"

/-! ## Groups and their rows -/

/-- The two rows of the names of a group are there together, and every access control list names a
group whose port group lists it. -/
structure Grouped (ts : Tables) : Prop where
  paired : ∀ group, ts.HasNamed .portGroup (Name.portGroup group) ↔
    ts.HasNamed .addressSet (Name.addressSet group)
  listed : ∀ {k r}, (ts .acl).get? k = some r →
    ∃ group, r.externalIds.get? ExternalId.securityGroup = some group ∧ ListsAcl ts group k

theorem Grouped.empty : Grouped Tables.empty := by
  constructor
  · intro group
    constructor
    · intro h
      rcases h with ⟨k, r, hr, _⟩
      rw [rows_empty] at hr
      cases hr
    · intro h
      rcases h with ⟨k, r, hr, _⟩
      rw [rows_empty] at hr
      cases hr
  · intro k r hr
    rw [rows_empty] at hr
    cases hr

/-- Only port groups of one name list a row. -/
theorem ListsAcl.name_eq (hts : Sound (listing calls) nothing ts) {other u : String}
    (h : ListsAcl ts group u) (h' : ListsAcl ts other u) :
    Name.portGroup group = Name.portGroup other := by
  rcases h with ⟨k, owner, howner, hname, hu⟩
  rcases h' with ⟨k', owner', howner', hname', hu'⟩
  have hkey := hts.one (t := .acl) (c := .acls) rfl howner howner' hu hu'
  rw [hkey, howner'] at howner
  cases howner
  rw [hname] at hname'
  exact Option.some.inj hname'

/-- The port group of a name lists the access control lists of all groups with that name. -/
theorem Grouped.listsAcl_iff (hgrouped : Grouped ts) (hts : Sound (listing calls) nothing ts)
    {k : String} {r : Row} (hr : (ts .acl).get? k = some r) :
    ListsAcl ts group k ↔ ∃ other, r.externalIds.get? ExternalId.securityGroup = some other ∧
      Name.underscored other = Name.underscored group := by
  rcases hgrouped.listed hr with ⟨owner, howner, hlists⟩
  constructor
  · intro h
    exact ⟨owner, howner, portGroup_eq_iff.mp (hlists.name_eq hts h)⟩
  · intro h
    rcases h with ⟨other, hother, hsame⟩
    rw [howner] at hother
    cases hother
    unfold ListsAcl
    rw [← portGroup_eq_iff.mpr hsame]
    exact hlists

/-! ## Changes that keep names and lists -/

/-- The name and the access control lists of a port group. -/
def outline (r : Row) : Option String × List String :=
  (r.name?, r.refs .acls)

/-- The groups have the same names and lists; members and addresses may be others. -/
structure SameGroups (ts us : Tables) : Prop where
  portGroups : ∀ k, ((us .portGroup).get? k).map outline = ((ts .portGroup).get? k).map outline
  addressSets : ∀ k, ((us .addressSet).get? k).map Row.name? =
    ((ts .addressSet).get? k).map Row.name?
  acls : ∀ k, (us .acl).get? k = (ts .acl).get? k

theorem exists_of_map_eq {β : Type} {f : Row → β} {r s : Option Row} (h : s.map f = r.map f)
    {a : Row} (ha : r = some a) : ∃ b, s = some b ∧ f b = f a := by
  rw [ha, Option.map_some] at h
  exact Option.map_eq_some_iff.mp h

namespace SameGroups

theorem symm (h : SameGroups ts us) : SameGroups us ts :=
  ⟨fun k => (h.portGroups k).symm, fun k => (h.addressSets k).symm, fun k => (h.acls k).symm⟩

theorem portGroup {n : String} (h : SameGroups ts us) (hts : ts.HasNamed .portGroup n) :
    us.HasNamed .portGroup n := by
  rcases hts with ⟨k, r, hr, hname⟩
  rcases exists_of_map_eq (h.portGroups k) hr with ⟨s, hs, hsame⟩
  exact ⟨k, s, hs, (Prod.ext_iff.mp hsame).1.trans hname⟩

theorem addressSet {n : String} (h : SameGroups ts us) (hts : ts.HasNamed .addressSet n) :
    us.HasNamed .addressSet n := by
  rcases hts with ⟨k, r, hr, hname⟩
  rcases exists_of_map_eq (h.addressSets k) hr with ⟨s, hs, hsame⟩
  exact ⟨k, s, hs, hsame.trans hname⟩

theorem listsAcl {u : String} (h : SameGroups ts us) (hts : ListsAcl ts group u) :
    ListsAcl us group u := by
  rcases hts with ⟨k, r, hr, hname, hu⟩
  rcases exists_of_map_eq (h.portGroups k) hr with ⟨s, hs, hsame⟩
  rcases Prod.ext_iff.mp hsame with ⟨hsameName, hsameAcls⟩
  refine ⟨k, s, hs, hsameName.trans hname, ?_⟩
  change s.refs .acls = r.refs .acls at hsameAcls
  rw [hsameAcls]
  exact hu

theorem grouped (h : SameGroups ts us) (hts : Grouped ts) : Grouped us := by
  constructor
  · intro group
    constructor
    · intro hportGroup
      exact h.addressSet ((hts.paired group).mp (h.symm.portGroup hportGroup))
    · intro haddressSet
      exact h.portGroup ((hts.paired group).mpr (h.symm.addressSet haddressSet))
  · intro k r hr
    rw [h.acls] at hr
    rcases hts.listed hr with ⟨group, hgroup, hlists⟩
    exact ⟨group, hgroup, h.listsAcl hlists⟩

theorem of_spared {gone : String → Prop} (h : Spared gone ts us) : SameGroups ts us := by
  constructor
  · intro k
    cases hr : (ts .portGroup).get? k with
    | none =>
        have hrel := h.portGroups k
        rw [hr] at hrel
        generalize (us .portGroup).get? k = s at hrel ⊢
        cases hrel
        rfl
    | some r =>
        rcases h.exists_kept hr with ⟨s, hs, hslimmer⟩
        rw [hs, Option.map_some, Option.map_some, outline, outline, hslimmer.name?, hslimmer.acls]
  · intro k
    rw [h.addressSets]
  · intro k
    exact h.acls k

/-- The row of a name is changed, but not its name and its lists. -/
theorem of_changesNamed {table : Table} {name : String} {f : Row → Row} (htable : table ≠ .acl)
    (hname : ∀ r, (f r).name? = r.name?) (hacls : ∀ r, (f r).refs .acls = r.refs .acls)
    (h : ChangesNamed table name f ts us) : SameGroups ts us := by
  constructor
  · intro k
    rw [h, Option.map_map]
    congr 1
    funext r
    show outline (if _ then f r else r) = outline r
    split
    · rw [outline, outline, hname, hacls]
    · rfl
  · intro k
    rw [h, Option.map_map]
    congr 1
    funext r
    show (if _ then f r else r).name? = r.name?
    split
    · exact hname r
    · rfl
  · intro k
    exact h.get?_of_ne (Ne.symm htable) k

end SameGroups

/-! ## Changes that replace a group -/

/-- The rows of a name: those from before, unless the name is that of the group, and the new ones. -/
theorem Replaces.exists_named_iff {rows : List Row} {table : Table} {name : String}
    (hts : ts.WellFormed)
    (hof : ∀ r : Row, r.table = table → (OfGroup ts group r ↔ r.name? = some name))
    (h : Replaces ts us group rows) (n : String) (Q : Row → Prop) :
    (∃ k r, (us table).get? k = some r ∧ r.name? = some n ∧ Q r) ↔
      ((∃ k r, (ts table).get? k = some r ∧ r.name? = some n ∧ Q r) ∧ n ≠ name) ∨
        ∃ r ∈ rows, r.table = table ∧ r.name? = some n ∧ Q r := by
  constructor
  · intro hus
    rcases hus with ⟨k, r, hr, hname, hQ⟩
    rcases (h _ _ _).mp hr with ⟨hold, hnot⟩ | ⟨hmem, htable, _⟩
    · rw [hof r (hts.table_eq hold)] at hnot
      refine .inl ⟨⟨k, r, hold, hname, hQ⟩, fun hsame => hnot ?_⟩
      rw [← hsame]
      exact hname
    · exact .inr ⟨r, hmem, htable, hname, hQ⟩
  · intro hcases
    rcases hcases with ⟨⟨k, r, hr, hname, hQ⟩, hne⟩ | ⟨r, hmem, htable, hname, hQ⟩
    · refine ⟨k, r, (h _ _ _).mpr (.inl ⟨hr, fun hofGroup => hne ?_⟩), hname, hQ⟩
      rw [hof r (hts.table_eq hr), hname] at hofGroup
      exact Option.some.inj hofGroup
    · exact ⟨r.uuid, r, (h _ _ _).mpr (.inr ⟨hmem, htable, rfl⟩), hname, hQ⟩

theorem Replaces.hasNamed {rows : List Row} {table : Table} {name : String}
    (hts : ts.WellFormed)
    (hof : ∀ r : Row, r.table = table → (OfGroup ts group r ↔ r.name? = some name))
    (h : Replaces ts us group rows) (n : String) : us.HasNamed table n ↔
      (ts.HasNamed table n ∧ n ≠ name) ∨ ∃ r ∈ rows, r.table = table ∧ r.name? = some n := by
  simpa [HasNamed] using h.exists_named_iff hts hof n fun _ => True

theorem ofGroup_portGroup_iff (r : Row) (h : r.table = .portGroup) :
    OfGroup ts group r ↔ r.name? = some (Name.portGroup group) := by
  constructor
  · intro hof
    cases hof with
    | portGroup _ hname =>
        exact hname
    | addressSet htable _ =>
        cases h.symm.trans htable
    | acl htable _ =>
        cases h.symm.trans htable
  · intro hname
    exact .portGroup h hname

theorem ofGroup_acl_iff (r : Row) (h : r.table = .acl) :
    OfGroup ts group r ↔ ListsAcl ts group r.uuid := by
  constructor
  · intro hof
    cases hof with
    | portGroup htable _ =>
        cases h.symm.trans htable
    | addressSet htable _ =>
        cases h.symm.trans htable
    | acl _ hlisted =>
        exact hlisted
  · intro hlisted
    exact .acl h hlisted

theorem ofGroup_addressSet_iff (r : Row) (h : r.table = .addressSet) :
    OfGroup ts group r ↔ r.name? = some (Name.addressSet group) := by
  constructor
  · intro hof
    cases hof with
    | portGroup htable _ =>
        cases h.symm.trans htable
    | addressSet _ hname =>
        exact hname
    | acl htable _ =>
        cases h.symm.trans htable
  · intro hname
    exact .addressSet h hname

/-- A list that stays is still listed by the port group of the group that it names. -/
theorem Replaces.listed {rows : List Row} (h : Replaces ts us group rows) (hts : ts.WellFormed)
    (hgrouped : Grouped ts) {k : String} {r : Row} (hr : (ts .acl).get? k = some r)
    (hnot : ¬ OfGroup ts group r) :
    ∃ x, r.externalIds.get? ExternalId.securityGroup = some x ∧ ListsAcl us x k := by
  rcases hgrouped.listed hr with ⟨x, hx, k', owner, howner, hname, hu⟩
  have hkept : ¬ OfGroup ts group owner := by
    intro hof
    have hownerName := (ofGroup_portGroup_iff owner (hts.table_eq howner)).mp hof
    apply hnot
    apply OfGroup.acl (hts.table_eq hr)
    rw [hts.uuid_eq hr]
    exact ⟨k', owner, howner, hownerName, hu⟩
  exact ⟨x, hx, k', owner, (h _ _ _).mpr (.inl ⟨howner, hkept⟩), hname, hu⟩

theorem Replaces.grouped_of_nil (h : Replaces ts us group []) (hts : ts.WellFormed)
    (hgrouped : Grouped ts) : Grouped us := by
  constructor
  · intro x
    rw [h.hasNamed hts ofGroup_portGroup_iff, h.hasNamed hts ofGroup_addressSet_iff,
      hgrouped.paired x, Ne, Ne, portGroup_eq_iff, addressSet_eq_iff]
    simp
  · intro k r hr
    rcases (h _ _ _).mp hr with ⟨hold, hnot⟩ | ⟨hmem, _⟩
    · exact h.listed hts hgrouped hold hnot
    · cases hmem

/-- The rows of a compiled group of the id. -/
structure Compiles (group : String) (c : CompiledGroup) : Prop where
  portGroup : c.portGroup.name = Name.portGroup group
  addressSet : c.addressSet.name = Name.addressSet group
  lists : c.portGroup.acls = c.acls.map Acl.uuid
  acls : ∀ a ∈ c.acls, a.externalIds.get? ExternalId.securityGroup = some group

theorem mem_storedRows {c : CompiledGroup} {r : Row} : r ∈ storedRows c ↔
    r = .addressSet c.addressSet ∨ (∃ a ∈ c.acls, r = .acl a) ∨ r = .portGroup c.portGroup := by
  simp [storedRows, groupRows, eq_comm]

theorem Compiles.hasNamed_portGroup {c : CompiledGroup} (h : Compiles group c) (n : String) :
    (∃ r ∈ storedRows c, r.table = .portGroup ∧ r.name? = some n) ↔ n = Name.portGroup group := by
  constructor
  · intro hfound
    rcases hfound with ⟨r, hr, htable, hname⟩
    rcases mem_storedRows.mp hr with rfl | ⟨a, _, rfl⟩ | rfl
    · cases htable
    · cases htable
    · rw [← Option.some.inj hname]
      exact h.portGroup
  · intro hn
    refine ⟨_, mem_storedRows.mpr (.inr (.inr rfl)), rfl, ?_⟩
    show some c.portGroup.name = some n
    rw [h.portGroup, hn]

theorem Compiles.hasNamed_addressSet {c : CompiledGroup} (h : Compiles group c) (n : String) :
    (∃ r ∈ storedRows c, r.table = .addressSet ∧ r.name? = some n) ↔ n = Name.addressSet group := by
  constructor
  · intro hfound
    rcases hfound with ⟨r, hr, htable, hname⟩
    rcases mem_storedRows.mp hr with rfl | ⟨a, _, rfl⟩ | rfl
    · rw [← Option.some.inj hname]
      exact h.addressSet
    · cases htable
    · cases htable
  · intro hn
    refine ⟨_, mem_storedRows.mpr (.inl rfl), rfl, ?_⟩
    show some c.addressSet.name = some n
    rw [h.addressSet, hn]

theorem Replaces.grouped_of_storedRows {c : CompiledGroup} (hc : Compiles group c)
    (h : Replaces ts us group (storedRows c)) (hts : ts.WellFormed) (hgrouped : Grouped ts) :
    Grouped us := by
  constructor
  · intro x
    rw [h.hasNamed hts ofGroup_portGroup_iff, h.hasNamed hts ofGroup_addressSet_iff,
      hc.hasNamed_portGroup, hc.hasNamed_addressSet, hgrouped.paired x, Ne, Ne,
      portGroup_eq_iff, addressSet_eq_iff]
  · intro k r hr
    rcases (h _ _ _).mp hr with ⟨hold, hnot⟩ | ⟨hmem, htable, huuid⟩
    · exact h.listed hts hgrouped hold hnot
    · rcases mem_storedRows.mp hmem with rfl | ⟨a, ha, rfl⟩ | rfl
      · cases htable
      · refine ⟨group, hc.acls a ha, c.portGroup.uuid, .portGroup c.portGroup, ?_, ?_, ?_⟩
        · exact (h _ _ _).mpr (.inr ⟨mem_storedRows.mpr (.inr (.inr rfl)), rfl, rfl⟩)
        · show some c.portGroup.name = _
          rw [hc.portGroup]
        · show k ∈ c.portGroup.acls
          rw [hc.lists, ← huuid]
          exact List.mem_map_of_mem ha
      · cases htable

/-! ## Every call -/

theorem compiles_withUuids {g : SecurityGroup} {plan : GroupPlan} (h : g.plan = .ok plan)
    (uuids : List String) (ts : Tables) :
    Compiles g.id (carriedOver ts (plan.withUuids uuids)) := by
  have hid := SecurityGroup.group_of_plan h
  constructor
  · show Name.portGroup plan.group = _
    rw [hid]
  · show Name.addressSet plan.group = _
    rw [hid]
  · rfl
  · intro a ha
    rcases GroupPlan.exists_draft ha with ⟨d, hd, u, rfl⟩
    exact (SecurityGroup.proper_of_plan h d hd).group

theorem Request.Writes.grouped (hts : Sound (listing calls) nothing ts) {r : Request}
    (hgrouped : Grouped ts) (h : r.Writes ts us) : Grouped us := by
  have hwell := hts.wellFormed
  cases hconcerns : r.concernsGroups with
  | false =>
      exact (SameGroups.of_spared (spared_of_writes hts hconcerns h)).grouped hgrouped
  | true =>
      cases h with
      | dhcp hr _ _ =>
          rw [hr] at hconcerns
          cases hconcerns
      | @call drawn t hends hops =>
          cases r <;> first | cases hconcerns; done | rcases of_translated hends with ⟨t, ht, heq⟩
          all_goals rw [heq] at hops
          case createGroup g =>
            rcases operations_createGroup hwell ht with ⟨plan, hplan, _, hresult, _⟩
            have hc := compiles_withUuids hplan drawn ts
            rw [← hresult] at hc
            exact (replaces_createGroup hts ht hops).grouped_of_storedRows hc hwell hgrouped
          case deleteGroup g =>
            exact (replaces_deleteGroup hts ht hops).grouped_of_nil hwell hgrouped
          case applyGroup port g =>
            rcases changes_applyGroup hwell ht hops with ⟨p, _, _, hchanges⟩
            refine (SameGroups.of_changesNamed (by decide) ?_ ?_ hchanges).grouped hgrouped
            · exact Row.name?_mapReferences _ _
            · exact Row.refs_mapReferences_of_ne _ (by decide)
          case removeFromGroup port g =>
            rcases changes_removeFromGroup hwell ht hops with ⟨_, rfl⟩ | ⟨p, _, hchanges⟩
            · exact hgrouped
            · refine (SameGroups.of_changesNamed (by decide) ?_ ?_ hchanges).grouped hgrouped
              · exact Row.name?_mapReferences _ _
              · exact Row.refs_mapReferences_of_ne _ (by decide)
          case updateAddresses g addresses =>
            have hchanges := changes_updateAddresses hwell ht hops
            refine (SameGroups.of_changesNamed (by decide) ?_ ?_ hchanges).grouped hgrouped
            · intro r
              cases r <;> rfl
            · intro r
              cases r <;> rfl

theorem grouped_history {ι : Type} [IdSource ι] (calls : List Call) (ids : ι) :
    Grouped (history calls ids).1.tables :=
  history_induction calls ids Grouped.empty fun hts _ hgrouped h => h.grouped hts hgrouped

end Client
end LogicalNet
