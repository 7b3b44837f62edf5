import LogicalNet.Proofs.Client.Membership
import LogicalNet.Proofs.Client.Regeneration

/-!
# Security groups apart from each other

A call on a security group changes no rows but those of its names and the access control
lists of groups with these names.  So groups whose ids differ in more than dashes and
underscores never touch each other, and groups whose ids do not can take each other away.
-/

namespace LogicalNet
namespace Client

open IdSource (NeverEmpty NeverRepeats)
open Tables

variable {calls : List Call} {ts us vs : Tables} {a b : String}

/-- The id of the security group that the request is to change. -/
def Request.group? : Request → Option String
  | createGroup g => some g.id
  | deleteGroup group => some group
  | applyGroup _ group => some group
  | removeFromGroup _ group => some group
  | updateAddresses group _ => some group
  | _ => none

/-- The rows of the group are the same: its port group with its members and its lists, its address
set, and the access control lists. -/
def Untouched (group : String) (ts us : Tables) : Prop :=
  ∀ t k r, MadeFor group r → ((us t).get? k = some r ↔ (ts t).get? k = some r)

/-! ## Changes to the rows of a group -/

/-- Nothing but rows of the group changes. -/
def Confined (group : String) (ts us : Tables) : Prop :=
  ∀ t k r, ¬ MadeFor group r → ((us t).get? k = some r ↔ (ts t).get? k = some r)

theorem Confined.refl (group : String) (ts : Tables) : Confined group ts ts :=
  fun _ _ _ _ => .rfl

/-- Groups with different names have no row in common. -/
theorem MadeFor.not_madeFor (hne : Name.underscored a ≠ Name.underscored b) {r : Row}
    (h : MadeFor b r) : ¬ MadeFor a r := by
  intro h'
  cases h with
  | portGroup htable hname =>
      cases h' with
      | portGroup _ hname' =>
          rw [hname] at hname'
          exact hne (portGroup_eq_iff.mp (Option.some.inj hname').symm)
      | addressSet htable' _ =>
          cases htable.symm.trans htable'
      | acl htable' _ _ =>
          cases htable.symm.trans htable'
  | addressSet htable hname =>
      cases h' with
      | portGroup htable' _ =>
          cases htable.symm.trans htable'
      | addressSet _ hname' =>
          rw [hname] at hname'
          exact hne (addressSet_eq_iff.mp (Option.some.inj hname').symm)
      | acl htable' _ _ =>
          cases htable.symm.trans htable'
  | acl htable hother hsame =>
      cases h' with
      | portGroup htable' _ =>
          cases htable.symm.trans htable'
      | addressSet htable' _ =>
          cases htable.symm.trans htable'
      | acl _ hother' hsame' =>
          rw [hother] at hother'
          cases hother'
          exact hne (hsame'.symm.trans hsame)

theorem Confined.untouched (hne : Name.underscored a ≠ Name.underscored b)
    (h : Confined a ts us) : Untouched b ts us :=
  fun t k r hr => h t k r (hr.not_madeFor hne)

theorem Confined.of_replaces (hts : Sound (listing calls) nothing ts) (hgrouped : Grouped ts)
    {rows : List Row} (hrows : ∀ r ∈ rows, MadeFor a r) (h : Replaces ts us a rows) :
    Confined a ts us := by
  intro t k r hnot
  rw [h]
  constructor
  · intro hcases
    rcases hcases with hold | ⟨hmem, _⟩
    · exact hold.1
    · exact absurd (hrows r hmem) hnot
  · intro hr
    refine .inl ⟨hr, ?_⟩
    rw [ofGroup_iff_madeFor hts hgrouped hr]
    exact hnot

theorem Compiles.madeFor {c : CompiledGroup} (h : Compiles a c) :
    ∀ r ∈ storedRows c, MadeFor a r := by
  intro r hr
  rcases mem_storedRows.mp hr with rfl | ⟨acl, hacl, rfl⟩ | rfl
  · exact .addressSet rfl (congrArg some h.addressSet)
  · exact .acl rfl (h.acls acl hacl) rfl
  · exact .portGroup rfl (congrArg some h.portGroup)

/-- A change of the one row of a name of the group, as long as the row keeps the name. -/
theorem Confined.of_changesNamed (hts : ts.WellFormed) {table : Table} {name : String}
    {f : Row → Row} (hf : ∀ r : Row, (f r).table = r.table ∧ (f r).name? = r.name?)
    (hmade : ∀ r : Row, r.table = table → r.name? = some name → MadeFor a r)
    (h : ChangesNamed table name f ts us) : Confined a ts us := by
  intro t k r hnot
  rw [h]
  cases hs : (ts t).get? k with
  | none =>
      rfl
  | some s =>
      rw [Option.map_some]
      split
      · rename_i hnamed
        rcases hnamed with ⟨rfl, hname⟩
        have htable := hts.table_eq hs
        constructor
        · intro hr
          have hfr := Option.some.inj hr
          rw [← hfr] at hnot
          exact absurd (hmade (f s) ((hf s).1.trans htable) ((hf s).2.trans hname)) hnot
        · intro hr
          rw [← Option.some.inj hr] at hnot
          exact absurd (hmade s htable hname) hnot
      · exact .rfl

/-- A call on a group changes nothing but rows of the group. -/
theorem Request.Writes.confined (hts : Sound (listing calls) nothing ts) (hgrouped : Grouped ts)
    {r : Request} (hr : r.group? = some a) (h : r.Writes ts us) : Confined a ts us := by
  have hwell := hts.wellFormed
  cases h with
  | dhcp heq _ _ =>
      rw [heq] at hr
      cases hr
  | @call drawn t hends hops =>
      cases r <;> first | cases hr; done | rcases of_translated hends with ⟨t', ht, heq⟩
      all_goals
        rw [heq] at hops
        have hgroup := Option.some.inj hr
      case createGroup g =>
        rcases operations_createGroup hwell ht with ⟨plan, hplan, _, hresult, _⟩
        have hc := compiles_withUuids hplan drawn ts
        rw [← hresult] at hc
        rw [← hgroup]
        exact .of_replaces hts hgrouped hc.madeFor (replaces_createGroup hts ht hops)
      case deleteGroup group =>
        rw [← hgroup]
        exact .of_replaces hts hgrouped (by simp) (replaces_deleteGroup hts ht hops)
      case applyGroup port group =>
        rcases changes_applyGroup hwell ht hops with ⟨p, _, _, hchanges⟩
        rw [← hgroup]
        apply Confined.of_changesNamed hwell _ (fun _ => .portGroup) hchanges
        intro r
        exact ⟨Row.table_mapReferences _ _ r, Row.name?_mapReferences _ _ r⟩
      case removeFromGroup port group =>
        rcases changes_removeFromGroup hwell ht hops with ⟨_, rfl⟩ | ⟨p, _, hchanges⟩
        · exact .refl a us
        · rw [← hgroup]
          apply Confined.of_changesNamed hwell _ (fun _ => .portGroup) hchanges
          intro r
          exact ⟨Row.table_mapReferences _ _ r, Row.name?_mapReferences _ _ r⟩
      case updateAddresses group addresses =>
        rw [← hgroup]
        apply Confined.of_changesNamed hwell _ (fun _ => .addressSet)
          (changes_updateAddresses hwell ht hops)
        intro r
        cases r <;> exact ⟨rfl, rfl⟩

/-! ## After every history -/

section Histories

variable {ι : Type} [IdSource ι]

theorem confined_history (past : List Call) (ids : ι) {r : Request} (hr : r.group? = some a) :
    Confined a (history past ids).1.tables (history (past ++ [.request r]) ids).1.tables := by
  have hnot : ¬ ∃ network, r = .createSwitch network := by
    intro hswitch
    rcases hswitch with ⟨network, rfl⟩
    cases hr
  have hsound : Sound (listing past) nothing (history past ids).1.tables :=
    sound_history (fun _ hcall => hcall) ids
  rw [history_append_singleton]
  show Confined a _ (r.perform (history past ids).1 (history past ids).2).2.1.tables
  rcases Request.perform_spec hnot (history past ids).1 (history past ids).2 with
    ⟨_, hsame⟩ | ⟨_, drawn, t, hends, hops⟩
  · rw [hsame]
    exact .refl a _
  · exact Request.Writes.confined hsound (grouped_history past ids) hr (.call hends hops)

theorem history_createGroup (past : List Call) (ids : ι) (g : SecurityGroup) :
    (history (past ++ [.request (.createGroup g)]) ids).1 =
      ((createGroup g).perform (history past ids).1 (history past ids).2).2.1 := by
  rw [history_append_singleton]
  exact congrArg Prod.fst (Plan.perform_translated (createGroup g) _ _ _)

theorem history_deleteGroup (past : List Call) (ids : ι) (group : String) :
    (history (past ++ [.request (.deleteGroup group)]) ids).1 =
      ((deleteGroup group).perform (history past ids).1 (history past ids).2).2.1 := by
  rw [history_append_singleton]
  exact congrArg Prod.fst (Plan.perform_translated (deleteGroup group) _ _ _)

/-- A group that has just been stored goes with the deletion of another one that has its names. -/
theorem not_untouched_of_deleteGroup (past : List Call) (ids : ι) (hids : NeverRepeats ids)
    (hne : NeverEmpty ids) {g : SecurityGroup} (hg : Text.isBlankText g.id = false)
    (hsame : Name.underscored a = Name.underscored g.id) :
    ¬ Untouched g.id (history (past ++ [.request (.createGroup g)]) ids).1.tables
      (history (past ++ [.request (.createGroup g)] ++ [.request (.deleteGroup a)]) ids).1.tables := by
  rcases exists_regenerated_history past ids hids hne hg with ⟨c, us, hregenerated⟩
  rcases exists_deleted_history (past ++ [.request (.createGroup g)]) ids a with ⟨vs, hdeleted⟩
  have hbefore : (history (past ++ [.request (.createGroup g)]) ids).1.tables = us := by
    rw [history_createGroup, hregenerated.stored]
  have hafter : (history (past ++ [.request (.createGroup g)] ++ [.request (.deleteGroup a)])
      ids).1.tables = vs := by
    rw [history_deleteGroup, hdeleted.stored]
  have hsound : Sound (listing (past ++ [.request (.createGroup g)])) nothing
      (history (past ++ [.request (.createGroup g)]) ids).1.tables :=
    sound_history (fun _ hcall => hcall) ids
  rw [hbefore] at hsound ⊢
  rw [hafter]
  intro huntouched
  rcases (hsound.wellFormed.get?_name_iff rfl).mp hregenerated.portGroup with ⟨hrow, hname⟩
  have hkept := (huntouched .portGroup _ _ (.portGroup rfl hname)).mpr hrow
  refine hdeleted.portGroup ⟨_, _, hkept, ?_⟩
  rw [hname, portGroup_eq_iff.mpr hsame]

/-- Calls on one group leave the other one alone, whatever calls came before, exactly if the ids
still differ with underscores in place of dashes. -/
theorem isolated_iff (a b : String) (hb : Text.isBlankText b = false) :
    (∀ {ι : Type} [IdSource ι] (past : List Call) (ids : ι) (r : Request), r.group? = some a →
      Untouched b (history past ids).1.tables (history (past ++ [.request r]) ids).1.tables) ↔
    Name.underscored a ≠ Name.underscored b := by
  constructor
  · intro h hsame
    -- the other group is stored, and then this one is deleted
    have hgroup : ∃ g : SecurityGroup, g.id = b := ⟨{ id := b, name := "" }, rfl⟩
    rcases hgroup with ⟨g, rfl⟩
    have htouched := not_untouched_of_deleteGroup [] (Counter.mk 1) (Counter.neverRepeats _)
      (Counter.neverEmpty _) hb hsame
    exact htouched (h _ (Counter.mk 1) (.deleteGroup a) rfl)
  · intro hne ι _ past ids r hr
    exact (confined_history past ids hr).untouched hne

theorem isolated_iff_web :
    Text.isBlankText "a-b" = false ∧ Request.group? (.deleteGroup "web") = some "web" ∧
      Untouched "a-b" (history [.request (.createGroup dashed)] (Counter.mk 1)).1.tables
        (history ([.request (.createGroup dashed)] ++ [.request (.deleteGroup "web")])
          (Counter.mk 1)).1.tables := by
  have hb : Text.isBlankText "a-b" = false := by decide
  have hne : Name.underscored "web" ≠ Name.underscored "a-b" := by decide
  have huntouched := (isolated_iff "web" "a-b" hb).mpr hne [.request (.createGroup dashed)]
    (Counter.mk 1) (.deleteGroup "web") rfl
  exact ⟨hb, rfl, huntouched⟩

/-- Ids that differ are not enough. -/
theorem not_isolated_of_ne :
    ¬ ∀ a b : String, Text.isBlankText a = false → Text.isBlankText b = false → a ≠ b →
      ∀ (past : List Call) (ids : Counter) (r : Request), r.group? = some a →
        Untouched b (history past ids).1.tables (history (past ++ [.request r]) ids).1.tables := by
  intro h
  have huntouched := h "a_b" "a-b" (by decide) (by decide) (by decide)
    [.request (.createGroup dashed)] (Counter.mk 1) (.deleteGroup "a_b") rfl
  exact not_untouched_of_deleteGroup [] (Counter.mk 1) (Counter.neverRepeats _)
    (Counter.neverEmpty _) (g := dashed) (by decide) (by decide) huntouched

end Histories

end Client
end LogicalNet
