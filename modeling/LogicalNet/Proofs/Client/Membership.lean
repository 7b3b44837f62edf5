import LogicalNet.Proofs.Client.Grouping

/-!
# Members of port groups

A port is a member of a port group exactly if it joined at some call and has not left
since.  It joins when the group is applied to it; it leaves when the group is removed
from it, and with the deletion of the port, of its switch or of the group.  A group
that is stored again keeps its members, under the identifier of a new row.
-/

namespace LogicalNet
namespace Client

open Tables
open Plan (outcome_perform)

variable {calls : List Call} {ts us : Tables} {p g : String}

/-- The port group of the name lists the port. -/
def Member (ts : Tables) (p g : String) : Prop :=
  ∃ k row, (ts .portGroup).get? k = some row ∧ row.name? = some g ∧ p ∈ row.refs .ports

/-- The port of the platform is stored under the identifier. -/
def PortNamed (ts : Tables) (port uuid : String) : Prop :=
  ∃ row, ts.get? .switchPort (.name (Name.switchPort port)) = some row ∧ row.uuid = uuid

/-- The switch of the network lists the port. -/
def SwitchLists (ts : Tables) (network uuid : String) : Prop :=
  ∃ row, ts.get? .switch (.name (Name.switch network)) = some row ∧ uuid ∈ row.refs .ports

/-! ## Calls with what they find -/

/-- A call of a history: the tables that it finds, and whether it succeeds. -/
structure Step where
  tables : Tables
  call : Call
  succeeded : Bool

/-- The group was applied to the port. -/
def Step.Joins (s : Step) (p g : String) : Prop :=
  match s.call with
  | .request (.applyGroup port group) =>
      s.succeeded = true ∧ PortNamed s.tables port p ∧ Name.portGroup group = g
  | _ => False

/-- The group was removed from the port, or the call deletes the port, its switch or the group. -/
def Step.Leaves (s : Step) (p g : String) : Prop :=
  match s.call with
  | .request (.removeFromGroup port group) =>
      s.succeeded = true ∧ PortNamed s.tables port p ∧ Name.portGroup group = g
  | .request (.deletePort port) => PortNamed s.tables port p
  | .request (.deleteSwitch network) => SwitchLists s.tables network p
  | .request (.deleteGroup group) => Name.portGroup group = g
  | _ => False

/-- Only these calls change the members of port groups. -/
def Request.concernsMembers : Request → Bool
  | applyGroup _ _ | removeFromGroup _ _ | deletePort _ | deleteSwitch _ | deleteGroup _ => true
  | _ => false

section Steps

variable {ι : Type} [IdSource ι]

def Call.succeeds (call : Call) (m : Memory) (ids : ι) : Bool :=
  match call with
  | .request r => (r.perform m ids).1.isOk
  | .close => true

def Call.step (call : Call) (m : Memory) (ids : ι) : Step :=
  ⟨m.tables, call, call.succeeds m ids⟩

/-- The calls one after another. -/
def steps : List Call → Memory → ι → List Step
  | [], _, _ => []
  | call :: rest, m, ids =>
      let next := call.perform m ids
      call.step m ids :: steps rest next.1 next.2

theorem steps_append_singleton (past : List Call) (call : Call) (m : Memory) (ids : ι) :
    steps (past ++ [call]) m ids =
      steps past m ids ++ [call.step (performAll past m ids).1 (performAll past m ids).2] := by
  induction past generalizing m ids with
  | nil =>
      rfl
  | cons first rest ih =>
      exact congrArg (first.step m ids :: ·) (ih _ _)

end Steps

/-! ## What transactions do to members -/

/-- The members of groups whose rows change under the same names. -/
theorem member_of_changesNamed {name : String} {f : List String → List String}
    (hts : ts.WellFormed) (h : ChangesNamed .portGroup name (Row.mapReferences f .ports) ts us) :
    Member us p g ↔ ∃ k row, (ts .portGroup).get? k = some row ∧ row.name? = some g ∧
      p ∈ if g = name then f (row.refs .ports) else row.refs .ports := by
  have hrow : ∀ {k r}, (ts .portGroup).get? k = some r →
      ∀ s, s = (if r.name? = some name then r.mapReferences f .ports else r) →
      (s.name? = some g ∧ p ∈ s.refs .ports ↔ r.name? = some g ∧
        p ∈ if g = name then f (r.refs .ports) else r.refs .ports) := by
    intro k r hr s hs
    have hports : (RefColumn.ports.target? r.table).isSome = true := by
      rw [hts.table_eq hr]
      rfl
    by_cases hnamed : r.name? = some name
    · rw [hs, if_pos hnamed, Row.name?_mapReferences, Row.refs_mapReferences f hports, if_pos rfl]
      apply and_congr_right
      intro hname
      rw [if_pos (Option.some.inj (hname.symm.trans hnamed))]
    · rw [hs, if_neg hnamed]
      apply and_congr_right
      intro hname
      have hne : g ≠ name := by
        intro hsame
        rw [hsame] at hname
        exact hnamed hname
      rw [if_neg hne]
  constructor
  · intro hmember
    rcases hmember with ⟨k, s, hs, hlists⟩
    rcases h.exists_of_get? hs with ⟨r, hr, heq⟩
    exact ⟨k, r, hr, (hrow hr s heq).mp hlists⟩
  · intro hfound
    rcases hfound with ⟨k, r, hr, hlists⟩
    exact ⟨k, _, h.get?_eq hr, (hrow hr _ rfl).mpr hlists⟩

theorem member_applyGroup (hts : ts.WellFormed) {port group : String} {drawn : List String}
    {t : Transaction Unit} (h : (applyGroup port group).Ends ts drawn t)
    (hops : ts.applyAll t.operations = .ok us) :
    Member us p g ↔ (PortNamed ts port p ∧ Name.portGroup group = g) ∨ Member ts p g := by
  rcases changes_applyGroup hts h hops with ⟨row, hport, hnamed, hchanges⟩
  rw [member_of_changesNamed hts hchanges]
  constructor
  · intro hfound
    rcases hfound with ⟨k, r, hr, hname, hp⟩
    split at hp
    · rename_i hg
      rcases (mem_addMissing _ _ _).mp hp with hp | rfl
      · exact .inr ⟨k, r, hr, hname, hp⟩
      · exact .inl ⟨⟨_, hport, rfl⟩, hg.symm⟩
    · exact .inr ⟨k, r, hr, hname, hp⟩
  · intro hcases
    rcases hcases with ⟨⟨row', hrow', rfl⟩, rfl⟩ | ⟨k, r, hr, hname, hp⟩
    · rw [hport] at hrow'
      cases hrow'
      rcases hnamed with ⟨k, r, hr, hname⟩
      refine ⟨k, r, hr, hname, ?_⟩
      rw [if_pos rfl]
      exact (mem_addMissing _ _ _).mpr (.inr rfl)
    · refine ⟨k, r, hr, hname, ?_⟩
      split
      · exact (mem_addMissing _ _ _).mpr (.inl hp)
      · exact hp

theorem member_removeFromGroup (hts : ts.WellFormed) {port group : String} {drawn : List String}
    {t : Transaction Unit} (h : (removeFromGroup port group).Ends ts drawn t)
    (hops : ts.applyAll t.operations = .ok us) :
    Member us p g ↔ Member ts p g ∧ ¬ (PortNamed ts port p ∧ Name.portGroup group = g) := by
  rcases changes_removeFromGroup hts h hops with ⟨hnone, rfl⟩ | ⟨row, hport, hchanges⟩
  · have hnot : ¬ (PortNamed us port p ∧ Name.portGroup group = g) := by
      intro hfound
      rcases hfound with ⟨⟨row, hrow, _⟩, _⟩
      rw [hnone] at hrow
      cases hrow
    simp [hnot]
  · have hself : PortNamed ts port p ↔ row.uuid = p := by
      simp [PortNamed, hport, Row.uuid]
    rw [member_of_changesNamed hts hchanges, hself]
    constructor
    · intro hfound
      rcases hfound with ⟨k, r, hr, hname, hp⟩
      split at hp
      · rcases List.mem_filter.mp hp with ⟨hp, hkept⟩
        refine ⟨⟨k, r, hr, hname, hp⟩, fun hleft => ?_⟩
        rw [hleft.1] at hkept
        simp at hkept
      · rename_i hg
        exact ⟨⟨k, r, hr, hname, hp⟩, fun hleft => hg hleft.2.symm⟩
    · intro hstays
      rcases hstays with ⟨⟨k, r, hr, hname, hp⟩, hnot⟩
      refine ⟨k, r, hr, hname, ?_⟩
      split
      · rename_i hg
        have hne : p ≠ row.uuid := fun hsame => hnot ⟨hsame.symm, hg.symm⟩
        exact List.mem_filter.mpr ⟨hp, by simpa using hne⟩
      · exact hp

theorem mem_portsOf_iff (hts : ts.WellFormed) : p ∈ portsOf ts g ↔ Member ts p g := by
  constructor
  · intro hp
    unfold portsOf at hp
    split at hp
    · rename_i row hrow
      rcases (hts.get?_name_iff rfl).mp hrow with ⟨hget, hname⟩
      exact ⟨_, row, hget, hname, hp⟩
    · cases hp
  · intro hmember
    rcases hmember with ⟨k, row, hrow, hname, hp⟩
    unfold portsOf
    rw [(hts.name?_eq_iff rfl hrow).mp hname]
    exact hp

theorem member_createGroup (hts : Sound (listing calls) nothing ts) {group : SecurityGroup}
    {drawn : List String} {t : Transaction CompiledGroup}
    (h : (createGroup group).Ends ts drawn t) (hops : ts.applyAll t.operations = .ok us) :
    Member us p g ↔ Member ts p g := by
  rcases operations_createGroup hts.wellFormed h with ⟨plan, hplan, _, hresult, _⟩
  have hgroup := SecurityGroup.group_of_plan hplan
  have hreplaces := replaces_createGroup hts h hops
  rw [hresult] at hreplaces
  have hmade : (∃ r ∈ storedRows (carriedOver ts (plan.withUuids drawn)),
      r.table = .portGroup ∧ r.name? = some g ∧ p ∈ r.refs .ports) ↔
        Name.portGroup group.id = g ∧ Member ts p g := by
    rw [← mem_portsOf_iff hts.wellFormed, ← hgroup]
    constructor
    · intro hfound
      rcases hfound with ⟨r, hr, htable, hname, hp⟩
      rcases mem_storedRows.mp hr with rfl | ⟨a, _, rfl⟩ | rfl
      · cases htable
      · cases htable
      · have hsame : Name.portGroup plan.group = g := Option.some.inj hname
        rw [← hsame]
        exact ⟨rfl, hp⟩
    · intro hfound
      rcases hfound with ⟨rfl, hp⟩
      exact ⟨_, mem_storedRows.mpr (.inr (.inr rfl)), rfl, rfl, hp⟩
  unfold Member
  rw [hreplaces.exists_named_iff hts.wellFormed ofGroup_portGroup_iff, hmade]
  change (Member ts p g ∧ g ≠ _) ∨ (_ = g ∧ Member ts p g) ↔ Member ts p g
  constructor
  · intro hcases
    rcases hcases with hold | hnew
    · exact hold.1
    · exact hnew.2
  · intro hmember
    by_cases hsame : Name.portGroup group.id = g
    · exact .inr ⟨hsame, hmember⟩
    · exact .inl ⟨hmember, fun hg => hsame hg.symm⟩

theorem member_deleteGroup (hts : Sound (listing calls) nothing ts) {group : String}
    {drawn : List String} {t : Transaction Unit} (h : (deleteGroup group).Ends ts drawn t)
    (hops : ts.applyAll t.operations = .ok us) :
    Member us p g ↔ Member ts p g ∧ Name.portGroup group ≠ g := by
  have hreplaces := replaces_deleteGroup hts h hops
  unfold Member
  rw [hreplaces.exists_named_iff hts.wellFormed ofGroup_portGroup_iff, ne_comm]
  simp

theorem member_updateAddresses (hts : ts.WellFormed) {group : String} {addresses : List String}
    {drawn : List String} {t : Transaction AddressSet}
    (h : (updateAddresses group addresses).Ends ts drawn t)
    (hops : ts.applyAll t.operations = .ok us) : Member us p g ↔ Member ts p g := by
  have hsame := (changes_updateAddresses hts h hops).get?_of_ne (t := .portGroup) (by decide)
  simp only [Member, hsame]

/-! ## Ports that are deleted -/

theorem gone_of_writes (hts : ts.WellFormed) {r : Request} (h : r.Writes ts us)
    (hexpels : r.Expels ts p) : (us .switchPort).get? p = none := by
  cases h with
  | dhcp hr _ _ =>
      rw [hr] at hexpels
      exact hexpels.elim
  | call hends hops =>
      cases r <;> first | exact hexpels.elim | rcases of_translated hends with ⟨t, ht, heq⟩
      all_goals rw [heq] at hops
      case deletePort port =>
        have hexpulsion := expulsion_deletePort hts ht
        exact get?_eq_none_of_deleted hts hexpulsion.removes (hexpulsion.deletes p hexpels) hops
      case deleteSwitch network =>
        have hexpulsion := expulsion_deleteSwitch hts ht
        exact get?_eq_none_of_deleted hts hexpulsion.removes (hexpulsion.deletes p hexpels) hops

/-- A call beside security groups takes out the ports that it deletes, and no others. -/
theorem member_of_writes (hts : Sound (listing calls) nothing ts) {r : Request}
    (hcall : .request r ∈ calls) (hgroups : r.concernsGroups = false) (h : r.Writes ts us) :
    Member us p g ↔ Member ts p g ∧ ¬ r.Expels ts p := by
  have hspared := spared_of_writes hts hgroups h
  constructor
  · intro hmember
    rcases hmember with ⟨k, s, hs, hname, hp⟩
    rcases hspared.exists_slimmer hs with ⟨row, hrow, hslimmer⟩
    refine ⟨⟨k, row, hrow, hslimmer.name?.symm.trans hname, hslimmer.subset p hp⟩, ?_⟩
    intro hexpels
    have hgone := gone_of_writes hts.wellFormed h hexpels
    have htarget : RefColumn.ports.target? .portGroup = some .switchPort := rfl
    exact (h.sound hts hcall).not_mem_of_get?_eq_none hs htarget hgone hp
  · intro hstays
    rcases hstays with ⟨⟨k, row, hrow, hname, hp⟩, hnot⟩
    rcases hspared.exists_kept hrow with ⟨s, hs, hslimmer⟩
    exact ⟨k, s, hs, hslimmer.name?.trans hname, hslimmer.kept p hp hnot⟩

/-! ## What calls do to members -/

section Histories

variable {ι : Type} [IdSource ι] {m : Memory} {ids : ι}

/-- What comes of a request of a single call: it fails and nothing changes, or it is written. -/
theorem Request.perform_spec {r : Request} (hr : ¬ ∃ network, r = .createSwitch network)
    (m : Memory) (ids : ι) :
    ((r.perform m ids).1.isOk = false ∧ (r.perform m ids).2.1 = m) ∨
      (r.perform m ids).1.isOk = true ∧ ∃ drawn t, r.plan.Ends m.tables drawn t ∧
        m.tables.applyAll t.operations = .ok (r.perform m ids).2.1.tables := by
  rw [Journal.perform_eq_plan hr]
  have houtcome := outcome_perform r.plan m ids
  generalize r.plan.perform m ids = outcome at houtcome ⊢
  cases houtcome with
  | failed _ =>
      exact .inl ⟨rfl, rfl⟩
  | written _ hends hops =>
      exact .inr ⟨rfl, _, _, hends, hops⟩

theorem Request.Writes.member_iff (hts : Sound (listing calls) nothing ts) {r : Request}
    (hcall : .request r ∈ calls) (hr : r.concernsMembers = false) (h : r.Writes ts us) :
    Member us p g ↔ Member ts p g := by
  cases hgroups : r.concernsGroups with
  | false =>
      have hnot : ¬ r.Expels ts p := by
        intro hexpels
        cases r <;> first | exact hexpels | cases hr
      rw [member_of_writes hts hcall hgroups h]
      exact and_iff_left hnot
  | true =>
      cases h with
      | dhcp heq _ _ =>
          rw [heq] at hgroups
          cases hgroups
      | call hends hops =>
          cases r <;> first | cases hgroups; done | cases hr; done |
            rcases of_translated hends with ⟨t, ht, heq⟩
          all_goals rw [heq] at hops
          case createGroup group =>
            exact member_createGroup hts ht hops
          case updateAddresses group addresses =>
            exact member_updateAddresses hts.wellFormed ht hops

/-- Every other call leaves the members of all groups as they are. -/
theorem member_of_unconcerned (hm : Sound (listing calls) nothing m.tables) {r : Request}
    (hcall : .request r ∈ calls) (hr : r.concernsMembers = false) :
    Member (r.perform m ids).2.1.tables p g ↔ Member m.tables p g := by
  have hboth := Request.perform_induction
    (motive := fun ts => Sound (listing calls) nothing ts ∧
      (Member ts p g ↔ Member m.tables p g)) r m ids ⟨hm, .rfl⟩ fun h hwrites =>
        ⟨hwrites.sound h.1 hcall, (hwrites.member_iff h.1 hcall hr).trans h.2⟩
  exact hboth.2

theorem member_perform_applyGroup (hts : m.tables.WellFormed) (port group : String) :
    Member ((Request.applyGroup port group).perform m ids).2.1.tables p g ↔
      (((Request.applyGroup port group).perform m ids).1.isOk = true ∧
        PortNamed m.tables port p ∧ Name.portGroup group = g) ∨ Member m.tables p g := by
  rcases Request.perform_spec (r := .applyGroup port group) (by simp) m ids with
    ⟨hfailed, hsame⟩ | ⟨hok, drawn, t, hends, hops⟩
  · rw [hsame]
    simp [hfailed]
  · rcases of_translated hends with ⟨t', ht, heq⟩
    rw [heq] at hops
    rw [member_applyGroup hts ht hops]
    simp [hok]

theorem member_perform_removeFromGroup (hts : m.tables.WellFormed) (port group : String) :
    Member ((Request.removeFromGroup port group).perform m ids).2.1.tables p g ↔
      Member m.tables p g ∧
        ¬ (((Request.removeFromGroup port group).perform m ids).1.isOk = true ∧
          PortNamed m.tables port p ∧ Name.portGroup group = g) := by
  rcases Request.perform_spec (r := .removeFromGroup port group) (by simp) m ids with
    ⟨hfailed, hsame⟩ | ⟨hok, drawn, t, hends, hops⟩
  · rw [hsame]
    simp [hfailed]
  · rcases of_translated hends with ⟨t', ht, heq⟩
    rw [heq] at hops
    rw [member_removeFromGroup hts ht hops]
    simp [hok]

/-- A request that cannot fail is written. -/
theorem Request.ends_of_succeeds {r : Request} (hr : ¬ ∃ network, r = .createSwitch network)
    (hok : ∃ a, (r.perform m ids).1 = .ok a) : ∃ drawn t, r.plan.Ends m.tables drawn t ∧
      m.tables.applyAll t.operations = .ok (r.perform m ids).2.1.tables := by
  rcases Request.perform_spec hr m ids with ⟨hfailed, _⟩ | ⟨_, hwritten⟩
  · rcases hok with ⟨a, ha⟩
    rw [ha] at hfailed
    cases hfailed
  · exact hwritten

theorem member_perform_deletePort (hm : Sound (listing calls) nothing m.tables) {port : String}
    (hcall : .request (.deletePort port) ∈ calls) :
    Member ((Request.deletePort port).perform m ids).2.1.tables p g ↔
      Member m.tables p g ∧ ¬ PortNamed m.tables port p := by
  rcases Request.ends_of_succeeds (by simp) (exists_perform_deletePort hm.wellFormed port ids)
    with ⟨drawn, t, hends, hops⟩
  exact member_of_writes hm hcall rfl (.call hends hops)

theorem member_perform_deleteSwitch (hm : Sound (listing calls) nothing m.tables)
    {network : String} (hcall : .request (.deleteSwitch network) ∈ calls) :
    Member ((Request.deleteSwitch network).perform m ids).2.1.tables p g ↔
      Member m.tables p g ∧ ¬ SwitchLists m.tables network p := by
  rcases Request.ends_of_succeeds (by simp) (exists_perform_deleteSwitch hm.wellFormed network ids)
    with ⟨drawn, t, hends, hops⟩
  exact member_of_writes hm hcall rfl (.call hends hops)

theorem member_perform_deleteGroup (hm : Sound (listing calls) nothing m.tables)
    (group : String) : Member ((Request.deleteGroup group).perform m ids).2.1.tables p g ↔
      Member m.tables p g ∧ Name.portGroup group ≠ g := by
  rcases Request.ends_of_succeeds (by simp) (exists_perform_deleteGroup hm group ids) with
    ⟨drawn, t, hends, hops⟩
  rcases of_translated hends with ⟨t', ht, heq⟩
  rw [heq] at hops
  exact member_deleteGroup hm ht hops

/-- One call: the port is a member if it joins, or was a member and does not leave. -/
theorem member_step (hm : Sound (listing calls) nothing m.tables) {call : Call}
    (hcall : call ∈ calls) : Member (call.perform m ids).1.tables p g ↔
      (call.step m ids).Joins p g ∨ (Member m.tables p g ∧ ¬ (call.step m ids).Leaves p g) := by
  cases call with
  | close =>
      show Member m.tables p g ↔ False ∨ (Member m.tables p g ∧ ¬ False)
      simp
  | request r =>
      show Member (r.perform m ids).2.1.tables p g ↔ _
      cases hr : r.concernsMembers with
      | false =>
          rw [member_of_unconcerned hm hcall hr]
          have hjoins : ¬ ((Call.request r).step m ids).Joins p g := by
            intro h
            cases r <;> first | exact h | cases hr
          have hleaves : ¬ ((Call.request r).step m ids).Leaves p g := by
            intro h
            cases r <;> first | exact h | cases hr
          simp [hjoins, hleaves]
      | true =>
          -- the deletions never fail, so only the first two go by the outcome
          cases r <;> try (cases hr; done)
          case applyGroup port group =>
            rw [member_perform_applyGroup hm.wellFormed]
            simp [Step.Joins, Step.Leaves, Call.step, Call.succeeds]
          case removeFromGroup port group =>
            rw [member_perform_removeFromGroup hm.wellFormed]
            simp [Step.Joins, Step.Leaves, Call.step, Call.succeeds]
          case deletePort port =>
            rw [member_perform_deletePort hm hcall]
            simp [Step.Joins, Step.Leaves, Call.step]
          case deleteSwitch network =>
            rw [member_perform_deleteSwitch hm hcall]
            simp [Step.Joins, Step.Leaves, Call.step]
          case deleteGroup group =>
            rw [member_perform_deleteGroup hm]
            simp [Step.Joins, Step.Leaves, Call.step]

/-! ## Members after a history -/

/-- At one element the first holds of it and those before it, and from there on the second of all. -/
def Since {α : Type} (A : List α → α → Prop) (B : α → Prop) (l : List α) : Prop :=
  ∃ before x after, l = before ++ x :: after ∧ A before x ∧ ∀ y ∈ after, B y

theorem since_append_singleton {α : Type} {A : List α → α → Prop} {B : α → Prop} (l : List α)
    (x : α) : Since A B (l ++ [x]) ↔ A l x ∨ (Since A B l ∧ B x) := by
  constructor
  · intro h
    rcases h with ⟨before, y, after, heq, hfirst, hlater⟩
    rcases List.eq_nil_or_concat after with rfl | ⟨after', last, rfl⟩
    · rcases List.append_inj' heq rfl with ⟨rfl, hlast⟩
      cases hlast
      exact .inl hfirst
    · rw [List.concat_eq_append] at heq hlater
      rw [← List.cons_append, ← List.append_assoc] at heq
      rcases List.append_inj' heq rfl with ⟨rfl, hlast⟩
      cases hlast
      refine .inr ⟨⟨before, y, after', rfl, hfirst, fun z hz => ?_⟩, hlater x (by simp)⟩
      exact hlater z (List.mem_append_left _ hz)
  · intro hcases
    rcases hcases with hfirst | ⟨⟨before, y, after, rfl, hfirst, hlater⟩, hlast⟩
    · refine ⟨l, x, [], rfl, hfirst, fun z hz => ?_⟩
      cases hz
    · refine ⟨before, y, after ++ [x], by simp, hfirst, fun z hz => ?_⟩
      rcases List.mem_append.mp hz with hz | hz
      · exact hlater z hz
      · rw [List.mem_singleton.mp hz]
        exact hlast

/-- The port joined the group at one of the calls, and at no later one did it join again or leave. -/
def JoinedLast (l : List Step) (p g : String) : Prop :=
  ∃ before s after, l = before ++ s :: after ∧ s.Joins p g ∧
    ∀ s' ∈ after, ¬ s'.Joins p g ∧ ¬ s'.Leaves p g

theorem joinedLast_append_singleton (l : List Step) (s : Step) :
    JoinedLast (l ++ [s]) p g ↔ s.Joins p g ∨ (JoinedLast l p g ∧ ¬ s.Leaves p g) := by
  have hsince : JoinedLast (l ++ [s]) p g ↔
      s.Joins p g ∨ (JoinedLast l p g ∧ ¬ s.Joins p g ∧ ¬ s.Leaves p g) :=
    since_append_singleton l s
  rw [hsince]
  tauto

theorem member_iff_joinedLast {past : List Call} (hpast : ∀ call ∈ past, call ∈ calls) (ids : ι) :
    Member (history past ids).1.tables p g ↔ JoinedLast (steps past Memory.empty ids) p g := by
  induction past using List.reverseRecOn with
  | nil =>
      constructor
      · intro h
        rcases h with ⟨k, row, hrow, _⟩
        rw [show (history [] ids).1.tables = Tables.empty from rfl, rows_empty] at hrow
        cases hrow
      · intro h
        rcases h with ⟨before, s, after, heq, _⟩
        cases before <;> cases heq
  | append_singleton past call ih =>
      have hearlier : ∀ call' ∈ past, call' ∈ calls := fun call' hcall' =>
        hpast call' (List.mem_append_left _ hcall')
      rw [history_append_singleton, steps_append_singleton, joinedLast_append_singleton,
        ← ih hearlier]
      exact member_step (sound_history hearlier ids) (hpast call (by simp))

/-- A port is a member of a port group exactly if it joined and has not left since, and only five
kinds of calls ever change who is a member. -/
theorem membership_history (calls : List Call) (ids : ι) (p g : String) :
    (Member (history calls ids).1.tables p g ↔ JoinedLast (steps calls Memory.empty ids) p g) ∧
      ∀ r : Request, r.concernsMembers = false →
        (Member (history (calls ++ [.request r]) ids).1.tables p g ↔
          Member (history calls ids).1.tables p g) := by
  constructor
  · exact member_iff_joinedLast (fun _ hcall => hcall) ids
  · intro r hr
    have hsound : Sound (listing (calls ++ [.request r])) nothing (history calls ids).1.tables :=
      sound_history (fun _ hcall => List.mem_append_left _ hcall) ids
    rw [history_append_singleton]
    exact member_of_unconcerned hsound (by simp) hr

end Histories

end Client
end LogicalNet
