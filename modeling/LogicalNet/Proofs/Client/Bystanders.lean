import LogicalNet.Proofs.Client.Aside
import LogicalNet.Proofs.Client.Histories
import LogicalNet.Proofs.Client.Success
import LogicalNet.Proofs.Store.Exactness

/-!
# Ports that leave their groups

Of the calls beside security groups, only those that delete ports of machines take
members out of port groups; the peers of interfaces are ports too, but never members.
-/

namespace LogicalNet
namespace Client

open Tables

variable {calls : List Call} {ts us : Tables} {drawn : List String}

/-! ## Calls that delete ports -/

/-- A row that is deleted does not come back when nothing is inserted. -/
theorem get?_eq_none_of_deleted (hts : ts.WellFormed) {ops : List Operation}
    (hremoves : ∀ op ∈ ops, Removes op) {t : Table} {u : String}
    (hmem : .delete t (.uuid u) ∈ ops) (hops : ts.applyAll ops = .ok us) :
    (us t).get? u = none := by
  rcases List.append_of_mem hmem with ⟨front, rest, rfl⟩
  rcases applyAll_append_eq_ok_iff.mp hops with ⟨vs, hfront, hrest⟩
  rcases applyAll_cons_eq_ok_iff.mp hrest with ⟨ws, hdelete, hrest⟩
  have hvs := hts.applyAll hfront
  have hgone : (ws t).get? u = none := by
    cases hdelete
    rw [get?_delete_uuid, if_pos ⟨rfl, rfl⟩]
  cases hr : (us t).get? u with
  | none =>
      rfl
  | some r =>
      rcases old_or_inserted_of_applyAll (hvs.apply hdelete) hrest hr with
        ⟨r', hr'⟩ | ⟨row, hrow, _⟩
      · rw [hgone] at hr'
        cases hr'
      · have hinsert := hremoves (.insert row) (by simp [hrow])
        cases hinsert

/-- The request deletes the port, or the switch that lists it. -/
def Request.Expels (r : Request) (ts : Tables) (u : String) : Prop :=
  match r with
  | deletePort port => ∃ row, ts.get? .switchPort (.name (Name.switchPort port)) = some row ∧
      row.uuid = u
  | deleteSwitch network => ∃ row, ts.get? .switch (.name (Name.switch network)) = some row ∧
      u ∈ row.refs .ports
  | _ => False

/-- The ports are deleted, and nothing else of security groups is touched. -/
structure Expulsion (gone : String → Prop) (ops : List Operation) : Prop where
  spares : ∀ op ∈ ops, Spares gone op
  removes : ∀ op ∈ ops, Removes op
  deletes : ∀ u, gone u → .delete .switchPort (.uuid u) ∈ ops

theorem spares_delete {gone : String → Prop} {u : String} (h : gone u) :
    Spares gone (.delete .switchPort (.uuid u)) := by
  apply Spares.aside rfl
  intro lookup hop
  cases hop
  exact ⟨u, rfl, h⟩

theorem Unlists.removes {table : Table} {c : RefColumn} {u : String} {op : Operation}
    (hts : ts.WellFormed) (h : Unlists ts table c u op) : Removes op := by
  rcases h with ⟨k, row, hrow, hu, rfl⟩
  apply Removes.removeRefs
  cases htarget : c.target? table with
  | some t =>
      rfl
  | none =>
      rw [← hts.table_eq hrow] at htarget
      rw [Row.refs_eq_nil htarget] at hu
      cases hu

theorem Unlists.spares {table : Table} {u : String} {op : Operation} {gone : String → Prop}
    (hgone : gone u) (h : Unlists ts table .ports u op)
    (htable : table.isOfGroups = false ∨ table = .portGroup) : Spares gone op := by
  rcases h with ⟨k, row, _, _, rfl⟩
  rcases htable with htable | rfl
  · apply Spares.aside
    · exact htable
    · intro lookup hop
      cases hop
  · apply Spares.leave
    intro v hv
    rw [List.mem_singleton.mp hv]
    exact hgone

theorem expulsion_deletePort (hts : ts.WellFormed) {port : String} {t : Transaction Unit}
    (h : (deletePort port).Ends ts drawn t) :
    Expulsion ((Request.deletePort port).Expels ts) t.operations := by
  have hops := mem_deletePort_iff hts h
  constructor
  · intro op hop
    rcases (hops op).mp hop with ⟨u, hself, hunlists | hunlists | rfl⟩
    · exact hunlists.spares hself (.inl rfl)
    · exact hunlists.spares hself (.inr rfl)
    · exact spares_delete hself
  · intro op hop
    rcases (hops op).mp hop with ⟨u, _, hunlists | hunlists | rfl⟩
    · exact hunlists.removes hts
    · exact hunlists.removes hts
    · exact .delete _ _
  · intro u hgone
    exact (hops _).mpr ⟨u, hgone, .inr (.inr rfl)⟩

theorem expulsion_deleteSwitch (hts : ts.WellFormed) {network : String} {t : Transaction Unit}
    (h : (deleteSwitch network).Ends ts drawn t) :
    Expulsion ((Request.deleteSwitch network).Expels ts) t.operations := by
  have hops := mem_deleteSwitch_iff hts h
  constructor
  · intro op hop
    rcases (hops op).mp hop with ⟨_, _, rfl⟩ | ⟨_, hself, hunlists | rfl⟩ | ⟨_, _, rfl⟩
    · exact Operation.spares_of_isAside rfl _
    · exact hunlists.spares hself (.inr rfl)
    · exact spares_delete hself
    · exact Operation.spares_of_isAside rfl _
  · intro op hop
    rcases (hops op).mp hop with ⟨_, _, rfl⟩ | ⟨_, _, hunlists | rfl⟩ | ⟨_, _, rfl⟩
    · exact .delete _ _
    · exact hunlists.removes hts
    · exact .delete _ _
    · exact .delete _ _
  · intro u hgone
    exact (hops _).mpr (.inr (.inl ⟨u, hgone, .inr rfl⟩))

/-! ## Deletions of ports always succeed -/

section Deletions

variable {ι : Type} [IdSource ι] {m : Memory}

theorem total_leaveGroups (hts : ts.WellFormed) (port : String) : (leaveGroups port).Total ts := by
  apply Plan.Total.bind (.listAll hts)
  intro _ groups _
  exact .done _

theorem total_leaveSwitches (hts : ts.WellFormed) (port : String) :
    (leaveSwitches port).Total ts := by
  apply Plan.Total.bind (.listAll hts)
  intro _ switches _
  exact .done _

theorem total_deletePort (hts : ts.WellFormed) (port : String) : (deletePort port).Total ts := by
  apply Plan.Total.bind (.fetch hts _)
  intro _ found _
  cases found with
  | none =>
      exact .done _
  | some row =>
      apply Plan.Total.bind (total_leaveSwitches hts row.uuid)
      intro _ off _
      apply Plan.Total.bind (total_leaveGroups hts row.uuid)
      intro _ out _
      exact .done _

theorem total_deleteSwitch (hts : ts.WellFormed) (network : String) :
    (deleteSwitch network).Total ts := by
  apply Plan.Total.bind (.findAll hts _ _)
  intro _ dhcp _
  apply Plan.Total.bind (.fetch hts _)
  intro _ found _
  cases found with
  | none =>
      exact .done _
  | some switch =>
      have hleave : ∀ port : String,
          ((leaveGroups port).bind fun out =>
            Plan.done (out ++ [deleteOperation .switchPort port])).Total ts := by
        intro port
        apply Plan.Total.bind (total_leaveGroups hts port)
        intro _ out _
        exact .done _
      apply Plan.Total.bind (.gather hleave switch.ports)
      intro _ portsGone _
      exact .done _

theorem exists_perform_deletePort (hts : m.tables.WellFormed) (port : String) (ids : ι) :
    ∃ a, ((Request.deletePort port).perform m ids).1 = .ok a := by
  apply Plan.exists_perform_translated (total_deletePort hts port)
  intro us ids' t _ hends
  exact exists_applyAll_of_removes (expulsion_deletePort hts hends).removes _

theorem exists_perform_deleteSwitch (hts : m.tables.WellFormed) (network : String) (ids : ι) :
    ∃ a, ((Request.deleteSwitch network).perform m ids).1 = .ok a := by
  apply Plan.exists_perform_translated (total_deleteSwitch hts network)
  intro us ids' t _ hends
  exact exists_applyAll_of_removes (expulsion_deleteSwitch hts hends).removes _

end Deletions

/-! ## Peers of interfaces -/

/-- No port group lists the port. -/
def Unlisted (ts : Tables) (u : String) : Prop :=
  ∀ {k row}, (ts .portGroup).get? k = some row → u ∉ row.refs .ports

theorem spares_deleteRouter (hts : Sound (listing calls) nothing ts) {router : String}
    {t : Transaction Unit} (h : (deleteRouter router).Ends ts drawn t) :
    ∀ op ∈ t.operations, Spares (Unlisted ts) op := by
  intro op hop
  rcases (mem_deleteRouter_iff hts.wellFormed h op).mp hop with
    ⟨u, _, ⟨port, hport, hrouter⟩, hcases⟩ | ⟨t, c, _, howner, _, rfl⟩ | ⟨_, _, rfl⟩
  · have hunlisted : Unlisted ts u := fun hgroup =>
      not_mem_of_names_router hts hport hrouter hgroup
    rcases hcases with hunlists | rfl
    · exact hunlists.spares hunlisted (.inl rfl)
    · exact spares_delete hunlisted
  · cases t <;> cases howner <;> exact Operation.spares_of_isAside rfl _
  · exact Operation.spares_of_isAside rfl _

theorem spares_removeInterface (hts : Sound (listing calls) nothing ts) {router network : String}
    {t : Transaction Unit} (h : (removeInterface router network).Ends ts drawn t) :
    ∀ op ∈ t.operations, Spares (Unlisted ts) op := by
  intro op hop
  rcases (mem_removeInterface_iff h op).mp hop with
    ⟨_, _, rfl | rfl⟩ | ⟨u, ⟨peer, hget, rfl⟩, hcases⟩
  · exact Operation.spares_of_isAside rfl _
  · exact Operation.spares_of_isAside rfl _
  · have hunlisted : Unlisted ts peer.uuid := by
      intro k group hgroup hu
      rcases lists_of_get? hts hget hgroup rfl hu with ⟨⟨machine, hmachine⟩, hname⟩
      rw [hname] at hmachine
      exact absurd (Option.some.inj hmachine).symm (switchPort_ne_routerPeer _ _ _)
    rcases hcases with rfl | rfl
    · exact Operation.spares_of_isAside rfl _
    · exact spares_delete hunlisted

/-- A port that is in no port group leaves none. -/
theorem spared_of_unlisted (h : Spared (Unlisted ts) ts us) (gone : String → Prop) :
    Spared gone ts us := by
  refine ⟨h.addressSets, h.acls, fun k => ?_⟩
  have hrel := h.portGroups k
  cases hr : (ts .portGroup).get? k with
  | none =>
      rw [hr] at hrel
      generalize (us .portGroup).get? k = s at hrel ⊢
      cases hrel
      exact .none
  | some r =>
      rcases h.exists_kept hr with ⟨s, hs, hslimmer⟩
      rw [hs]
      refine .some ⟨hslimmer.name?, hslimmer.acls, hslimmer.subset, fun u hu _ => ?_⟩
      exact hslimmer.kept u hu fun hunlisted => hunlisted hr hu

/-- A call beside security groups leaves them as they are, but for the ports that it deletes. -/
theorem spared_of_writes (hts : Sound (listing calls) nothing ts) {r : Request}
    (hgroups : r.concernsGroups = false) (h : r.Writes ts us) : Spared (r.Expels ts) ts us := by
  cases h with
  | @call _ t hends hops =>
      cases hports : r.deletesPorts with
      | false =>
          apply spared_of_applyAll hts.wellFormed _ hops
          intro op hop
          exact Operation.spares_of_isAside (aside_plan hgroups hports ts _ t hends op hop) _
      | true =>
          cases r <;> first | cases hports; done | rcases of_translated hends with ⟨t', ht', heq⟩
          all_goals rw [heq] at hops
          case deleteSwitch =>
            exact spared_of_applyAll hts.wellFormed (expulsion_deleteSwitch hts.wellFormed ht').spares
              hops
          case deletePort =>
            exact spared_of_applyAll hts.wellFormed (expulsion_deletePort hts.wellFormed ht').spares
              hops
          case deleteRouter =>
            have hspared := spared_of_applyAll hts.wellFormed (spares_deleteRouter hts ht') hops
            exact spared_of_unlisted hspared _
          case removeInterface =>
            have hspared := spared_of_applyAll hts.wellFormed (spares_removeInterface hts ht') hops
            exact spared_of_unlisted hspared _
  | dhcp hr hends hops =>
      apply spared_of_applyAll hts.wellFormed _ hops
      intro op hop
      exact Operation.spares_of_isAside (aside_createNetworkDhcp _ ts _ _ hends op hop) _

end Client
end LogicalNet
