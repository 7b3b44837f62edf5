import LogicalNet.Proofs.Client.Journal

/-!
# What comes of calls

A call over the store in memory fails and leaves the store as it was, or its plan
ends and the whole of its transaction is written.  The creation of a switch is two
calls, of which the second cannot take back what the first has done.
-/

namespace LogicalNet

open IdSource (Drawn)

variable {ι : Type} [IdSource ι]

/-! ## One call -/

namespace Plan

variable {α : Type}

inductive Outcome (p : Plan (Transaction α)) (m : Memory) (ids : ι) :
    Except StoreError α × Memory × ι → Prop where
  | failed {e : StoreError} {us : List String} {ids' : ι} (hdrawn : Drawn ids us ids') :
      Outcome p m ids (.error e, m, ids')
  | written {us : List String} {ids' : ι} {t : Transaction α} {ts : Tables}
      (hdrawn : Drawn ids us ids') (hends : p.Ends m.tables us t)
      (hops : m.tables.applyAll t.operations = .ok ts) :
      Outcome p m ids (.ok t.result, { m with tables := ts }, ids')

theorem run_spec (p : Plan α) (m : Memory) (ids : ι) : (p.run m ids).2.1 = m ∧
    ∃ us, Drawn ids us (p.run m ids).2.2 ∧
      ∀ a, (p.run m ids).1 = .ok a → p.Ends m.tables us a := by
  have hforget : p.run m ids = _ := Journal.run_memory p (Journal.start m) ids
  rcases Journal.run_spec p (Journal.start m) ids with ⟨hj, us, hdrawn, hends⟩
  rw [hforget]
  constructor
  · show (p.run (Journal.start m) ids).2.1.memory = m
    rw [hj]
    rfl
  · exact ⟨us, hdrawn, hends⟩

theorem outcome_perform (p : Plan (Transaction α)) (m : Memory) (ids : ι) :
    Outcome p m ids (p.perform m ids) := by
  rcases run_spec p m ids with ⟨hm, us, hdrawn, hends⟩
  unfold perform
  rcases hrun : p.run m ids with ⟨result, m', ids'⟩
  rw [hrun] at hm hdrawn hends
  subst hm
  cases result with
  | error e =>
      exact .failed hdrawn
  | ok t =>
      show Outcome p m' ids ((m'.transact t.operations).1.map _, (m'.transact t.operations).2, ids')
      unfold Memory.transact
      cases hops : m'.tables.applyAll t.operations with
      | error e =>
          exact .failed hdrawn
      | ok ts =>
          exact .written hdrawn (hends t rfl) hops

end Plan

namespace Client

open Tenant (Network)
open Plan (Outcome outcome_perform)

/-! ## Requests -/

/-- A transaction of the request leads from the first tables to the others. -/
inductive Request.Writes (r : Request) (ts us : Tables) : Prop where
  | call {drawn : List String} {t : Transaction Answer} (hends : r.plan.Ends ts drawn t)
      (hops : ts.applyAll t.operations = .ok us) : Writes r ts us
  | dhcp {network : Network} {drawn : List String} {t : Transaction DhcpOptions}
      (hr : r = .createSwitch network) (hends : (createNetworkDhcp network).Ends ts drawn t)
      (hops : ts.applyAll t.operations = .ok us) : Writes r ts us

/-- The first call for a switch, seen as that of its request. -/
theorem ends_createSwitch {network : Network} {ts : Tables} {drawn : List String}
    {t : Transaction Switch} (h : (createSwitch network).Ends ts drawn t) :
    ∃ t', (Request.createSwitch network).plan.Ends ts drawn t' ∧ t'.operations = t.operations := by
  cases h with
  | uuid u h =>
      cases h
      exact ⟨_, .uuid u (.done _), rfl⟩

/-- What came of the creation of the switch of a network. -/
inductive Creation (network : Network) (m : Memory) (ids : ι) :
    Except StoreError SwitchCreation × Memory × ι → Prop where
  | failed {e : StoreError} {ids' : ι}
      (hcreated : (createSwitch network).perform m ids = (.error e, m, ids')) :
      Creation network m ids (.error e, m, ids')
  | bare {switch : Switch} {m' : Memory} {ids' : ι}
      (hcreated : (createSwitch network).perform m ids = (.ok switch, m', ids'))
      (hoff : network.spec.addressing.dhcp.enabled = false) :
      Creation network m ids (.ok ⟨switch, none, none⟩, m', ids')
  | served {switch : Switch} {options : DhcpOptions} {m' m'' : Memory} {ids' ids'' : ι}
      (hcreated : (createSwitch network).perform m ids = (.ok switch, m', ids'))
      (hdhcp : (createNetworkDhcp network).perform m' ids' = (.ok options, m'', ids'')) :
      Creation network m ids (.ok ⟨switch, some options, none⟩, m'', ids'')
  | unserved {switch : Switch} {e : StoreError} {m' : Memory} {ids' ids'' : ι}
      (hcreated : (createSwitch network).perform m ids = (.ok switch, m', ids'))
      (hdhcp : (createNetworkDhcp network).perform m' ids' = (.error e, m', ids'')) :
      Creation network m ids (.ok ⟨switch, none, some e⟩, m', ids'')

theorem creation_createNetwork (network : Network) (m : Memory) (ids : ι) :
    Creation network m ids (createNetwork network m ids) := by
  have hswitch := outcome_perform (createSwitch network) m ids
  unfold createNetwork
  rcases hcreated : (createSwitch network).perform m ids with ⟨result, m', ids'⟩
  rw [hcreated] at hswitch
  cases hswitch with
  | failed _ =>
      exact .failed hcreated
  | @written _ _ t ts _ _ _ =>
      cases henabled : network.spec.addressing.dhcp.enabled with
      | false =>
          exact .bare hcreated henabled
      | true =>
          have hoptions := outcome_perform (createNetworkDhcp network) { m with tables := ts } ids'
          rcases hdhcp : (createNetworkDhcp network).perform { m with tables := ts } ids' with
            ⟨result, m'', ids''⟩
          rw [hdhcp] at hoptions
          simp only [hdhcp, if_true]
          cases hoptions with
          | failed _ =>
              exact .unserved hcreated hdhcp
          | written _ _ _ =>
              exact .served hcreated hdhcp

/-- What holds of the tables before a request holds of them after it, if every transaction of the
request keeps it. -/
theorem Request.perform_induction {motive : Tables → Prop} (r : Request) (m : Memory) (ids : ι)
    (hstart : motive m.tables)
    (hstep : ∀ {ts us : Tables}, motive ts → r.Writes ts us → motive us) :
    motive (r.perform m ids).2.1.tables := by
  by_cases hr : ∃ network, r = .createSwitch network
  · rcases hr with ⟨network, rfl⟩
    have hcreated : motive ((Client.createSwitch network).perform m ids).2.1.tables := by
      have houtcome := outcome_perform (Client.createSwitch network) m ids
      generalize (Client.createSwitch network).perform m ids = outcome at houtcome
      cases houtcome with
      | failed _ =>
          exact hstart
      | written _ hends hops =>
          rcases ends_createSwitch hends with ⟨t', hends', hoperations⟩
          rw [← hoperations] at hops
          exact hstep hstart (.call hends' hops)
    show motive (createNetwork network m ids).2.1.tables
    have hcreation := creation_createNetwork network m ids
    generalize createNetwork network m ids = outcome at hcreation
    cases hcreation with
    | failed _ =>
        exact hstart
    | bare h _ =>
        rw [h] at hcreated
        exact hcreated
    | @served _ _ m' _ ids' _ h hdhcp =>
        rw [h] at hcreated
        have hoptions := outcome_perform (createNetworkDhcp network) m' ids'
        rw [hdhcp] at hoptions
        cases hoptions with
        | written _ hends hops =>
            exact hstep hcreated (.dhcp rfl hends hops)
    | unserved h _ =>
        rw [h] at hcreated
        exact hcreated
  · rw [Journal.perform_eq_plan hr]
    have houtcome := outcome_perform r.plan m ids
    generalize r.plan.perform m ids = outcome at houtcome
    cases houtcome with
    | failed _ =>
        exact hstart
    | written _ hends hops =>
        exact hstep hstart (.call hends hops)

/-! ## Failures -/

/-- A request that fails leaves the store as it was. -/
theorem Request.perform_error {r : Request} {m : Memory} {ids : ι} {e : StoreError}
    (h : (r.perform m ids).1 = .error e) : (r.perform m ids).2.1 = m := by
  by_cases hr : ∃ network, r = .createSwitch network
  · rcases hr with ⟨network, rfl⟩
    change (createNetwork network m ids).1.map Answer.creation = .error e at h
    show (createNetwork network m ids).2.1 = m
    have hcreation := creation_createNetwork network m ids
    generalize createNetwork network m ids = outcome at h hcreation ⊢
    cases hcreation with
    | failed _ =>
        rfl
    | _ =>
        cases h
  · rw [Journal.perform_eq_plan hr] at h ⊢
    have houtcome := outcome_perform r.plan m ids
    generalize r.plan.perform m ids = outcome at h houtcome ⊢
    cases houtcome with
    | failed _ =>
        rfl
    | written _ _ _ =>
        cases h

/-! ## The switch of a network and its DHCP options -/

def withoutDhcp (network : Network) : Network :=
  { network with spec.addressing.dhcp.enabled := false }

/-- The switch of a network comes out as it does without DHCP, and the answer says whether the DHCP
options that were asked for came with it. -/
structure SwitchStands (network : Network) (m : Memory) (ids : ι) : Prop where
  answered : (createNetwork network m ids).1.map SwitchCreation.switch =
    (createNetwork (withoutDhcp network) m ids).1.map SwitchCreation.switch
  stored : (createNetwork network m ids).2.1.tables .switch =
    (createNetwork (withoutDhcp network) m ids).2.1.tables .switch
  found : ∀ c, (createNetwork network m ids).1 = .ok c →
    (m.tables .switch).get? c.switch.uuid = none ∧
      ((createNetwork network m ids).2.1.tables .switch).get? c.switch.uuid = some (.switch c.switch)
  told : ∀ c, (createNetwork network m ids).1 = .ok c →
    network.spec.addressing.dhcp.enabled = true → c.dhcpOptions.isSome ≠ c.dhcpError.isSome
  alone : ∀ c e, (createNetwork network m ids).1 = .ok c → c.dhcpError = some e →
    (createNetwork network m ids).2.1 = { m with tables := m.tables.put (.switch c.switch) }

theorem operations_createSwitch {network : Network} {ts : Tables} {drawn : List String}
    {t : Transaction Switch} (h : (createSwitch network).Ends ts drawn t) :
    t.operations = [.insert (.switch t.result)] := by
  rcases Plan.Ends.of_bind h with ⟨_, uuid, _, _, _, hwrite⟩
  rcases Plan.Ends.of_pure hwrite with ⟨_, rfl⟩
  rfl

theorem operations_createNetworkDhcp {network : Network} {ts : Tables} {drawn : List String}
    {t : Transaction DhcpOptions} (h : (createNetworkDhcp network).Ends ts drawn t) :
    t.operations = [.insert (.dhcpOptions t.result)] := by
  unfold createNetworkDhcp createDhcpOptions at h
  split at h
  · dsimp only at h
    split at h
    all_goals
      rcases Plan.Ends.of_bind h with ⟨_, mac, _, _, _, hrest⟩
      rcases Plan.Ends.of_bind hrest with ⟨_, uuid, _, _, _, hwrite⟩
      rcases Plan.Ends.of_pure hwrite with ⟨_, rfl⟩
      rfl
  · cases h

/-- A call that makes one row, and answers with it, puts it among the others. -/
theorem put_of_perform {ρ : Type} {p : Plan (Transaction ρ)} {toRow : ρ → Row}
    (hp : ∀ {ts drawn t}, p.Ends ts drawn t → t.operations = [.insert (toRow t.result)])
    {m m' : Memory} {ids ids' : ι} {a : ρ} (h : p.perform m ids = (.ok a, m', ids')) :
    (m.tables (toRow a).table).get? (toRow a).uuid = none ∧
      m' = { m with tables := m.tables.put (toRow a) } := by
  have houtcome := outcome_perform p m ids
  rw [h] at houtcome
  cases houtcome with
  | written _ hends hops =>
      rw [hp hends] at hops
      rcases Tables.applyAll_cons_eq_ok_iff.mp hops with ⟨us, hop, hdone⟩
      cases hdone
      cases Tables.effect_of_insert hop with
      | insert _ hnew _ =>
          exact ⟨hnew, rfl⟩

/-- Without DHCP there is only the call for the switch. -/
theorem createNetwork_withoutDhcp (network : Network) (m : Memory) (ids : ι) :
    createNetwork (withoutDhcp network) m ids =
      (((createSwitch network).perform m ids).1.map (⟨·, none, none⟩),
        ((createSwitch network).perform m ids).2) := by
  have hsame : createSwitch (withoutDhcp network) = createSwitch network := rfl
  unfold createNetwork
  rw [hsame]
  rcases (createSwitch network).perform m ids with ⟨result, outcome⟩
  cases result <;> rfl

/-- The second call leaves the switches as the first has left them. -/
theorem SwitchStands.of_created {network : Network} {m m' m'' : Memory} {ids ids' ids'' : ι}
    {c : SwitchCreation}
    (hcreated : (createSwitch network).perform m ids = (.ok c.switch, m', ids'))
    (hnetwork : createNetwork network m ids = (.ok c, m'', ids''))
    (hstored : m''.tables .switch = m'.tables .switch)
    (htold : network.spec.addressing.dhcp.enabled = true →
      c.dhcpOptions.isSome ≠ c.dhcpError.isSome)
    (halone : ∀ e, c.dhcpError = some e → m'' = m') : SwitchStands network m ids := by
  have hwithout := createNetwork_withoutDhcp network m ids
  rw [hcreated] at hwithout
  rcases put_of_perform operations_createSwitch hcreated with ⟨hnew, hput⟩
  have hc : ∀ c', (createNetwork network m ids).1 = .ok c' → c' = c := by
    intro c' hc'
    rw [hnetwork] at hc'
    exact (Except.ok.inj hc').symm
  constructor
  · rw [hnetwork, hwithout]
    rfl
  · rw [hnetwork, hwithout]
    exact hstored
  · intro c' hc'
    rw [hc c' hc', hnetwork]
    constructor
    · exact hnew
    · show (m''.tables .switch).get? c.switch.uuid = _
      rw [hstored, hput]
      exact Tables.get?_put_self m.tables (.switch c.switch)
  · intro c' hc'
    rw [hc c' hc']
    exact htold
  · intro c' e hc' he
    rw [hc c' hc'] at he ⊢
    rw [hnetwork]
    exact (halone e he).trans hput

theorem switchStands (network : Network) (m : Memory) (ids : ι) : SwitchStands network m ids := by
  have hcreation := creation_createNetwork network m ids
  rcases hnetwork : createNetwork network m ids with ⟨result, m'', ids''⟩
  rw [hnetwork] at hcreation
  cases hcreation with
  | failed hcreated =>
      have hwithout := createNetwork_withoutDhcp network m ids
      rw [hcreated] at hwithout
      constructor <;> rw [hnetwork]
      · rw [hwithout]
        rfl
      · rw [hwithout]
      all_goals
        intro c
        intros
        contradiction
  | bare hcreated hoff =>
      apply SwitchStands.of_created hcreated hnetwork rfl
      · intro hon
        rw [hoff] at hon
        cases hon
      · intro e he
        rfl
  | served hcreated hdhcp =>
      apply SwitchStands.of_created hcreated hnetwork
      · rw [(put_of_perform operations_createNetworkDhcp hdhcp).2]
        exact Tables.rows_setTable _ _ _ _
      · simp
      · intro e he
        cases he
  | unserved hcreated hdhcp =>
      apply SwitchStands.of_created hcreated hnetwork rfl
      · simp
      · intro e he
        rfl

/-- A call that fails changes nothing, and a network without its DHCP options still has the switch
that it would have had. -/
theorem failure_changes_nothing (m : Memory) (ids : ι) :
    (∀ (r : Request) (e : StoreError), (r.perform m ids).1 = .error e → (r.perform m ids).2.1 = m) ∧
      ∀ network : Network, SwitchStands network m ids := by
  constructor
  · intro r e h
    exact Request.perform_error h
  · intro network
    exact switchStands network m ids

/-- A network without a subnet gets its switch, and is told why it has no DHCP options. -/
example : (createNetwork { id := "a", spec := { addressing := { dhcp := { enabled := true } } } }
    Memory.empty Sequential.start).1.toOption.map (fun c => c.dhcpError.isSome) = some true := by
  decide +kernel

end Client
end LogicalNet
