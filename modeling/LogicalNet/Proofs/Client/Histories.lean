import LogicalNet.Proofs.Client.BalancerCalls
import LogicalNet.Proofs.Client.GroupCalls
import LogicalNet.Proofs.Client.Journal
import LogicalNet.Proofs.Client.RouterCalls

/-!
# Histories of calls

Whatever calls are made of a client over an empty store in memory, every row keeps
its one owner.  As long as the identifiers do not repeat and the names of the calls
are kept apart, a real database comes to the same tables with every transaction of
every call.
-/

namespace LogicalNet
namespace Client

open Tables
open IdSource (Drawn NeverRepeats)

variable {calls : List Call} {ts us : Tables} {drawn : List String}

/-! ## What requests write -/

theorem of_translated {α : Type} {p : Plan (Transaction α)} {f : Transaction α → Answer}
    {t : Transaction Answer}
    (h : (p.bind fun t => Plan.write t.operations (f t)).Ends ts drawn t) :
    ∃ t', p.Ends ts drawn t' ∧ t.operations = t'.operations := by
  rcases Plan.Ends.of_bind h with ⟨us, t', ws, rfl, hp, hwrite⟩
  rcases Plan.Ends.of_pure hwrite with ⟨rfl, rfl⟩
  rw [List.append_nil]
  exact ⟨t', hp, rfl⟩

theorem issued_answer {α : Type} {p : Plan α} {t : Transaction α}
    (h : (Plan.answer p).Ends ts drawn t) : Issued calls ts drawn t.operations := by
  rw [Plan.Ends.of_answer h]
  exact .reads

theorem issued_plan (hts : Sound (listing calls) nothing ts) {r : Request}
    (hcall : .request r ∈ calls) {t : Transaction Answer} (h : r.plan.Ends ts drawn t) :
    Issued calls ts drawn t.operations := by
  cases r <;> rcases of_translated h with ⟨t', hends, hoperations⟩ <;> rw [hoperations]
  case createSwitch => exact issued_createSwitch hends
  case deleteSwitch => exact issued_deleteSwitch hts hends
  case createPort => exact issued_createPort hts hends
  case deletePort => exact issued_deletePort hts hends
  case bindPort => exact issued_bindPort hends
  case createLocalnetPort => exact issued_createLocalnetPort hts hcall hends
  case createDhcpOptions => exact issued_createDhcpOptions hends
  case updateDhcpOptions => exact issued_updateDhcpOptions hends
  case deleteDhcpOptions => exact issued_deleteDhcpOptions hends
  case createRouter => exact issued_createRouter hends
  case deleteRouter => exact issued_deleteRouter hts hends
  case addInterface => exact issued_addInterface hts hcall hends
  case removeInterface => exact issued_removeInterface hts hcall hends
  case addRoute => exact issued_addRoute hts hends
  case deleteRoute => exact issued_deleteRoute hts hends
  case createGroup => exact issued_createGroup hts hends
  case deleteGroup => exact issued_deleteGroup hts hends
  case applyGroup => exact issued_applyGroup hts hends
  case removeFromGroup => exact issued_removeFromGroup hends
  case updateAddresses => exact issued_updateAddresses hends
  case createFloatingIp => exact issued_createFloatingIp hts hends
  case deleteFloatingIp => exact issued_deleteFloatingIp hts hends
  case createSnat => exact issued_createSnat hts hends
  case deleteNat => exact issued_deleteNat hts hends
  case createBalancer => exact issued_createBalancer hends
  case updateBalancer => exact issued_updateBalancer hends
  case deleteBalancer => exact issued_deleteBalancer hends
  case assignToSwitch => exact issued_assignToSwitch hends
  case assignToRouter => exact issued_assignToRouter hends
  all_goals exact issued_answer hends

/-! ## Rows bear identifiers that were drawn -/

theorem old_or_inserted_of_effect {op : Operation} (hop : Effect ts op us) {t : Table}
    {u : String} {r : Row} (hr : (us t).get? u = some r) :
    (∃ r', (ts t).get? u = some r') ∨ ∃ row, op = .insert row ∧ row.uuid = u := by
  have hset : ∀ {table key row row'}, (ts table).get? key = some row →
      (ts.setRow table key row' t).get? u = some r → ∃ r', (ts t).get? u = some r' := by
    intro table key row row' hrow hget
    rw [get?_setRow] at hget
    split at hget
    · rename_i htu
      rw [htu.1, htu.2]
      exact ⟨row, hrow⟩
    · exact ⟨r, hget⟩
  cases hop with
  | @insert row _ _ _ =>
      rw [get?_put] at hr
      split at hr
      · rename_i htu
        exact .inr ⟨row, rfl, htu.2.symm⟩
      · exact .inl ⟨r, hr⟩
  | update _ hold _ =>
      rw [get?_put] at hr
      split at hr
      · rename_i htu
        rw [htu.1, htu.2]
        exact .inl ⟨_, hold⟩
      · exact .inl ⟨r, hr⟩
  | delete _ =>
      rw [get?_remove] at hr
      split at hr
      · cases hr
      · rcases Option.map_eq_some_iff.mp hr with ⟨r', hr', _⟩
        exact .inl ⟨r', hr'⟩
  | addRefs _ _ _ hrow _ =>
      exact .inl (hset hrow hr)
  | removeRefs _ _ hrow =>
      exact .inl (hset hrow hr)
  | setKeys _ hrow _ =>
      exact .inl (hset hrow hr)
  | deleteNone _ =>
      exact .inl ⟨r, hr⟩
  | removeRefsNone _ _ =>
      exact .inl ⟨r, hr⟩

theorem old_or_inserted_of_applyAll (hts : ts.WellFormed) {ops : List Operation}
    (hops : ts.applyAll ops = .ok us) {t : Table} {u : String} {r : Row}
    (hr : (us t).get? u = some r) :
    (∃ r', (ts t).get? u = some r') ∨ ∃ row, .insert row ∈ ops ∧ row.uuid = u := by
  induction ops generalizing ts with
  | nil =>
      cases hops
      exact .inl ⟨r, hr⟩
  | cons op rest ih =>
      rcases applyAll_cons_eq_ok_iff.mp hops with ⟨vs, hop, hrest⟩
      rcases ih (hts.apply hop) hrest with ⟨r', hr'⟩ | ⟨row, hrow, huuid⟩
      · rcases old_or_inserted_of_effect (effect_of_apply hts hop) hr' with
          hold | ⟨row, rfl, huuid⟩
        · exact .inl hold
        · exact .inr ⟨row, by simp, huuid⟩
      · exact .inr ⟨row, by simp [hrow], huuid⟩

/-! ## What every call keeps -/

variable {ι : Type} [IdSource ι]

/-- Every row of the journal has its one owner and an identifier that was drawn, and a real database
agrees with every transaction that is written down. -/
structure Kept (calls : List Call) (start : ι) (j : Journal) (ids : ι) : Prop where
  sound : Sound (listing calls) nothing j.memory.tables
  seen : ∃ seen, Drawn start seen ids ∧
    ∀ t u r, (j.memory.tables t).get? u = some r → u ∈ seen
  agrees : NeverRepeats start → NamesApart calls → ∀ e ∈ j.entries, Agrees e.1 e.2

namespace Kept

variable {start ids : ι} {j : Journal}

theorem start_empty (calls : List Call) (ids : ι) :
    Kept calls ids (Journal.start Memory.empty) ids := by
  refine ⟨.empty, ⟨[], .refl ids, ?_⟩, ?_⟩
  · intro t u r hr
    simp [Journal.start, Memory.empty] at hr
  · intro _ _ e he
    cases he

theorem draw (h : Kept calls start j ids) {us : List String} {ids' : ι}
    (hdrawn : Drawn ids us ids') : Kept calls start j ids' := by
  rcases h.seen with ⟨seen, hseen, hrows⟩
  exact ⟨h.sound, ⟨seen ++ us, hseen.trans hdrawn, fun t u r hr =>
    List.mem_append_left _ (hrows t u r hr)⟩, h.agrees⟩

/-- An identifier that is drawn later belongs to no row. -/
theorem get?_of_drawn (h : Kept calls start j ids) (hids : NeverRepeats start)
    {us : List String} {ids' : ι} (hdrawn : Drawn ids us ids') :
    ∀ u ∈ us, ∀ t, (j.memory.tables t).get? u = none := by
  intro u hu t
  rcases h.seen with ⟨seen, hseen, hrows⟩
  cases hr : (j.memory.tables t).get? u with
  | none =>
      rfl
  | some r =>
      have hnodup := hids _ _ (hseen.trans hdrawn)
      exact absurd rfl ((List.nodup_append.mp hnodup).2.2 u (hrows t u r hr) u hu)

/-- Identifiers that are drawn later are drawn from the start of the history on. -/
theorem exists_drawn_from_start (h : Kept calls start j ids) {us : List String} {ids' : ι}
    (hdrawn : Drawn ids us ids') : ∃ seen, Drawn start (seen ++ us) ids' := by
  rcases h.seen with ⟨seen, hseen, _⟩
  exact ⟨seen, hseen.trans hdrawn⟩

theorem transact (h : Kept calls start j ids) {us : List String} {ids' : ι}
    (hdrawn : Drawn ids us ids') {ops : List Operation}
    (hissued : Issued calls j.memory.tables us ops) :
    Kept calls start (Store.transact ops j).2 ids' := by
  have hentries : NeverRepeats start → NamesApart calls →
      ∀ e ∈ j.entries ++ [(j.memory.tables, ops)], Agrees e.1 e.2 := by
    intro hids hapart e he
    rcases List.mem_append.mp he with he | he
    · exact h.agrees hids hapart e he
    · rw [List.mem_singleton.mp he]
      exact hissued.agrees h.sound hapart (h.get?_of_drawn hids hdrawn)
  rcases h.seen with ⟨seen, hseen, hrows⟩
  have hwritten : (Store.transact ops j).2 =
      ⟨(j.memory.transact ops).2, j.entries ++ [(j.memory.tables, ops)]⟩ := rfl
  rw [hwritten]
  unfold Memory.transact
  cases hops : j.memory.tables.applyAll ops with
  | error e =>
      exact ⟨h.sound, (h.draw hdrawn).seen, hentries⟩
  | ok ts =>
      refine ⟨hissued.sound h.sound hops, ⟨seen ++ us, hseen.trans hdrawn, ?_⟩, hentries⟩
      intro t u r hr
      rcases old_or_inserted_of_applyAll h.sound.wellFormed hops hr with
        ⟨r', hr'⟩ | ⟨row, hrow, rfl⟩
      · exact List.mem_append_left _ (hrows t u r' hr')
      · exact List.mem_append_right _ (hissued.uuid_mem hrow)

theorem perform (h : Kept calls start j ids) {α : Type} {p : Plan (Transaction α)}
    (hp : ∀ us t, p.Ends j.memory.tables us t → Issued calls j.memory.tables us t.operations) :
    Kept calls start (p.perform j ids).2.1 (p.perform j ids).2.2 := by
  rcases Journal.run_spec p j ids with ⟨hj, us, hdrawn, hends⟩
  unfold Plan.perform
  cases hrun : (p.run j ids).1 with
  | error e =>
      simp only [hrun]
      rw [hj]
      exact h.draw hdrawn
  | ok t =>
      simp only [hrun]
      rw [hj]
      exact h.transact hdrawn (hp us t (hends t hrun))

theorem createNetwork (h : Kept calls start j ids) (network : Tenant.Network) :
    Kept calls start (Client.createNetwork network j ids).2.1
      (Client.createNetwork network j ids).2.2 := by
  have hcreated := h.perform (p := createSwitch network) fun us t hends =>
    issued_createSwitch hends
  unfold Client.createNetwork
  dsimp only
  split
  · exact hcreated
  · split
    · have hdhcp := hcreated.perform (p := createNetworkDhcp network) fun us t hends =>
        issued_createNetworkDhcp hends
      split
      · exact hdhcp
      · exact hdhcp
    · exact hcreated

theorem request (h : Kept calls start j ids) {r : Request} (hcall : .request r ∈ calls) :
    Kept calls start (r.perform j ids).2.1 (r.perform j ids).2.2 := by
  by_cases hr : ∃ network, r = .createSwitch network
  · rcases hr with ⟨network, rfl⟩
    exact h.createNetwork network
  · rw [Journal.perform_eq_plan hr]
    exact h.perform fun us t hends => issued_plan h.sound hcall hends

end Kept

/-! ## Histories -/

section Run

variable {σ : Type} [Store σ]

def Call.perform : Call → σ → ι → σ × ι
  | .request r, s, ids => (r.perform s ids).2
  | .close, s, ids => (Store.close s, ids)

/-- The store and the source of identifiers after the calls, whatever came of them. -/
def performAll : List Call → σ → ι → σ × ι
  | [], s, ids => (s, ids)
  | call :: rest, s, ids =>
      let next := call.perform s ids
      performAll rest next.1 next.2

end Run

/-- The database after the calls on an empty one. -/
def history (calls : List Call) (ids : ι) : Memory × ι :=
  performAll calls Memory.empty ids

/-- The transactions that a call makes, with the tables that each of them finds. -/
def Call.transactions (call : Call) (m : Memory) (ids : ι) : List (Tables × List Operation) :=
  (call.perform (Journal.start m) ids).1.entries

theorem performAll_memory (history : List Call) (j : Journal) (ids : ι) :
    performAll history j.memory ids =
      ((performAll history j ids).1.memory, (performAll history j ids).2) := by
  induction history generalizing j ids with
  | nil =>
      rfl
  | cons call rest ih =>
      have hcall : call.perform j.memory ids =
          ((call.perform j ids).1.memory, (call.perform j ids).2) := by
        cases call with
        | close =>
            rfl
        | request r =>
            simp only [Call.perform]
            rw [Journal.request_memory]
            rfl
      rw [performAll, hcall]
      exact ih _ _

theorem Kept.perform_call {start ids : ι} {j : Journal} (h : Kept calls start j ids) {call : Call}
    (hcall : call ∈ calls) :
    Kept calls start (call.perform j ids).1 (call.perform j ids).2 := by
  cases call with
  | close =>
      exact ⟨h.sound, h.seen, h.agrees⟩
  | request r =>
      exact h.request hcall

theorem Kept.performAll {start ids : ι} {j : Journal} (h : Kept calls start j ids)
    {history : List Call} (hhistory : ∀ call ∈ history, call ∈ calls) :
    Kept calls start (performAll history j ids).1 (performAll history j ids).2 := by
  induction history generalizing j ids with
  | nil =>
      exact h
  | cons call rest ih =>
      exact ih (h.perform_call (hhistory call (by simp))) fun call' hcall' =>
        hhistory call' (by simp [hcall'])

/-- What holds after a history, seen as part of a longer one. -/
theorem kept_history {past : List Call} (hpast : ∀ call ∈ past, call ∈ calls) (ids : ι) :
    Kept calls ids (Journal.start (history past ids).1) (history past ids).2 := by
  have hkept := (Kept.start_empty calls ids).performAll hpast
  have hmemory : history past ids = _ := performAll_memory past (Journal.start Memory.empty) ids
  rw [hmemory]
  refine ⟨hkept.sound, hkept.seen, ?_⟩
  intro _ _ e he
  cases he

/-- Whatever calls are made, every reference is to a row that is there, and every row of a table
that is no root has its one owner. -/
theorem owned_history (calls : List Call) (ids : ι) : (history calls ids).1.tables.Owned := by
  have hkept : Kept calls ids (Journal.start (history calls ids).1) (history calls ids).2 :=
    kept_history (fun _ hcall => hcall) ids
  exact hkept.sound.owned

/-! ## Names that meet -/

/-- Counts identifiers without end, and gives one address to all. -/
structure Counter where
  count : Nat

namespace Counter

instance : IdSource Counter where
  uuid c := (Text.decimal c.count, ⟨c.count + 1⟩)
  mac c := (Sequential.macAddress 1, c)

theorem drawn_spec {c c' : Counter} {us : List String} (h : Drawn c us c') :
    us.Nodup ∧ ∀ u ∈ us, ∃ n, c.count ≤ n ∧ u = Text.decimal n := by
  induction h with
  | refl ids =>
      simp
  | @uuid ids ids' us _ ih =>
      have hlater : ∀ u ∈ us, ∃ n, ids.count + 1 ≤ n ∧ u = Text.decimal n := ih.2
      refine ⟨List.nodup_cons.mpr ⟨fun hmem => ?_, ih.1⟩, fun u hu => ?_⟩
      · rcases hlater _ hmem with ⟨n, hn, heq⟩
        have hcount := Text.decimal_injective heq
        omega
      · rcases List.mem_cons.mp hu with rfl | hu
        · exact ⟨ids.count, Nat.le_refl _, rfl⟩
        · rcases hlater u hu with ⟨n, hn, heq⟩
          exact ⟨n, by omega, heq⟩
  | mac _ ih =>
      exact ih

theorem neverRepeats (c : Counter) : NeverRepeats c :=
  fun _ _ h => (drawn_spec h).1

end Counter

/-- A real database comes to the same tables as the store in memory with every transaction of a call
that follows a history. -/
theorem agrees_history (past : List Call) (call : Call) (ids : ι) (hids : NeverRepeats ids)
    (hapart : NamesApart (past ++ [call])) :
    ∀ e ∈ call.transactions (history past ids).1 (history past ids).2, Agrees e.1 e.2 := by
  have hkept : Kept (past ++ [call]) ids (Journal.start (history past ids).1)
      (history past ids).2 := kept_history (fun _ hcall => List.mem_append_left _ hcall) ids
  exact (hkept.perform_call (by simp)).agrees hids hapart

/-- One pair of a router and a network has no other to be confused with. -/
theorem interfacesApart_of_forall_eq (router network : String)
    (h : ∀ {router' network'}, UsesInterface calls router' network' →
      router' = router ∧ network' = network) : InterfacesApart calls := by
  constructor
  · intro r n r' n' huses huses' _
    rcases h huses with ⟨rfl, rfl⟩
    rcases h huses' with ⟨rfl, rfl⟩
    exact ⟨rfl, rfl⟩
  · intro r n r' n' huses huses' _
    rcases h huses with ⟨rfl, rfl⟩
    rcases h huses' with ⟨rfl, rfl⟩
    exact ⟨rfl, rfl⟩

/-- A network that is connected to a router. -/
def connected : List Call := [
  .request (.createSwitch { id := "a" }),
  .request (.createRouter "r" "" false),
  .request (.addInterface "r" "a" "10.0.0.1/24")]

theorem agrees_history_disconnect :
    NeverRepeats (Counter.mk 1) ∧
      NamesApart (connected ++ [.request (.removeInterface "r" "a")]) ∧
      ∀ e ∈ Call.transactions (.request (.removeInterface "r" "a"))
        (history connected (Counter.mk 1)).1 (history connected (Counter.mk 1)).2,
        Agrees e.1 e.2 := by
  have hids := Counter.neverRepeats (Counter.mk 1)
  have hapart : NamesApart (connected ++ [.request (.removeInterface "r" "a")]) := by
    refine ⟨interfacesApart_of_forall_eq "r" "a" fun huses => ?_, ?_⟩
    · simpa [UsesInterface, connected] using huses
    · intro router network network' _ huses
      simp [UsesLocalnet, connected] at huses
  exact ⟨hids, hapart, agrees_history connected _ _ hids hapart⟩

/-- A network whose port to the physical one has the name of the peer of an interface: that between
the router `y-localnet` and the network `x`. -/
def physical : List Call := [
  .request (.createSwitch { id := "x-to-lr-y" }),
  .request (.createLocalnetPort "x-to-lr-y" 0 "p")]

/-- Whether the second identifier drawn by a counter is that of a port. -/
def keepsSecondPort (outcome : Except StoreError Tables) : Option Bool :=
  outcome.toOption.map fun ts => (ts .switchPort).contains (Text.decimal 2)

/-- It does not do to keep the names of interfaces apart from each other: the store in memory
deletes the port to the physical network, which its switch still lists in the database. -/
theorem not_agrees_of_interfacesApart :
    ¬ ∀ (past : List Call) (call : Call) (ids : Counter), NeverRepeats ids →
      InterfacesApart (past ++ [call]) →
      ∀ e ∈ call.transactions (history past ids).1 (history past ids).2, Agrees e.1 e.2 := by
  intro h
  have hapart : InterfacesApart
      (physical ++ [.request (.removeInterface "y-localnet" "x")]) := by
    refine interfacesApart_of_forall_eq "y-localnet" "x" fun huses => ?_
    simpa [UsesInterface, physical] using huses
  have hagrees := h physical _ (Counter.mk 1) (Counter.neverRepeats _) hapart
  have hsame : ∀ e ∈ Call.transactions (.request (.removeInterface "y-localnet" "x"))
      (history physical (Counter.mk 1)).1 (history physical (Counter.mk 1)).2,
      keepsSecondPort (e.1.applyAll e.2) =
        keepsSecondPort ((e.1.applyAll (e.2.filter Operation.isTold)).map collect) := by
    intro e he
    rw [(hagrees e he).tables]
  exact absurd hsame (by decide +kernel)

end Client
end LogicalNet
