import LogicalNet.Proofs.Client.Ending

/-!
# Transactions of calls

A journal is a store in memory that writes down every transaction that it is given,
with the tables that it finds.  A call does the same over a journal as over the
store in memory, and what it writes down are the transactions in which its plans
end.
-/

namespace LogicalNet

/-! ## Drawn identifiers -/

namespace IdSource

variable {ι : Type} [IdSource ι]

/-- The source comes from one state to the other by draws, with these identifiers among them. -/
inductive Drawn : ι → List String → ι → Prop where
  | refl (ids : ι) : Drawn ids [] ids
  | uuid {ids ids' : ι} {us : List String} (h : Drawn (IdSource.uuid ids).2 us ids') :
      Drawn ids ((IdSource.uuid ids).1 :: us) ids'
  | mac {ids ids' : ι} {us : List String} (h : Drawn (IdSource.mac ids).2 us ids') :
      Drawn ids us ids'

theorem Drawn.trans {ids ids' ids'' : ι} {us vs : List String} (h : Drawn ids us ids')
    (h' : Drawn ids' vs ids'') : Drawn ids (us ++ vs) ids'' := by
  induction h with
  | refl ids =>
      exact h'
  | uuid _ ih =>
      exact .uuid (ih h')
  | mac _ ih =>
      exact .mac (ih h')

/-- No identifier is drawn twice. -/
def NeverRepeats (ids : ι) : Prop :=
  ∀ us ids', Drawn ids us ids' → us.Nodup

/-- Every identifier that is drawn is a text with something in it. -/
def NeverEmpty (ids : ι) : Prop :=
  ∀ us ids', Drawn ids us ids' → ∀ u ∈ us, u.isEmpty = false

theorem neverEmpty_of_uuid (h : ∀ ids : ι, (IdSource.uuid ids).1.isEmpty = false) (ids : ι) :
    NeverEmpty ids := by
  intro us ids' hdrawn
  induction hdrawn with
  | refl ids =>
      simp
  | @uuid ids ids' us _ ih =>
      intro u hu
      rcases List.mem_cons.mp hu with rfl | hu
      · exact h ids
      · exact ih u hu
  | mac _ ih =>
      exact ih

theorem drawn_uuids (n : Nat) (ids : ι) : Drawn ids (uuids n ids).1 (uuids n ids).2 := by
  induction n generalizing ids with
  | zero =>
      exact .refl ids
  | succ n ih =>
      exact .uuid (ih _)

theorem length_uuids (n : Nat) (ids : ι) : (uuids n ids).1.length = n := by
  induction n generalizing ids with
  | zero =>
      rfl
  | succ n ih =>
      exact congrArg (· + 1) (ih _)

end IdSource

open IdSource (Drawn)

/-! ## Journals -/

structure Journal where
  memory : Memory
  entries : List (Tables × List Operation)

namespace Journal

instance : Store Journal where
  get table lookup j :=
    let read := Store.get table lookup j.memory
    (read.1, { j with memory := read.2 })
  list table j :=
    let read := Store.list table j.memory
    (read.1, { j with memory := read.2 })
  find table key value j :=
    let read := Store.find table key value j.memory
    (read.1, { j with memory := read.2 })
  transact operations j :=
    let written := Store.transact operations j.memory
    (written.1, ⟨written.2, j.entries ++ [(j.memory.tables, operations)]⟩)
  close j := { j with memory := Store.close j.memory }
  isConnected j := Store.isConnected j.memory
  kind j := Store.kind j.memory

/-- A journal in which nothing is written yet. -/
def start (m : Memory) : Journal :=
  ⟨m, []⟩

variable {ι : Type} [IdSource ι] {α : Type}

/-- What is left of an outcome over a journal without the entries. -/
def forget (outcome : Except StoreError α × Journal × ι) : Except StoreError α × Memory × ι :=
  (outcome.1, outcome.2.1.memory, outcome.2.2)

/-! ## Plans over a journal -/

theorem run_memory (p : Plan α) (j : Journal) (ids : ι) :
    p.run j.memory ids = forget (p.run j ids) := by
  induction p generalizing ids with
  | done a =>
      rfl
  | fail e =>
      rfl
  | get table lookup next ih =>
      rw [Plan.run, Plan.run]
      exact ih _ ids
  | list table next ih =>
      rw [Plan.run, Plan.run]
      exact ih _ ids
  | find table key value next ih =>
      rw [Plan.run, Plan.run]
      exact ih _ ids
  | uuid next ih =>
      rw [Plan.run, Plan.run]
      exact ih _ _
  | mac next ih =>
      rw [Plan.run, Plan.run]
      exact ih _ _

theorem perform_memory (p : Plan (Transaction α)) (j : Journal) (ids : ι) :
    p.perform j.memory ids = forget (p.perform j ids) := by
  unfold Plan.perform
  rw [run_memory]
  cases h : (p.run j ids).1 with
  | error e =>
      simp [forget, h]
  | ok t =>
      simp only [forget, h]
      rfl

theorem createNetwork_memory (network : Tenant.Network) (j : Journal) (ids : ι) :
    Client.createNetwork network j.memory ids = forget (Client.createNetwork network j ids) := by
  unfold Client.createNetwork
  rw [perform_memory]
  cases hcreated : ((Client.createSwitch network).perform j ids).1 with
  | error e =>
      simp [forget, hcreated]
  | ok switch =>
      simp only [forget, hcreated]
      split
      · have hdhcp := perform_memory (Client.createNetworkDhcp network)
          ((Client.createSwitch network).perform j ids).2.1
          ((Client.createSwitch network).perform j ids).2.2
        rw [hdhcp]
        simp only [forget]
        split <;> rfl
      · rfl

/-- Only the creation of a switch is more than one call. -/
theorem perform_eq_plan {σ : Type} [Store σ] {r : Client.Request}
    (h : ¬ ∃ network, r = .createSwitch network) (s : σ) (ids : ι) :
    r.perform s ids = r.plan.perform s ids := by
  cases r with
  | createSwitch network =>
      exact absurd ⟨network, rfl⟩ h
  | _ =>
      rfl

theorem request_memory (r : Client.Request) (j : Journal) (ids : ι) :
    r.perform j.memory ids = forget (r.perform j ids) := by
  by_cases h : ∃ network, r = .createSwitch network
  · rcases h with ⟨network, rfl⟩
    simp only [Client.Request.perform]
    rw [createNetwork_memory]
    rfl
  · rw [perform_eq_plan h, perform_eq_plan h]
    exact perform_memory r.plan j ids

/-- A plan that is run leaves the journal as it is. -/
theorem run_spec (p : Plan α) (j : Journal) (ids : ι) : (p.run j ids).2.1 = j ∧
    ∃ us, Drawn ids us (p.run j ids).2.2 ∧
      ∀ a, (p.run j ids).1 = .ok a → p.Ends j.memory.tables us a := by
  induction p generalizing ids with
  | done a =>
      refine ⟨rfl, [], .refl ids, fun a' h => ?_⟩
      cases h
      exact .done a
  | fail e =>
      exact ⟨rfl, [], .refl ids, fun a h => by cases h⟩
  | get table lookup next ih =>
      rw [Plan.run]
      rcases ih (j.memory.tables.get? table lookup) ids with ⟨hj, us, hus, hends⟩
      exact ⟨hj, us, hus, fun a h => .get (hends a h)⟩
  | list table next ih =>
      rw [Plan.run]
      rcases ih (j.memory.tables.list table) ids with ⟨hj, us, hus, hends⟩
      exact ⟨hj, us, hus, fun a h => .list (hends a h)⟩
  | find table key value next ih =>
      rw [Plan.run]
      rcases ih (j.memory.tables.find table key value) ids with ⟨hj, us, hus, hends⟩
      exact ⟨hj, us, hus, fun a h => .find (hends a h)⟩
  | uuid next ih =>
      rw [Plan.run]
      rcases ih (IdSource.uuid ids).1 (IdSource.uuid ids).2 with ⟨hj, us, hus, hends⟩
      exact ⟨hj, _ :: us, .uuid hus, fun a h => .uuid _ (hends a h)⟩
  | mac next ih =>
      rw [Plan.run]
      rcases ih (IdSource.mac ids).1 (IdSource.mac ids).2 with ⟨hj, us, hus, hends⟩
      exact ⟨hj, us, .mac hus, fun a h => .mac _ (hends a h)⟩

end Journal
end LogicalNet
