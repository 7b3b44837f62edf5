import LogicalNet.Proofs.Client.Ending
import LogicalNet.Proofs.Client.Issued
import LogicalNet.Proofs.Store.Sparing

/-!
# Calls beside security groups

Most calls have nothing to do with security groups: whatever they read, they write to
other tables and delete no port.
-/

namespace LogicalNet

/-! ## Whatever a plan reads -/

/-- The operation is not on the tables of security groups and deletes no port. -/
def Operation.isAside : Operation → Bool
  | .delete .switchPort _ => false
  | op => !op.table.isOfGroups

theorem Operation.spares_of_isAside {op : Operation} (h : op.isAside = true)
    (gone : String → Prop) : Tables.Spares gone op := by
  apply Tables.Spares.aside
  · unfold isAside at h
    split at h
    · cases h
    · simpa using h
  · intro lookup hop
    rw [hop] at h
    cases h

/-- All operations of the transaction are beside security groups. -/
def Transaction.IsAside {α : Type} (t : Transaction α) : Prop :=
  ∀ op ∈ t.operations, op.isAside = true

namespace Plan

variable {α β : Type}

/-- What the plan may end with, whatever it reads and draws. -/
def Every (Q : α → Prop) (p : Plan α) : Prop :=
  ∀ ts us a, p.Ends ts us a → Q a

namespace Every

variable {Q : β → Prop}

theorem done {a : α} {Q : α → Prop} (h : Q a) : (Plan.done a).Every Q := by
  intro ts us b hends
  cases hends
  exact h

theorem fail (e : StoreError) (Q : α → Prop) : (Plan.fail e : Plan α).Every Q := by
  intro ts us a hends
  cases hends

theorem bind {p : Plan α} {f : α → Plan β} (h : ∀ a, (f a).Every Q) : (p >>= f).Every Q := by
  intro ts us b hends
  rcases Ends.of_bind hends with ⟨_, a, _, _, _, hrest⟩
  exact h a ts _ b hrest

/-- What is written goes by what the first plan ended with. -/
theorem bind_of {P : α → Prop} {p : Plan α} {f : α → Plan β} (hp : p.Every P)
    (h : ∀ a, P a → (f a).Every Q) : (p >>= f).Every Q := by
  intro ts us b hends
  rcases Ends.of_bind hends with ⟨_, a, _, _, hfirst, hrest⟩
  exact h a (hp ts _ a hfirst) ts _ b hrest

theorem gather {f : α → Plan (List β)} (h : ∀ a, (f a).Every fun bs => ∀ b ∈ bs, Q b)
    (as : List α) : (gather f as).Every fun bs => ∀ b ∈ bs, Q b := by
  induction as with
  | nil =>
      exact done (by simp)
  | cons a rest ih =>
      refine bind_of (h a) fun first hfirst => bind_of ih fun later hlater => done ?_
      intro b hb
      rcases List.mem_append.mp hb with hb | hb
      · exact hfirst b hb
      · exact hlater b hb

end Every
end Plan

namespace Client

open Tables
open Plan (Every)

/-! ## Calls on other tables -/

def Request.concernsGroups : Request → Bool
  | createGroup _ | deleteGroup _ | applyGroup _ _ | removeFromGroup _ _
  | updateAddresses _ _ => true
  | _ => false

def Request.deletesPorts : Request → Bool
  | deleteSwitch _ | deletePort _ | deleteRouter _ | removeInterface _ _ => true
  | _ => false

theorem aside_translated {α : Type} {p : Plan (Transaction α)} {f : Transaction α → Answer}
    (h : p.Every Transaction.IsAside) :
    (p.bind fun t => Plan.write t.operations (f t)).Every Transaction.IsAside :=
  Every.bind_of h fun _ ht => Every.done ht

theorem aside_answer {α : Type} (p : Plan α) : (Plan.answer p).Every Transaction.IsAside :=
  Every.bind fun _ => Every.done (by simp [Transaction.IsAside])

theorem aside_write {α : Type} {ops : List Operation} (h : ∀ op ∈ ops, op.isAside = true) (a : α) :
    (Plan.write ops a).Every Transaction.IsAside :=
  Every.done h

theorem aside_single {α : Type} {op : Operation} (h : op.isAside = true) (a : α) :
    (Plan.write [op] a).Every Transaction.IsAside := by
  apply aside_write
  intro op' hop'
  rw [List.mem_singleton.mp hop']
  exact h

theorem aside_attachment {α : Type} {row : Row} {owner : Table}
    (hrow : row.table.isOfGroups = false) (howner : owner.isOfGroups = false) (key : String)
    (c : RefColumn) (a : α) :
    (Plan.write (attachment row owner key c) a).Every Transaction.IsAside := by
  apply aside_write
  intro op hop
  simp only [attachment, List.mem_cons, List.not_mem_nil, or_false] at hop
  rcases hop with rfl | rfl
  · show (!row.table.isOfGroups) = true
    rw [hrow]
    rfl
  · show (!owner.isOfGroups) = true
    rw [howner]
    rfl

theorem aside_createDhcpOptions (config : Tenant.DhcpConfig) :
    (createDhcpOptions config).Every Transaction.IsAside := by
  unfold createDhcpOptions
  dsimp only
  split
  all_goals
    apply Every.bind
    intro mac
    apply Every.bind
    intro uuid
    exact aside_single rfl _

theorem aside_createNetworkDhcp (network : Tenant.Network) :
    (createNetworkDhcp network).Every Transaction.IsAside := by
  unfold createNetworkDhcp
  split
  · exact aside_createDhcpOptions _
  · exact Every.fail _ _

theorem aside_createPort (port : Tenant.Port) :
    (createPort port).Every Transaction.IsAside := by
  apply Every.bind
  intro switch
  apply Every.bind
  intro mac
  apply Every.bind
  intro uuid
  apply Every.bind
  intro dhcp
  exact aside_attachment rfl rfl _ _ _

theorem aside_bindPort (port vm host : String) :
    (bindPort port vm host).Every Transaction.IsAside := by
  apply Every.bind
  intro row
  apply aside_write
  simp [Operation.isAside, Operation.table, Table.isOfGroups]

theorem aside_createLocalnetPort (network : String) (vlan : UInt32) (physicalNetwork : String) :
    (createLocalnetPort network vlan physicalNetwork).Every Transaction.IsAside := by
  unfold createLocalnetPort
  dsimp only
  split
  · exact Every.fail _ _
  · apply Every.bind
    intro switch
    apply Every.bind
    intro uuid
    exact aside_attachment rfl rfl _ _ _

theorem aside_addInterface (router network gateway : String) :
    (addInterface router network gateway).Every Transaction.IsAside := by
  apply Every.bind
  intro address
  split
  · exact Every.fail _ _
  · iterate 5
      apply Every.bind
      intro _
    apply aside_write
    simp [Operation.isAside, Operation.table, Row.table, Table.isOfGroups]

theorem aside_addRoute (router destination nextHop : String) :
    (addRoute router destination nextHop).Every Transaction.IsAside := by
  iterate 5
    apply Every.bind
    intro _
  exact aside_attachment rfl rfl _ _ _

theorem aside_deleteRoute (router destination : String) :
    (deleteRoute router destination).Every Transaction.IsAside := by
  apply Every.bind
  intro target
  apply Every.bind
  intro found
  cases found with
  | none =>
      exact aside_write (by simp) _
  | some row =>
      refine Every.bind_of (Every.gather (fun uuid => ?_) _) fun _ hgone => aside_write hgone _
      apply Every.bind
      intro route
      split
      · apply Every.done
        simp [Operation.isAside, Operation.table, Table.isOfGroups, deleteOperation]
      · exact Every.done (by simp)

theorem aside_attachNat (router : String) (rule : NatRule) :
    (attachNat router rule).Every Transaction.IsAside := by
  apply Every.bind
  intro row
  exact aside_attachment rfl rfl _ _ _

theorem aside_removeNat (rule : NatRule) :
    (removeNat rule).Every fun ops => ∀ op ∈ ops, op.isAside = true := by
  have hops : ∀ routers : List Router, ∀ op ∈ ((routers.filter fun r =>
      r.nat.contains rule.uuid).map fun r =>
        Operation.removeRefs .router (.uuid r.uuid) .nat [rule.uuid]) ++
          [deleteOperation .nat rule.uuid], op.isAside = true := by
    intro routers op hop
    rcases List.mem_append.mp hop with hop | hop
    · rcases List.mem_map.mp hop with ⟨r, _, rfl⟩
      rfl
    · rw [List.mem_singleton.mp hop]
      rfl
  unfold removeNat
  dsimp only
  split
  all_goals
    apply Every.bind
    intro routers
    exact Every.done (hops routers)

theorem aside_deleteFloatingIp (floating : String) :
    (deleteFloatingIp floating).Every Transaction.IsAside := by
  apply Every.bind
  intro rules
  refine Every.bind_of (Every.gather (fun rule => aside_removeNat rule) rules) fun _ hgone => ?_
  exact aside_write hgone _

theorem aside_deleteNat (uuid : String) : (deleteNat uuid).Every Transaction.IsAside := by
  apply Every.bind
  intro found
  cases found with
  | none =>
      exact aside_write (by simp) _
  | some rule =>
      exact Every.bind_of (aside_removeNat rule) fun _ hgone => aside_write hgone _

theorem aside_createBalancer (balancer : Tenant.Balancer) :
    (createBalancer balancer).Every Transaction.IsAside := by
  apply Every.bind
  intro uuid
  apply Every.bind
  intro row
  exact aside_single rfl _

theorem aside_updateBalancer (balancer : Tenant.Balancer) :
    (updateBalancer balancer).Every Transaction.IsAside := by
  apply Every.bind
  intro found
  cases found with
  | none =>
      exact aside_createBalancer balancer
  | some old =>
      apply Every.bind
      intro row
      exact aside_single rfl _

theorem aside_deleteBalancer (balancer : String) :
    (deleteBalancer balancer).Every Transaction.IsAside := by
  apply Every.bind
  intro found
  cases found with
  | none =>
      exact aside_write (by simp) _
  | some row =>
      apply Every.bind
      intro switches
      apply Every.bind
      intro routers
      apply aside_write
      intro op hop
      simp only [List.mem_append, List.mem_map, List.mem_singleton] at hop
      rcases hop with (⟨s, _, rfl⟩ | ⟨r, _, rfl⟩) | rfl
      · rfl
      · rfl
      · rfl

theorem aside_assign {table : Table} (h : table.isOfGroups = false) (owner : String)
    (assigned : List String) (balancer : LoadBalancer) :
    (assign table owner assigned balancer).Every Transaction.IsAside := by
  unfold assign
  split
  · exact aside_write (by simp) _
  · apply aside_single
    show (!table.isOfGroups) = true
    rw [h]
    rfl

/-- All but the calls on security groups and those that delete ports are beside them. -/
theorem aside_plan {r : Request} (hgroups : r.concernsGroups = false)
    (hports : r.deletesPorts = false) : r.plan.Every Transaction.IsAside := by
  cases r <;> first | cases hgroups; done | cases hports; done | apply aside_translated
  case createSwitch => exact Every.bind fun uuid => aside_single rfl _
  case createPort port => exact aside_createPort port
  case bindPort port vm host => exact aside_bindPort port vm host
  case createLocalnetPort network vlan physicalNetwork =>
    exact aside_createLocalnetPort network vlan physicalNetwork
  case createDhcpOptions config => exact aside_createDhcpOptions config
  case updateDhcpOptions => exact aside_single rfl _
  case deleteDhcpOptions => exact aside_single rfl _
  case createRouter => exact Every.bind fun uuid => aside_single rfl _
  case addInterface router network gateway => exact aside_addInterface router network gateway
  case addRoute router destination nextHop => exact aside_addRoute router destination nextHop
  case deleteRoute router destination => exact aside_deleteRoute router destination
  case createFloatingIp =>
    iterate 4
      apply Every.bind
      intro _
    exact aside_attachNat _ _
  case deleteFloatingIp floating => exact aside_deleteFloatingIp floating
  case createSnat =>
    iterate 4
      apply Every.bind
      intro _
    exact aside_attachNat _ _
  case deleteNat uuid => exact aside_deleteNat uuid
  case createBalancer balancer => exact aside_createBalancer balancer
  case updateBalancer balancer => exact aside_updateBalancer balancer
  case deleteBalancer balancer => exact aside_deleteBalancer balancer
  case assignToSwitch =>
    exact Every.bind fun owner => Every.bind fun row => aside_assign rfl _ _ _
  case assignToRouter =>
    exact Every.bind fun owner => Every.bind fun row => aside_assign rfl _ _ _
  all_goals exact aside_answer _

end Client
end LogicalNet
