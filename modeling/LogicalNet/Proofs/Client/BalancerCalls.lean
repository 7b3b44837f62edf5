import LogicalNet.Proofs.Client.SwitchCalls

/-!
# What the calls on load balancers write
-/

namespace LogicalNet
namespace Client

open Tables Plan.Ends

variable {calls : List Call} {ts : Tables} {drawn : List String}

theorem uuid_of_balancerRow {balancer : Tenant.Balancer} {uuid : String} {row : LoadBalancer}
    (h : balancerRow balancer uuid = .ok row) : row.uuid = uuid := by
  rcases Outcome.bind_eq_ok_iff.mp h with ⟨vip, _, hrest⟩
  split at hrest
  · cases hrest
  · cases hrest
    rfl

theorem issued_createBalancer {balancer : Tenant.Balancer} {t : Transaction LoadBalancer}
    (h : (createBalancer balancer).Ends ts drawn t) : Issued calls ts drawn t.operations := by
  rcases of_bind h with ⟨_, uuid, _, rfl, huuid, hrest⟩
  rcases of_bind hrest with ⟨_, row, _, rfl, hrow, hwrite⟩
  rcases of_pure hwrite with ⟨rfl, rfl⟩
  rcases of_input hrow with ⟨_, hbuilt⟩
  refine .insert rfl (fun c => by cases c <;> rfl) ?_
  rw [of_drawUuid huuid]
  simp [Row.uuid, uuid_of_balancerRow hbuilt]

theorem issued_updateBalancer {balancer : Tenant.Balancer} {t : Transaction LoadBalancer}
    (h : (updateBalancer balancer).Ends ts drawn t) : Issued calls ts drawn t.operations := by
  rcases of_bind h with ⟨_, found, _, hdrawn, hfound, hrest⟩
  cases found with
  | none =>
      rcases of_fetch hfound with ⟨rfl, _⟩
      subst hdrawn
      exact issued_createBalancer hrest
  | some old =>
      rcases of_bind hrest with ⟨_, row, _, _, _, hwrite⟩
      rcases of_pure hwrite with ⟨_, rfl⟩
      refine .update rfl (fun c => by cases c <;> rfl) fun c o htarget => ?_
      cases c <;> cases o <;> cases htarget <;> rfl

theorem issued_deleteBalancer {balancer : String} {t : Transaction Unit}
    (h : (deleteBalancer balancer).Ends ts drawn t) : Issued calls ts drawn t.operations := by
  rcases of_bind h with ⟨_, found, _, _, _, hrest⟩
  cases found with
  | none =>
      rcases of_pure hrest with ⟨_, rfl⟩
      exact .reads
  | some row =>
      rcases of_bind hrest with ⟨_, switches, _, _, _, hrest⟩
      rcases of_bind hrest with ⟨_, routers, _, _, _, hrest⟩
      rcases of_pure hrest with ⟨_, rfl⟩
      have hkind : ∀ op ∈ (switches.filter fun s => s.loadBalancers.contains row.uuid).map
            (fun s => Operation.removeRefs .switch (.uuid s.uuid) .loadBalancers [row.uuid]) ++
          (routers.filter fun r => r.loadBalancers.contains row.uuid).map
            (fun r => Operation.removeRefs .router (.uuid r.uuid) .loadBalancers [row.uuid]) ++
          [deleteOperation .loadBalancer row.uuid],
          (∃ table lookup, op = .removeRefs table lookup .loadBalancers [row.uuid]) ∨
            op = .delete .loadBalancer (.uuid row.uuid) := by
        intro op hop
        rcases List.mem_append.mp hop with hop | hop
        · rcases List.mem_append.mp hop with hop | hop
          · rcases List.mem_map.mp hop with ⟨s, _, rfl⟩
            exact .inl ⟨_, _, rfl⟩
          · rcases List.mem_map.mp hop with ⟨r, _, rfl⟩
            exact .inl ⟨_, _, rfl⟩
        · exact .inr (List.mem_singleton.mp hop)
      refine .remove (fun op hop => ?_) fun _ t u hop ht => ?_
      · rcases hkind op hop with ⟨table, lookup, rfl⟩ | rfl
        · exact .reference fun t howner => by cases t <;> cases howner
        · exact withdraws_of_bare rfl (fun t c => by cases t <;> simp [Table.owner?]) _ _
      · rcases hkind _ hop with ⟨table, lookup, heq⟩ | heq
        · cases heq
        · cases heq
          cases ht

theorem issued_assign {table : Table} {owner : String} {assigned : List String}
    {balancer : LoadBalancer} {us : List String} {t : Transaction Unit}
    (h : (assign table owner assigned balancer).Ends ts us t) :
    Issued calls ts drawn t.operations := by
  unfold assign at h
  split at h
  · rcases of_pure h with ⟨_, rfl⟩
    exact .reads
  · rcases of_pure h with ⟨_, rfl⟩
    refine .link (fun t howner => by cases t <;> cases howner) fun o t r _ _ _ => ?_
    cases table <;> trivial

theorem issued_assignToSwitch {balancer network : String} {t : Transaction Unit}
    (h : (assignToSwitch balancer network).Ends ts drawn t) :
    Issued calls ts drawn t.operations := by
  rcases of_bind h with ⟨_, switch, _, _, _, hrest⟩
  rcases of_bind hrest with ⟨_, row, _, _, _, hrest⟩
  exact issued_assign hrest

theorem issued_assignToRouter {balancer router : String} {t : Transaction Unit}
    (h : (assignToRouter balancer router).Ends ts drawn t) :
    Issued calls ts drawn t.operations := by
  rcases of_bind h with ⟨_, routerRow, _, _, _, hrest⟩
  rcases of_bind hrest with ⟨_, row, _, _, _, hrest⟩
  exact issued_assign hrest

end Client
end LogicalNet
