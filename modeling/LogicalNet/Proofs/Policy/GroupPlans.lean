import LogicalNet.Policy.Compiled
import LogicalNet.Proofs.Outcome
import LogicalNet.Proofs.TextMap
import Mathlib.Data.List.Basic

/-!
# What security groups compile to

Whatever the rules of a security group are, each of its access control lists names
the group and may be written: its priority is in range, and its condition starts with
the port that it is about.
-/

namespace LogicalNet

/-! ## Texts that are not blank -/

theorem Text.isBlankText_of_mem {s : String} {c : Char} (hc : c ∈ s.toList)
    (h : Text.isBlank c = false) : Text.isBlankText s = false := by
  cases hs : Text.isBlankText s with
  | false =>
      rfl
  | true =>
      rw [Text.isBlankText, List.all_eq_true] at hs
      rw [hs c hc] at h
      cases h

theorem Text.mem_join_cons {c : Char} {first : String} (h : c ∈ first.toList) (sep : String)
    (rest : List String) : c ∈ (Text.join sep (first :: rest)).toList := by
  rw [Text.join, String.toList_ofList, List.map_cons]
  cases rest with
  | nil =>
      simpa [List.intercalate] using h
  | cons next rest =>
      simp [List.intercalate, h]

/-- The name of a field starts with a letter. -/
theorem PortSide.exists_mem_text (side : PortSide) :
    ∃ c ∈ side.text.toList, Text.isBlank c = false := by
  cases side with
  | enters =>
      exact ⟨'i', by decide, by decide⟩
  | leaves =>
      exact ⟨'o', by decide, by decide⟩

theorem Clause.exists_mem_text_port (side : PortSide) (group : String) :
    ∃ c ∈ (Clause.port side group).text.toList, Text.isBlank c = false := by
  rcases side.exists_mem_text with ⟨c, hc, hblank⟩
  refine ⟨c, ?_, hblank⟩
  rw [Clause.text, String.toList_append, String.toList_append, List.append_assoc]
  exact List.mem_append_left _ hc

/-! ## Lists that may be written -/

namespace AclDraft

/-- The list names the group, and nothing is wrong with its contents. -/
structure Proper (group : String) (d : AclDraft) : Prop where
  group : d.externalIds.get? ExternalId.securityGroup = some group
  priority : d.priority ≤ greatestAclPriority
  condition : Text.isBlankText d.condition = false

theorem Proper.fault?_withUuid {group : String} {d : AclDraft} (h : d.Proper group)
    (uuid : String) : (d.withUuid uuid).fault? = none := by
  rw [Acl.fault?, if_neg]
  · rw [if_neg]
    show ¬ Text.isBlankText d.condition = true
    rw [h.condition]
    decide
  · exact UInt16.not_lt.mpr h.priority

end AclDraft

/-- A value that is not empty stands among the external ids. -/
theorem ExternalIds.get?_ofPairs_last (pairs : List (String × String)) {key value : String}
    (h : value.isEmpty = false) :
    (ExternalIds.ofPairs (pairs ++ [(key, value)])).get? key = some value := by
  unfold ofPairs TextMap.ofList TextMap.insertAll
  rw [List.filter_append, List.filter_cons_of_pos (by simp [h]), List.filter_nil,
    List.foldl_append, List.foldl_cons, List.foldl_nil]
  exact TextMap.get?_insert_self _ _ _

theorem Priority.ofRule_le (priority : UInt32) :
    Priority.ofRule priority ≤ greatestAclPriority := by
  have hle : min (userBase.toNat + priority.toNat) (overrideBase.toNat - 1) ≤ 1999 :=
    Nat.min_le_right _ _
  unfold Priority.ofRule
  rw [UInt16.le_iff_toNat_le]
  show (UInt16.ofNat _).toNat ≤ 32767
  rw [UInt16.toNat_ofNat']
  exact Nat.le_trans (Nat.mod_le _ _) (Nat.le_trans hle (by decide))

namespace SecurityGroup

theorem proper_builtin {group : String} (hgroup : group.isEmpty = false) (name kind : String)
    (direction : AclDirection) {priority : UInt16} (hpriority : priority ≤ greatestAclPriority)
    (side : PortSide) (state : String) (action : AclAction) :
    (builtin group name kind direction priority side state action).Proper group := by
  rcases Clause.exists_mem_text_port side (Name.portGroup group) with ⟨c, hc, hblank⟩
  constructor
  · exact ExternalIds.get?_ofPairs_last [(ExternalId.builtin, kind)] hgroup
  · exact hpriority
  · apply Text.isBlankText_of_mem _ hblank
    show c ∈ (_ ++ state).toList
    rw [String.toList_append]
    exact List.mem_append_left _ hc

theorem proper_draft {group : String} (hgroup : group.isEmpty = false) {r : SecurityRule}
    {stateful : Bool} {d : AclDraft} (h : r.draft group stateful = .ok d) : d.Proper group := by
  unfold SecurityRule.draft at h
  split at h
  · cases h
  · rename_i condition hcondition
    cases h
    constructor
    · exact ExternalIds.get?_ofPairs_last [(ExternalId.rule, r.id)] hgroup
    · exact Priority.ofRule_le r.priority
    · rcases Outcome.bind_eq_ok_iff.mp hcondition with ⟨clauses, hclauses, hjoin⟩
      rcases Outcome.bind_eq_ok_iff.mp hclauses with ⟨protocol, _, hrest⟩
      rcases Outcome.bind_eq_ok_iff.mp hrest with ⟨address, _, hdone⟩
      cases hdone
      cases hjoin
      rcases Clause.exists_mem_text_port (.ofMember r.direction) (Name.portGroup group) with
        ⟨c, hc, hblank⟩
      exact Text.isBlankText_of_mem (Text.mem_join_cons hc _ _) hblank

attribute [local irreducible] SecurityRule.draft in
theorem ruleDrafts_cons (group : String) (stateful : Bool) (r : SecurityRule)
    (rest : List SecurityRule) : ruleDrafts group stateful (r :: rest) =
      match r.draft group stateful with
      | .ok d => (d :: (ruleDrafts group stateful rest).1, (ruleDrafts group stateful rest).2)
      | .error e => ((ruleDrafts group stateful rest).1,
          ⟨r.id, e.message⟩ :: (ruleDrafts group stateful rest).2) := by
  rfl

theorem forall_ruleDrafts {group : String} {stateful : Bool} {P : AclDraft → Prop}
    (h : ∀ (r : SecurityRule) (d : AclDraft), r.draft group stateful = .ok d → P d)
    (rules : List SecurityRule) : ∀ d ∈ (ruleDrafts group stateful rules).1, P d := by
  induction rules with
  | nil =>
      intro d hd
      change d ∈ [] at hd
      cases hd
  | cons r rest ih =>
      intro d hd
      rw [ruleDrafts_cons] at hd
      split at hd
      · rename_i d' hd'
        rcases List.mem_cons.mp hd with rfl | hd
        · exact h r d hd'
        · exact ih d hd
      · exact ih d hd

/-! ## The plan of a group -/

variable {g : SecurityGroup} {p : GroupPlan}

/-- Every group with an id that is not blank compiles. -/
theorem exists_plan (h : Text.isBlankText g.id = false) : ∃ p, g.plan = .ok p := by
  unfold plan
  rw [if_neg (by simp [h])]
  exact ⟨_, rfl⟩

theorem group_of_plan (h : g.plan = .ok p) : p.group = g.id := by
  unfold plan at h
  split at h
  · cases h
  · cases h
    rfl

theorem externalIds_of_plan (h : g.plan = .ok p) : p.externalIds = .ofPairs
    [(ExternalId.securityGroup, g.id), (ExternalId.securityGroupName, g.name)] := by
  unfold plan at h
  split at h
  · cases h
  · cases h
    rfl

theorem isEmpty_id_of_plan (h : g.plan = .ok p) : g.id.isEmpty = false := by
  unfold plan at h
  split at h
  · cases h
  · rename_i hblank
    cases hempty : g.id.isEmpty with
    | false =>
        rfl
    | true =>
        rw [String.isEmpty_iff.mp hempty] at hblank
        exact absurd rfl hblank

/-- What holds of the lists that are built in and of those of rules holds of every list. -/
theorem forall_drafts (h : g.plan = .ok p) {P : AclDraft → Prop}
    (hbuiltin : ∀ name kind direction priority side state action,
      priority ≤ greatestAclPriority →
        P (builtin g.id name kind direction priority side state action))
    (hdraft : ∀ (r : SecurityRule) (d : AclDraft), r.draft g.id g.stateful = .ok d → P d) :
    ∀ d ∈ p.drafts, P d := by
  unfold plan at h
  split at h
  · cases h
  · cases h
    intro d hd
    rcases List.mem_append.mp hd with hd | hd
    · rcases List.mem_append.mp hd with hd | hd
      · split at hd
        · simp only [trackingDrafts, List.mem_cons, List.not_mem_nil, or_false] at hd
          rcases hd with rfl | rfl | rfl | rfl
          all_goals exact hbuiltin _ _ _ _ _ _ _ (by decide)
        · cases hd
      · exact forall_ruleDrafts hdraft g.rules d hd
    · rw [List.mem_singleton.mp hd]
      exact hbuiltin _ _ _ _ _ _ _ (by decide)

theorem proper_of_plan (h : g.plan = .ok p) : ∀ d ∈ p.drafts, d.Proper g.id := by
  have hgroup := isEmpty_id_of_plan h
  refine forall_drafts h ?_ ?_
  · intro name kind direction priority side state action hpriority
    exact proper_builtin hgroup name kind direction hpriority side state action
  · intro r d hd
    exact proper_draft hgroup hd

/-- A list names what it was made for and the group. -/
theorem externalIds_of_mem_drafts (h : g.plan = .ok p) : ∀ d ∈ p.drafts, ∃ key value,
    key ∈ [ExternalId.builtin, ExternalId.rule] ∧
      d.externalIds = .ofPairs [(key, value), (ExternalId.securityGroup, g.id)] := by
  refine forall_drafts h ?_ ?_
  · intro name kind direction priority side state action _
    exact ⟨_, kind, List.mem_cons_self, rfl⟩
  · intro r d hd
    unfold SecurityRule.draft at hd
    split at hd
    · cases hd
    · cases hd
      exact ⟨_, r.id, by simp, rfl⟩

end SecurityGroup

/-! ## The identifiers of a compiled group -/

namespace GroupPlan

theorem map_uuid_withUuids (p : GroupPlan) (uuids : List String) :
    (p.withUuids uuids).acls.map Acl.uuid = uuids.take p.drafts.length := by
  show (List.zipWith AclDraft.withUuid p.drafts uuids).map Acl.uuid = _
  induction p.drafts generalizing uuids with
  | nil =>
      rfl
  | cons d rest ih =>
      cases uuids with
      | nil =>
          rfl
      | cons u later =>
          exact congrArg (u :: ·) (ih later)

/-- The lists have the first identifiers, then come those of the port group and the address set. -/
theorem uuids_eq {p : GroupPlan} {uuids : List String} (h : uuids.length = p.size) :
    uuids = (p.withUuids uuids).acls.map Acl.uuid ++
      [(p.withUuids uuids).portGroup.uuid, (p.withUuids uuids).addressSet.uuid] := by
  have hrest : (uuids.drop p.drafts.length).length = 2 := by
    rw [List.length_drop, h, size]
    exact Nat.add_sub_cancel_left _ _
  rcases List.length_eq_two.mp hrest with ⟨a, b, hab⟩
  have hgroup : (p.withUuids uuids).portGroup.uuid = a := by
    show (uuids.drop p.drafts.length).headD "" = a
    rw [hab]
    rfl
  have hset : (p.withUuids uuids).addressSet.uuid = b := by
    show ((uuids.drop p.drafts.length).drop 1).headD "" = b
    rw [hab]
    rfl
  rw [map_uuid_withUuids, hgroup, hset, ← hab, List.take_append_drop]

/-- Every list of a compiled group is a draft with an identifier. -/
theorem exists_draft {p : GroupPlan} {uuids : List String} {a : Acl}
    (h : a ∈ (p.withUuids uuids).acls) : ∃ d ∈ p.drafts, ∃ u, a = d.withUuid u := by
  rcases List.mem_iff_getElem?.mp h with ⟨i, hi⟩
  rcases List.getElem?_zipWith_eq_some.mp hi with ⟨d, u, hd, _, rfl⟩
  exact ⟨d, List.mem_of_getElem? hd, u, rfl⟩

end GroupPlan
end LogicalNet
