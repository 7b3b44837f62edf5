import LogicalNet.Proofs.Client.Histories
import LogicalNet.Proofs.Policy.GroupPlans

/-!
# Rules that compile and rules that are skipped

A compiled group takes the rules of the group apart.  A rule that compiles on its own
gives the same list in the group, in the order of the rules, and every other rule is
reported with the error that it gives on its own.  What is built in stands before and
behind the lists of the rules, with priorities on either side of theirs, and rules that
are skipped have no part in any of it.
-/

namespace LogicalNet

open IdSource (NeverRepeats)

/-- The list but for its identifier. -/
def Acl.withoutUuid (a : Acl) : Acl :=
  { a with uuid := "" }

theorem AclDraft.withoutUuid_withUuid (d : AclDraft) (uuid : String) :
    (d.withUuid uuid).withoutUuid = d.withUuid "" :=
  rfl

/-! ## One rule on its own -/

theorem Priority.toNat_ofRule (priority : UInt32) :
    (ofRule priority).toNat = min (1000 + priority.toNat) 1999 := by
  have hle : min (1000 + priority.toNat) 1999 < 2 ^ 16 :=
    Nat.lt_of_le_of_lt (Nat.min_le_right _ _) (by decide)
  show (UInt16.ofNat (min (1000 + priority.toNat) 1999)).toNat = _
  rw [UInt16.toNat_ofNat', Nat.mod_eq_of_lt hle]

namespace SecurityRule

variable {r : SecurityRule} {group : String} {stateful : Bool} {a : Acl}

/-- Compiled on its own, the rule gives the list, but for the identifier that is drawn for it. -/
def Gives (r : SecurityRule) (group : String) (stateful : Bool) (a : Acl) : Prop :=
  ∀ (ι : Type) [IdSource ι] (ids : ι), ∃ b,
    (r.compile group stateful ids).1 = .ok b ∧ b.withoutUuid = a.withoutUuid

/-- Compiled on its own, the rule gives the error. -/
def Fails (r : SecurityRule) (group : String) (stateful : Bool) (e : RuleError) : Prop :=
  ∀ (ι : Type) [IdSource ι] (ids : ι), (r.compile group stateful ids).1 = .error e

theorem gives_iff : r.Gives group stateful a ↔
    ∃ d, r.draft group stateful = .ok d ∧ a.withoutUuid = d.withUuid "" := by
  constructor
  · intro h
    rcases h Sequential .start with ⟨b, hb, hsame⟩
    unfold compile at hb
    split at hb
    · cases hb
    · rename_i d hd
      cases hb
      exact ⟨d, hd, hsame.symm⟩
  · intro hfound ι _ ids
    rcases hfound with ⟨d, hd, ha⟩
    refine ⟨d.withUuid (IdSource.uuid ids).1, ?_, ha.symm⟩
    unfold compile
    rw [hd]

theorem fails_iff {e : RuleError} :
    r.Fails group stateful e ↔ r.draft group stateful = .error e := by
  constructor
  · intro h
    have hsequential := h Sequential .start
    unfold compile at hsequential
    split at hsequential
    · rename_i e' he'
      cases hsequential
      exact he'
    · cases hsequential
  · intro h ι _ ids
    unfold compile
    rw [h]

end SecurityRule

/-! ## The rules in order -/

namespace SecurityGroup

/-- The rules in order, each with the list that it gives or with the error that it gives. -/
inductive Partition (group : String) (stateful : Bool) :
    List SecurityRule → List Acl → List SkippedRule → Prop where
  | nil : Partition group stateful [] [] []
  | compiled {r : SecurityRule} {a : Acl} {rest : List SecurityRule} {acls : List Acl}
      {skipped : List SkippedRule} (h : r.Gives group stateful a)
      (hrest : Partition group stateful rest acls skipped) :
      Partition group stateful (r :: rest) (a :: acls) skipped
  | skipped {r : SecurityRule} {e : RuleError} {rest : List SecurityRule} {acls : List Acl}
      {skipped : List SkippedRule} (h : r.Fails group stateful e)
      (hrest : Partition group stateful rest acls skipped) :
      Partition group stateful (r :: rest) acls (⟨r.id, e.message⟩ :: skipped)

theorem Partition.exists_gives {group : String} {stateful : Bool} {rules : List SecurityRule}
    {acls : List Acl} {skipped : List SkippedRule}
    (h : Partition group stateful rules acls skipped) :
    ∀ a ∈ acls, ∃ r ∈ rules, r.Gives group stateful a := by
  induction h with
  | nil =>
      simp
  | @compiled r a rest acls skipped h _ ih =>
      intro b hb
      rcases List.mem_cons.mp hb with rfl | hb
      · exact ⟨r, by simp, h⟩
      · rcases ih b hb with ⟨r', hr', hgives⟩
        exact ⟨r', by simp [hr'], hgives⟩
  | skipped _ _ ih =>
      intro b hb
      rcases ih b hb with ⟨r', hr', hgives⟩
      exact ⟨r', by simp [hr'], hgives⟩

/-- Lists that are the drafts of the rules, with whatever identifiers, come from the rules that give
them, and the other rules are reported. -/
theorem partition_ruleDrafts {group : String} {stateful : Bool} {rules : List SecurityRule}
    {acls : List Acl} (h : acls.map Acl.withoutUuid =
      (ruleDrafts group stateful rules).1.map fun d => d.withUuid "") :
    Partition group stateful rules acls (ruleDrafts group stateful rules).2 := by
  induction rules generalizing acls with
  | nil =>
      rw [List.map_eq_nil_iff.mp h]
      exact .nil
  | cons r rest ih =>
      rw [ruleDrafts_cons] at h ⊢
      cases hr : r.draft group stateful with
      | error e =>
          rw [hr] at h
          exact .skipped (SecurityRule.fails_iff.mpr hr) (ih h)
      | ok d =>
          rw [hr] at h
          rcases List.map_eq_cons_iff.mp h with ⟨a, later, rfl, ha, hlater⟩
          exact .compiled (SecurityRule.gives_iff.mpr ⟨d, hr, ha⟩) (ih hlater)

/-- A rule that fails leaves the drafts of the others as they are. -/
theorem ruleDrafts_insert {group : String} {stateful : Bool} {r : SecurityRule} {e : RuleError}
    (h : r.draft group stateful = .error e) (before after : List SecurityRule) :
    (ruleDrafts group stateful (before ++ r :: after)).1 =
      (ruleDrafts group stateful (before ++ after)).1 := by
  induction before with
  | nil =>
      rw [List.nil_append, ruleDrafts_cons, h, List.nil_append]
  | cons first rest ih =>
      rw [List.cons_append, List.cons_append, ruleDrafts_cons, ruleDrafts_cons]
      cases first.draft group stateful with
      | error e' =>
          exact ih
      | ok d =>
          exact congrArg (d :: ·) ih

/-! ## Priorities -/

theorem priority_of_gives {r : SecurityRule} {group : String} {stateful : Bool} {a : Acl}
    (h : r.Gives group stateful a) : a.priority.toNat = min (1000 + r.priority.toNat) 1999 := by
  rcases SecurityRule.gives_iff.mp h with ⟨d, hd, ha⟩
  have hpriority : a.priority = d.priority := congrArg Acl.priority ha
  rw [hpriority, ← Priority.toNat_ofRule]
  unfold SecurityRule.draft at hd
  split at hd
  · cases hd
  · cases hd
    rfl

/-! ## Compiled groups -/

/-- A list that is built in, but for its identifier. -/
def builtinAcl (group name kind : String) (direction : AclDirection) (priority : UInt16)
    (condition : String) (action : AclAction) : Acl where
  uuid := ""
  direction := direction
  priority := priority
  condition := condition
  action := action
  name := some name
  externalIds := .ofPairs [("limiquantix-builtin", kind), ("limiquantix-sg-id", group)]

/-- The lists that tracked connections bring with them. -/
def trackingAcls (group : String) : List Acl :=
  [builtinAcl group "stateful-established-ingress" "stateful-established" .toPort 32767
      ("outport == @" ++ Name.portGroup group ++ " && ct.est && !ct.new") .allow,
    builtinAcl group "stateful-established-egress" "stateful-established" .fromPort 32767
      ("inport == @" ++ Name.portGroup group ++ " && ct.est && !ct.new") .allow,
    builtinAcl group "stateful-related-ingress" "stateful-related" .toPort 32766
      ("outport == @" ++ Name.portGroup group ++ " && ct.rel && !ct.new") .allow,
    builtinAcl group "drop-invalid" "drop-invalid" .toPort 32000
      ("outport == @" ++ Name.portGroup group ++ " && ct.inv") .drop]

/-- The list that lets outgoing traffic through where no rule speaks of it. -/
def egressAcl (group : String) : Acl :=
  builtinAcl group "default-egress-allow" "default-egress-allow" .fromPort 100
    ("inport == @" ++ Name.portGroup group) .allow

theorem withUuid_egressDraft (group : String) :
    (egressDraft group).withUuid "" = egressAcl group := by
  have hcondition : (egressDraft group).condition = "inport == @" ++ Name.portGroup group := by
    show PortSide.text .enters ++ " == @" ++ Name.portGroup group ++ "" = _
    rw [String.append_empty]
    rfl
  unfold AclDraft.withUuid
  rw [hcondition]
  rfl

/-- The priorities of rules lie in a band of their own. -/
theorem priority_between {r : SecurityRule} {group : String} {stateful : Bool} {a : Acl}
    (h : r.Gives group stateful a) :
    1000 ≤ a.priority ∧ a.priority < 2000 ∧ (egressAcl group).priority < a.priority ∧
      ∀ b ∈ trackingAcls group, a.priority < b.priority := by
  have hpriority := priority_of_gives h
  have hegress : (egressAcl group).priority.toNat = 100 := rfl
  have htracking : ∀ b ∈ trackingAcls group, 32000 ≤ b.priority.toNat := by
    simp [trackingAcls, builtinAcl]
  simp only [UInt16.le_iff_toNat_le, UInt16.lt_iff_toNat_lt, hegress]
  refine ⟨?_, ?_, ?_, fun b hb => ?_⟩
  · show 1000 ≤ a.priority.toNat
    omega
  · show a.priority.toNat < 2000
    omega
  · omega
  · have hb' := htracking b hb
    omega

/-- What a compiled group has to do with the rules that it was made from. -/
structure Faithful (g : SecurityGroup) (c : CompiledGroup) : Prop where
  /-- The lists of the rules stand between those that are built in, and above them only the lists
  for tracked connections. -/
  lists : ∃ tracking user egress, c.acls = tracking ++ user ++ [egress] ∧
    tracking.map Acl.withoutUuid = (if g.stateful then trackingAcls g.id else []) ∧
    egress.withoutUuid = egressAcl g.id ∧
    Partition g.id g.stateful g.rules user c.skipped ∧
    ∀ a ∈ user, 1000 ≤ a.priority ∧ a.priority < 2000 ∧ (egressAcl g.id).priority < a.priority ∧
      ∀ b ∈ trackingAcls g.id, a.priority < b.priority
  listed : c.portGroup.acls = c.acls.map Acl.uuid
  distinct : (c.acls.map Acl.uuid ++ [c.portGroup.uuid, c.addressSet.uuid]).Nodup

theorem map_withoutUuid_withUuids {p : GroupPlan} {uuids : List String}
    (h : uuids.length = p.size) :
    (p.withUuids uuids).acls.map Acl.withoutUuid = p.drafts.map fun d => d.withUuid "" := by
  have hlength : p.drafts.length ≤ uuids.length := by
    rw [h, GroupPlan.size]
    exact Nat.le_add_right _ _
  apply List.ext_getElem
  · simp [GroupPlan.withUuids, hlength]
  · intro i _ _
    simp [GroupPlan.withUuids, AclDraft.withoutUuid_withUuid]

theorem drafts_of_plan {g : SecurityGroup} {p : GroupPlan} (h : g.plan = .ok p) :
    p.drafts = (if g.stateful then trackingDrafts g.id else []) ++
      (ruleDrafts g.id g.stateful g.rules).1 ++ [egressDraft g.id] ∧
    p.skipped = (ruleDrafts g.id g.stateful g.rules).2 := by
  unfold plan at h
  split at h
  · cases h
  · cases h
    exact ⟨rfl, rfl⟩

section Identifiers

variable {ι : Type} [IdSource ι]

theorem compile_of_plan {g : SecurityGroup} {p : GroupPlan} (h : g.plan = .ok p) (ids : ι) :
    (g.compile ids).1 = .ok (p.withUuids (IdSource.uuids p.size ids).1) := by
  unfold compile
  rw [h]

/-- The lists of the group, but for the identifiers that are drawn for them. -/
def listsOf (g : SecurityGroup) (ids : ι) : Except RuleError (List Acl) :=
  (g.compile ids).1.map fun c => c.acls.map Acl.withoutUuid

theorem listsOf_eq (g : SecurityGroup) (ids : ι) :
    g.listsOf ids = g.plan.map fun p => p.drafts.map fun d => d.withUuid "" := by
  cases hp : g.plan with
  | error e =>
      unfold listsOf compile
      rw [hp]
      rfl
  | ok p =>
      unfold listsOf
      rw [compile_of_plan hp]
      exact congrArg Except.ok (map_withoutUuid_withUuids (IdSource.length_uuids _ _))

/-- A rule that fails has no part in the lists of the group. -/
theorem listsOf_insert {g : SecurityGroup} {r : SecurityRule} {e : RuleError}
    (h : r.Fails g.id g.stateful e) (before after : List SecurityRule) {κ : Type} [IdSource κ]
    (ids : ι) (ids' : κ) : listsOf { g with rules := before ++ r :: after } ids =
      listsOf { g with rules := before ++ after } ids' := by
  have hdrafts := ruleDrafts_insert (SecurityRule.fails_iff.mp h) before after
  rw [listsOf_eq, listsOf_eq]
  unfold plan
  split
  · rfl
  · simp only [Except.map, hdrafts]

theorem faithful_withUuids {g : SecurityGroup} {p : GroupPlan} (hp : g.plan = .ok p)
    {uuids : List String} (hlength : uuids.length = p.size) (hnodup : uuids.Nodup) :
    g.Faithful (p.withUuids uuids) := by
  rcases drafts_of_plan hp with ⟨hdrafts, hskipped⟩
  have hmap := map_withoutUuid_withUuids hlength
  rw [hdrafts, List.map_append, List.map_append] at hmap
  rcases List.map_eq_append_iff.mp hmap with ⟨front, back, hacls, hfront, hback⟩
  rcases List.map_eq_append_iff.mp hfront with ⟨tracking, user, rfl, htracking, huser⟩
  rcases List.map_eq_singleton_iff.mp hback with ⟨egress, rfl, hegress⟩
  have hpartition := partition_ruleDrafts huser
  constructor
  · refine ⟨tracking, user, egress, hacls, ?_, ?_, ?_, ?_⟩
    · rw [htracking]
      cases g.stateful <;> rfl
    · rw [← withUuid_egressDraft]
      exact hegress
    · rw [← hskipped] at hpartition
      exact hpartition
    · intro a ha
      rcases hpartition.exists_gives a ha with ⟨r, _, hgives⟩
      exact priority_between hgives
  · rfl
  · rw [← GroupPlan.uuids_eq hlength]
    exact hnodup

/-- Every group with an id that is not blank compiles, and faithfully so.  A rule that asks for more
has no lower priority, and rules that fail may come and go. -/
theorem compile_faithful (g : SecurityGroup) (hg : Text.isBlankText g.id = false) (ids : ι)
    (hids : NeverRepeats ids) :
    (∃ c, (g.compile ids).1 = .ok c ∧ g.Faithful c) ∧
    (∀ r r' a a', SecurityRule.Gives r g.id g.stateful a →
      SecurityRule.Gives r' g.id g.stateful a' → r.priority ≤ r'.priority →
      a.priority ≤ a'.priority) ∧
    ∀ r e, SecurityRule.Fails r g.id g.stateful e → ∀ before after (ids' : ι),
      listsOf { g with rules := before ++ r :: after } ids =
        listsOf { g with rules := before ++ after } ids' := by
  refine ⟨?_, ?_, ?_⟩
  · rcases exists_plan hg with ⟨p, hp⟩
    refine ⟨_, compile_of_plan hp ids, faithful_withUuids hp (IdSource.length_uuids _ _) ?_⟩
    exact hids _ _ (IdSource.drawn_uuids p.size ids)
  · intro r r' a a' hr hr' hle
    rw [UInt16.le_iff_toNat_le, priority_of_gives hr, priority_of_gives hr']
    have hle' : r.priority.toNat ≤ r'.priority.toNat := UInt32.le_iff_toNat_le.mp hle
    omega
  · intro r e h before after ids'
    exact listsOf_insert h before after ids ids'

end Identifiers

/-- Its remote address cannot be read. -/
def misspelt : SecurityRule where
  id := "misspelt"
  direction := .ingress
  protocol := "tcp"
  remoteAddress := "not-a-prefix"

/-- SSH and HTTPS for tracked connections, with a rule between them that does not compile. -/
def withMisspelt : SecurityGroup where
  id := "sg-1"
  name := "web"
  stateful := true
  rules := [
    { id := "ssh", direction := .ingress, protocol := "tcp", portMin := 22, portMax := 22 },
    misspelt,
    { id := "https", direction := .ingress, protocol := "tcp", portMin := 443, priority := 5000 }]

theorem compile_faithful_withMisspelt :
    Text.isBlankText withMisspelt.id = false ∧ NeverRepeats (Client.Counter.mk 1) ∧
      (∃ c, (withMisspelt.compile (Client.Counter.mk 1)).1 = .ok c ∧ withMisspelt.Faithful c) ∧
      misspelt.Fails "sg-1" true (.invalidAddress "misspelt" "not-a-prefix") ∧
      listsOf withMisspelt (Client.Counter.mk 1) =
        listsOf { withMisspelt with rules := withMisspelt.rules.eraseIdx 1 }
          (Client.Counter.mk 7) := by
  have hid : Text.isBlankText withMisspelt.id = false := by
    decide
  have hids := Client.Counter.neverRepeats (Client.Counter.mk 1)
  have hfails : misspelt.Fails "sg-1" true (.invalidAddress "misspelt" "not-a-prefix") :=
    SecurityRule.fails_iff.mpr (by decide +kernel)
  have hfaithful := compile_faithful withMisspelt hid (Client.Counter.mk 1) hids
  exact ⟨hid, hids, hfaithful.1, hfails, hfaithful.2.2 misspelt _ hfails
    (withMisspelt.rules.take 1) (withMisspelt.rules.drop 2) (Client.Counter.mk 7)⟩

end SecurityGroup
end LogicalNet
