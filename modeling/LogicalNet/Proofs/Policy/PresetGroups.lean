import LogicalNet.Policy.Preset
import LogicalNet.Proofs.Policy.MatchMeaning
import LogicalNet.Proofs.Policy.RulePartition
import Mathlib.Data.List.Nodup
import Mathlib.Data.List.Pairwise

/-!
# Groups made from presets

What a rule compiles to does not depend on its id, so a group made from a preset compiles
whole as soon as the rules of the preset do, whatever the group is called.

The id of the group and the id of the rule are joined by a dash, which may stand in either
of them.  The place of the joint is still found, as no preset has a rule with an id that
ends in a dash and the id of another.
-/

namespace LogicalNet

/-! ## Texts behind a dash -/

namespace Text

/-- No text of the list ends in a dash and a text of the list. -/
def DashFree (texts : List String) : Prop :=
  ∀ s ∈ texts, ∀ t ∈ texts, ¬ ('-' :: s.toList) <:+ t.toList

instance (texts : List String) : Decidable (DashFree texts) :=
  inferInstanceAs (Decidable (∀ s ∈ texts, ∀ t ∈ texts, ¬ _))

variable {texts : List String} {a b s t : String}

theorem DashFree.eq_of_suffix (h : DashFree texts) (hs : s ∈ texts) (ht : t ∈ texts)
    (hsuffix : ('-' :: s.toList) <:+ ('-' :: t.toList)) : s = t := by
  rcases List.suffix_cons_iff.mp hsuffix with heq | hbehind
  · exact String.toList_inj.mp (List.cons.inj heq).2
  · exact absurd hbehind (h s hs t ht)

/-- What stands behind the joint ends the same text, so the shorter of the two ends the other. -/
theorem DashFree.append_eq_iff (h : DashFree texts) (hs : s ∈ texts) (ht : t ∈ texts) :
    a ++ "-" ++ s = b ++ "-" ++ t ↔ a = b ∧ s = t := by
  constructor
  · intro heq
    have hlists : a.toList ++ '-' :: s.toList = b.toList ++ '-' :: t.toList := by
      simpa using congrArg String.toList heq
    have hsuffix : ('-' :: s.toList) <:+ (b.toList ++ '-' :: t.toList) := by
      rw [← hlists]
      exact List.suffix_append _ _
    have hst : s = t := by
      rcases List.suffix_or_suffix_of_suffix hsuffix (List.suffix_append _ _) with hle | hge
      · exact h.eq_of_suffix hs ht hle
      · exact (h.eq_of_suffix ht hs hge).symm
    subst hst
    exact ⟨String.toList_inj.mp (List.append_cancel_right hlists), rfl⟩
  · intro hboth
    rw [hboth.1, hboth.2]

end Text

/-! ## Groups in which every rule compiles -/

namespace SecurityRule

theorem draft_isOk_iff (r : SecurityRule) (group : String) (stateful : Bool) :
    (∃ d, r.draft group stateful = .ok d) ↔ r.Compiles := by
  have hmatch : (∃ text, r.matchText (Name.portGroup group) = .ok text) ↔ r.Compiles := by
    rw [← clauses_isOk_iff r (Name.portGroup group)]
    exact Outcome.exists_bind_eq_ok_iff fun cs => ⟨_, rfl⟩
  rw [← hmatch]
  unfold draft
  cases r.matchText (Name.portGroup group) with
  | error e =>
      simp
  | ok text =>
      simp

theorem Compiles.withId {r : SecurityRule} (h : r.Compiles) (id : String) :
    Compiles { r with id := id } :=
  ⟨h.protocol, h.ports, h.icmp, h.address⟩

end SecurityRule

namespace SecurityGroup

theorem length_ruleDrafts (group : String) (stateful : Bool) (rules : List SecurityRule) :
    (ruleDrafts group stateful rules).1.length + (ruleDrafts group stateful rules).2.length =
      rules.length := by
  induction rules with
  | nil =>
      rfl
  | cons r rest ih =>
      rw [ruleDrafts_cons, List.length_cons, ← ih]
      cases r.draft group stateful with
      | error e =>
          simp only [List.length_cons, Nat.add_assoc]
      | ok d =>
          simp only [List.length_cons, Nat.add_right_comm]

theorem skipped_ruleDrafts_eq_nil_iff {group : String} {stateful : Bool}
    {rules : List SecurityRule} :
    (ruleDrafts group stateful rules).2 = [] ↔ ∀ r ∈ rules, r.Compiles := by
  induction rules with
  | nil =>
      exact iff_of_true rfl (by simp)
  | cons r rest ih =>
      rw [ruleDrafts_cons, List.forall_mem_cons, ← ih, ← r.draft_isOk_iff group stateful]
      cases r.draft group stateful with
      | error e =>
          simp
      | ok d =>
          simp

/-- A group compiles whole exactly if its rules do, and has then a list for each of them beside
those that are built in. -/
theorem compile_whole {g : SecurityGroup} (hg : Text.isBlankText g.id = false)
    (hrules : ∀ r ∈ g.rules, r.Compiles) {ι : Type} [IdSource ι] (ids : ι) :
    ∃ c, (g.compile ids).1 = .ok c ∧ c.skipped = [] ∧
      c.acls.length = (if g.stateful then 4 else 0) + g.rules.length + 1 := by
  rcases exists_plan hg with ⟨p, hp⟩
  rcases drafts_of_plan hp with ⟨hdrafts, hskipped⟩
  have hnone : (ruleDrafts g.id g.stateful g.rules).2 = [] :=
    skipped_ruleDrafts_eq_nil_iff.mpr hrules
  have hlength := length_ruleDrafts g.id g.stateful g.rules
  rw [hnone, List.length_nil, Nat.add_zero] at hlength
  refine ⟨_, compile_of_plan hp ids, hskipped.trans hnone, ?_⟩
  have hdrawn : (IdSource.uuids p.size ids).1.length = p.drafts.length + 2 :=
    IdSource.length_uuids _ _
  have hacls : (p.withUuids (IdSource.uuids p.size ids).1).acls.length = p.drafts.length := by
    simp [GroupPlan.withUuids, hdrawn]
  rw [hacls, hdrafts, List.length_append, List.length_append, hlength]
  cases g.stateful <;> rfl

end SecurityGroup

/-! ## The presets -/

namespace Preset

def ruleIds (p : Preset) : List String :=
  p.rules.map SecurityRule.id

/-- The ids of the rules of every preset. -/
def allRuleIds : List String :=
  all.flatMap ruleIds

theorem dashFree_allRuleIds : Text.DashFree allRuleIds := by
  decide +kernel

theorem nodup_allRuleIds : allRuleIds.Nodup := by
  decide +kernel

theorem compiles_of_mem_all {p : Preset} (hp : p ∈ all) {r : SecurityRule} (hr : r ∈ p.rules) :
    r.Compiles := by
  have hdrafts : ∀ p ∈ all, ∀ r ∈ p.rules, (r.draft "" true).isOk = true := by
    decide +kernel
  rw [← r.draft_isOk_iff "" true]
  have hok := hdrafts p hp r hr
  cases h : r.draft "" true with
  | error e =>
      rw [h] at hok
      cases hok
  | ok d =>
      exact ⟨d, rfl⟩

variable {p q : Preset} {i j : Nat} {s t : String}

theorem mem_allRuleIds (hp : p ∈ all) (hs : p.ruleIds[i]? = some s) : s ∈ allRuleIds :=
  List.mem_flatMap.mpr ⟨p, hp, List.mem_of_getElem? hs⟩

theorem eq_of_mem_ruleIds (hp : p ∈ all) (hq : q ∈ all) (hs : s ∈ p.ruleIds)
    (hs' : s ∈ q.ruleIds) : p = q := by
  have hdisjoint := (List.nodup_flatMap.mp nodup_allRuleIds).2
  have : Std.Symm (Function.onFun List.Disjoint ruleIds) :=
    ⟨fun _ _ h _ hx hy => h hy hx⟩
  by_contra hne
  exact hdisjoint.forall hp hq hne hs hs'

/-- The id of a rule says which preset the rule is of, and where it stands. -/
theorem ruleIds_eq_iff (hp : p ∈ all) (hq : q ∈ all) (hs : p.ruleIds[i]? = some s)
    (ht : q.ruleIds[j]? = some t) : s = t ↔ p = q ∧ i = j := by
  constructor
  · intro hst
    subst hst
    have hpq := eq_of_mem_ruleIds hp hq (List.mem_of_getElem? hs) (List.mem_of_getElem? ht)
    subst hpq
    rcases List.getElem?_eq_some_iff.mp hs with ⟨hi, _⟩
    have hnodup := (List.nodup_flatMap.mp nodup_allRuleIds).1 p hp
    exact ⟨rfl, (List.getElem?_inj hi hnodup).mp (hs.trans ht.symm)⟩
  · intro hboth
    rcases hboth with ⟨rfl, rfl⟩
    exact Option.some.inj (hs.symm.trans ht)

variable {id project : String} {stateful : Bool} {r : SecurityRule}

/-- A rule of a group is one of the preset, with the id of the group in front of its own. -/
theorem exists_ruleId (h : (p.toSecurityGroup id project stateful).rules[i]? = some r) :
    ∃ s, p.ruleIds[i]? = some s ∧ r.id = id ++ "-" ++ s := by
  rw [toSecurityGroup, List.getElem?_map] at h
  rcases Option.map_eq_some_iff.mp h with ⟨own, hown, rfl⟩
  exact ⟨own.id, by rw [ruleIds, List.getElem?_map, hown]; rfl, rfl⟩

theorem compiles_toSecurityGroup (hp : p ∈ all) :
    ∀ r ∈ (p.toSecurityGroup id project stateful).rules, r.Compiles := by
  intro r hr
  rcases List.mem_map.mp hr with ⟨own, hown, rfl⟩
  exact (compiles_of_mem_all hp hown).withId _

/-- Every preset gives a group in which no rule is skipped, and two rules of such groups have one id
only if they are the same rule of the same preset, in groups of one id. -/
theorem groups_whole_and_apart :
    (∀ p ∈ all, ∀ (id project : String) (stateful : Bool), Text.isBlankText id = false →
      ∀ (ι : Type) [IdSource ι] (ids : ι), ∃ c,
        ((p.toSecurityGroup id project stateful).compile ids).1 = .ok c ∧ c.skipped = [] ∧
          c.acls.length = (if stateful then 4 else 0) + p.rules.length + 1) ∧
    ∀ p ∈ all, ∀ q ∈ all, ∀ (a b project project' : String) (stateful stateful' : Bool)
      (i j : Nat) (r r' : SecurityRule),
      (p.toSecurityGroup a project stateful).rules[i]? = some r →
      (q.toSecurityGroup b project' stateful').rules[j]? = some r' →
      (r.id = r'.id ↔ a = b ∧ p = q ∧ i = j) := by
  constructor
  · intro p hp id project stateful hid ι _ ids
    rcases SecurityGroup.compile_whole (g := p.toSecurityGroup id project stateful) hid
      (compiles_toSecurityGroup hp) ids with ⟨c, hc, hskipped, hlength⟩
    rw [toSecurityGroup, List.length_map] at hlength
    exact ⟨c, hc, hskipped, hlength⟩
  · intro p hp q hq a b project project' stateful stateful' i j r r' hr hr'
    rcases exists_ruleId hr with ⟨s, hs, hid⟩
    rcases exists_ruleId hr' with ⟨t, ht, hid'⟩
    rw [hid, hid', dashFree_allRuleIds.append_eq_iff (mem_allRuleIds hp hs) (mem_allRuleIds hq ht),
      ruleIds_eq_iff hp hq hs ht]

theorem groups_whole_and_apart_web : ∃ web, byName? "allow-web" = some web ∧ web ∈ all ∧
    Text.isBlankText "front" = false ∧
    (∃ c, ((web.toSecurityGroup "front" "shop" true).compile (Client.Counter.mk 1)).1 = .ok c ∧
      c.skipped = [] ∧ c.acls.length = 7) ∧
    (web.toSecurityGroup "front" "shop" true).rules[0]? =
      some (tcp "front-allow-http-rule" 80 "Allow HTTP (TCP 80)") ∧
    (web.toSecurityGroup "back" "shop" false).rules[0]? =
      some (tcp "back-allow-http-rule" 80 "Allow HTTP (TCP 80)") ∧
    "front-allow-http-rule" ≠ "back-allow-http-rule" := by
  have hweb : all[1] ∈ all := List.getElem_mem _
  have hfront : Text.isBlankText "front" = false := by
    decide
  have hhttp : (all[1].toSecurityGroup "front" "shop" true).rules[0]? =
      some (tcp "front-allow-http-rule" 80 "Allow HTTP (TCP 80)") := by
    decide +kernel
  have hhttp' : (all[1].toSecurityGroup "back" "shop" false).rules[0]? =
      some (tcp "back-allow-http-rule" 80 "Allow HTTP (TCP 80)") := by
    decide +kernel
  refine ⟨all[1], by decide +kernel, hweb, hfront, ?_, hhttp, hhttp', fun heq => ?_⟩
  · exact groups_whole_and_apart.1 _ hweb "front" "shop" true hfront _ (Client.Counter.mk 1)
  · have hapart := groups_whole_and_apart.2 _ hweb _ hweb "front" "back" "shop" "shop" true false
      0 0 _ _ hhttp hhttp'
    exact absurd (hapart.mp heq).1 (by decide)

end Preset
end LogicalNet
