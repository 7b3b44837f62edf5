import LogicalNet.Identifiers
import LogicalNet.Policy.Match
import LogicalNet.Row.Access

/-!
# Compiled security groups

A security group compiles to a port group with access control lists and an address
set.  First comes everything but the identifiers (`SecurityGroup.plan`): the lists
that are built in, then one per rule in the order of the rules, then the one that
lets outgoing traffic through; rules that do not compile are skipped and reported.
The identifiers are drawn afterwards, in the same order, with those of the port
group and of the address set at the end.

Priorities above `2000` are kept free for rules that override those of users, up
to the built-in ones that start at `32000`.
-/

namespace LogicalNet

/-! ## Priorities -/

namespace Priority

def established : UInt16 := 32767
def related : UInt16 := 32766
def dropInvalid : UInt16 := 32000
def overrideBase : UInt16 := 2000
def userBase : UInt16 := 1000
def defaultEgress : UInt16 := 100

/-- The priority of the rule of a user, below the base of the overriding rules whatever the rule
asks for. -/
def ofRule (priority : UInt32) : UInt16 :=
  (min (userBase.toNat + priority.toNat) (overrideBase.toNat - 1)).toUInt16

end Priority

def Direction.toAcl : Direction → AclDirection
  | ingress => .toPort
  | egress => .fromPort

/-- Where connections are tracked, what is allowed extends to the replies. -/
def RuleAction.toAcl (stateful : Bool) : RuleAction → AclAction
  | allow => if stateful then .allowRelated else .allow
  | drop => .drop
  | reject => .reject

/-! ## Before identifiers are drawn -/

/-- An access control list without its identifier. -/
structure AclDraft where
  direction : AclDirection
  priority : UInt16
  condition : String
  action : AclAction
  name : String
  externalIds : ExternalIds
  deriving DecidableEq

def AclDraft.withUuid (d : AclDraft) (uuid : String) : Acl where
  uuid := uuid
  direction := d.direction
  priority := d.priority
  condition := d.condition
  action := d.action
  name := some d.name
  externalIds := d.externalIds

/-- A rule that does not compile, and why. -/
structure SkippedRule where
  rule : String
  error : String
  deriving DecidableEq

/-- The list for one rule of the given group. -/
def SecurityRule.draft (r : SecurityRule) (group : String) (stateful : Bool) :
    Except RuleError AclDraft :=
  match r.matchText (Name.portGroup group) with
  | .error e => .error e
  | .ok condition => .ok {
      direction := r.direction.toAcl
      priority := Priority.ofRule r.priority
      condition := condition
      action := r.action.toAcl stateful
      name := Name.acl r.id r.description
      externalIds := .ofPairs [(ExternalId.rule, r.id), (ExternalId.securityGroup, group)] }

namespace SecurityGroup

def builtin (group name kind : String) (direction : AclDirection) (priority : UInt16)
    (side : PortSide) (state : String) (action : AclAction) : AclDraft where
  direction := direction
  priority := priority
  condition := (Clause.port side (Name.portGroup group)).text ++ state
  action := action
  name := name
  externalIds := .ofPairs [(ExternalId.builtin, kind), (ExternalId.securityGroup, group)]

/-- With tracked connections, established and related traffic passes before any rule is looked at,
and invalid traffic is dropped. -/
def trackingDrafts (group : String) : List AclDraft :=
  [builtin group "stateful-established-ingress" "stateful-established" .toPort
      Priority.established .leaves " && ct.est && !ct.new" .allow,
    builtin group "stateful-established-egress" "stateful-established" .fromPort
      Priority.established .enters " && ct.est && !ct.new" .allow,
    builtin group "stateful-related-ingress" "stateful-related" .toPort
      Priority.related .leaves " && ct.rel && !ct.new" .allow,
    builtin group "drop-invalid" "drop-invalid" .toPort
      Priority.dropInvalid .leaves " && ct.inv" .drop]

def egressDraft (group : String) : AclDraft :=
  builtin group "default-egress-allow" "default-egress-allow" .fromPort Priority.defaultEgress
    .enters "" .allow

/-- The lists of the rules that compile, and the other rules. -/
def ruleDrafts (group : String) (stateful : Bool) :
    List SecurityRule → List AclDraft × List SkippedRule
  | [] => ([], [])
  | r :: rest =>
      let later := ruleDrafts group stateful rest
      match r.draft group stateful with
      | .ok d => (d :: later.1, later.2)
      | .error e => (later.1, ⟨r.id, e.message⟩ :: later.2)

end SecurityGroup

/-! ## Compiled groups -/

structure CompiledGroup where
  acls : List Acl
  portGroup : PortGroup
  addressSet : AddressSet
  skipped : List SkippedRule
  deriving DecidableEq

/-- A compiled group whose identifiers are still to be drawn. -/
structure GroupPlan where
  drafts : List AclDraft
  skipped : List SkippedRule
  group : String
  externalIds : ExternalIds
  deriving DecidableEq

namespace GroupPlan

/-- One identifier for each list, one for the port group and one for the address set. -/
def size (p : GroupPlan) : Nat :=
  p.drafts.length + 2

/-- The compiled group with the given identifiers, as many as `size` says. -/
def withUuids (p : GroupPlan) (uuids : List String) : CompiledGroup :=
  let acls := List.zipWith AclDraft.withUuid p.drafts uuids
  let rest := uuids.drop p.drafts.length
  { acls := acls
    portGroup := {
      uuid := rest.headD ""
      name := Name.portGroup p.group
      acls := acls.map Acl.uuid
      externalIds := p.externalIds }
    addressSet := {
      uuid := (rest.drop 1).headD ""
      name := Name.addressSet p.group
      externalIds := p.externalIds }
    skipped := p.skipped }

end GroupPlan

/-- The compiled group before its identifiers are drawn; only a group without an id has none. -/
def SecurityGroup.plan (g : SecurityGroup) : Except RuleError GroupPlan :=
  if Text.isBlankText g.id then
    .error .missingGroup
  else
    let rules := ruleDrafts g.id g.stateful g.rules
    .ok {
      drafts := (if g.stateful then trackingDrafts g.id else []) ++ rules.1 ++ [egressDraft g.id]
      skipped := rules.2
      group := g.id
      externalIds := .ofPairs
        [(ExternalId.securityGroup, g.id), (ExternalId.securityGroupName, g.name)] }

section Identifiers

variable {ι : Type} [IdSource ι]

def SecurityGroup.compile (g : SecurityGroup) (ids : ι) : Except RuleError CompiledGroup × ι :=
  match g.plan with
  | .error e => (.error e, ids)
  | .ok p =>
      let drawn := IdSource.uuids p.size ids
      (.ok (p.withUuids drawn.1), drawn.2)

/-- The list for a single rule; an identifier is drawn only for a rule that compiles. -/
def SecurityRule.compile (r : SecurityRule) (group : String) (stateful : Bool) (ids : ι) :
    Except RuleError Acl × ι :=
  match r.draft group stateful with
  | .error e => (.error e, ids)
  | .ok d =>
      let drawn := IdSource.uuid ids
      (.ok (d.withUuid drawn.1), drawn.2)

end Identifiers

/-! ## As documents -/

instance : Codec SkippedRule where
  encode s := .record [("rule_id", encode s.rule), ("error", encode s.error)]
  decode? d := do
    let f ← d.fields? ["rule_id", "error"]
    return { rule := ← f.required? "rule_id", error := ← f.required? "error" }

instance : Codec CompiledGroup where
  encode t := .record [
    ("acls", encode t.acls),
    ("port_group", encode t.portGroup),
    ("address_set", encode t.addressSet),
    ("skipped", encode t.skipped)]
  decode? d := do
    let f ← d.fields? ["acls", "port_group", "address_set", "skipped"]
    return {
      acls := ← f.required? "acls"
      portGroup := ← f.required? "port_group"
      addressSet := ← f.required? "address_set"
      skipped := ← f.required? "skipped" }

end LogicalNet
