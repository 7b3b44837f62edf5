import LogicalNet.Fault

/-!
# Access control

The rows for access control lists, for the groups of ports they hold for, and for
the sets of addresses they may speak of.
-/

namespace LogicalNet

structure Acl where
  uuid : String
  direction : AclDirection
  priority : UInt16
  condition : String
  action : AclAction
  name : Option String := none
  log : Bool := false
  externalIds : ExternalIds := {}
  deriving DecidableEq

namespace Acl

/-- A priority in the range of the schema and a condition that is not blank. -/
def fault? (r : Acl) : Option InputFault :=
  if greatestAclPriority < r.priority then some (.aclPriority r.priority)
  else if Text.isBlankText r.condition then some .emptyMatch
  else none

def columns (r : Acl) : List (String × Value) :=
  [("name", .optionalText r.name),
    ("direction", .text r.direction.text),
    ("priority", .integer r.priority.toNat),
    ("match", .text r.condition),
    ("action", .text r.action.text),
    ("log", .boolean r.log),
    ("external_ids", .textMap r.externalIds)]

/-- A priority in the range of its column. -/
def readPriority (n : Int) : Except InputFault UInt16 :=
  if 0 ≤ n && n < 2 ^ 16 then .ok n.toNat.toUInt16 else .error (.listedPriority n)

def ofRecord (r : Record) : Except StoreError Acl := do
  let priority ← readPriority (← r.integer "priority")
  return {
    uuid := ← r.uuid "_uuid"
    direction := ← AclDirection.read (← r.text "direction")
    priority := priority
    condition := ← r.text "match"
    action := ← AclAction.read (← r.text "action")
    name := ← r.optionalText "name"
    log := (← r.optionalBoolean "log").getD false
    externalIds := ← r.textMap "external_ids" }

end Acl

instance : Codec Acl where
  encode r := .record [
    ("uuid", encode r.uuid),
    ("direction", encode r.direction),
    ("priority", encode r.priority),
    ("match", encode r.condition),
    ("action", encode r.action),
    ("name", encode r.name),
    ("log", encode r.log),
    ("external_ids", encode r.externalIds)]
  decode? d := do
    let f ← d.fields? ["uuid", "direction", "priority", "match", "action", "name", "log",
      "external_ids"]
    return {
      uuid := ← f.required? "uuid"
      direction := ← f.required? "direction"
      priority := ← f.required? "priority"
      condition := ← f.required? "match"
      action := ← f.required? "action"
      name := ← f.withDefault? "name" none
      log := ← f.withDefault? "log" false
      externalIds := ← f.withDefault? "external_ids" {} }

/-! ## Address sets -/

structure AddressSet where
  uuid : String
  name : String
  addresses : List String := []
  externalIds : ExternalIds := {}
  deriving DecidableEq

namespace AddressSet

def columns (r : AddressSet) : List (String × Value) :=
  [("name", .text r.name),
    ("addresses", .texts r.addresses),
    ("external_ids", .textMap r.externalIds)]

def ofRecord (r : Record) : Except StoreError AddressSet := do
  return {
    uuid := ← r.uuid "_uuid"
    name := ← r.text "name"
    addresses := ← r.texts "addresses"
    externalIds := ← r.textMap "external_ids" }

end AddressSet

instance : Codec AddressSet where
  encode r := .record [
    ("uuid", encode r.uuid),
    ("name", encode r.name),
    ("addresses", encode r.addresses),
    ("external_ids", encode r.externalIds)]
  decode? d := do
    let f ← d.fields? ["uuid", "name", "addresses", "external_ids"]
    return {
      uuid := ← f.required? "uuid"
      name := ← f.required? "name"
      addresses := ← f.withDefault? "addresses" []
      externalIds := ← f.withDefault? "external_ids" {} }

/-! ## Port groups -/

/-- A group lists its members and the only references to its access control lists. -/
structure PortGroup where
  uuid : String
  name : String
  ports : List String := []
  acls : List String := []
  externalIds : ExternalIds := {}
  deriving DecidableEq

namespace PortGroup

def columns (r : PortGroup) : List (String × Value) :=
  [("name", .text r.name),
    ("ports", .uuids r.ports),
    ("acls", .uuids r.acls),
    ("external_ids", .textMap r.externalIds)]

def ofRecord (r : Record) : Except StoreError PortGroup := do
  return {
    uuid := ← r.uuid "_uuid"
    name := ← r.text "name"
    ports := ← r.texts "ports"
    acls := ← r.texts "acls"
    externalIds := ← r.textMap "external_ids" }

end PortGroup

instance : Codec PortGroup where
  encode r := .record [
    ("uuid", encode r.uuid),
    ("name", encode r.name),
    ("ports", encode r.ports),
    ("acls", encode r.acls),
    ("external_ids", encode r.externalIds)]
  decode? d := do
    let f ← d.fields? ["uuid", "name", "ports", "acls", "external_ids"]
    return {
      uuid := ← f.required? "uuid"
      name := ← f.required? "name"
      ports := ← f.withDefault? "ports" []
      acls := ← f.withDefault? "acls" []
      externalIds := ← f.withDefault? "external_ids" {} }

end LogicalNet
