import LogicalNet.Fault

/-!
# Services of the network

The rows for the answers to DHCP requests and for load balancers.
-/

namespace LogicalNet

structure DhcpOptions where
  uuid : String
  cidr : String
  options : TextMap String := {}
  externalIds : ExternalIds := {}
  deriving DecidableEq

namespace DhcpOptions

/-- The addresses served make up a subnet. -/
def fault? (r : DhcpOptions) : Option InputFault :=
  match NetAddress.ofText? r.cidr with
  | some (.subnet _ _) => none
  | _ => some (.notSubnet r.cidr)

def columns (r : DhcpOptions) : List (String × Value) :=
  [("cidr", .text r.cidr),
    ("options", .textMap r.options),
    ("external_ids", .textMap r.externalIds)]

def ofRecord (r : Record) : Except StoreError DhcpOptions := do
  return {
    uuid := ← r.uuid "_uuid"
    cidr := ← r.text "cidr"
    options := ← r.textMap "options"
    externalIds := ← r.textMap "external_ids" }

end DhcpOptions

instance : Codec DhcpOptions where
  encode r := .record [
    ("uuid", encode r.uuid),
    ("cidr", encode r.cidr),
    ("options", encode r.options),
    ("external_ids", encode r.externalIds)]
  decode? d := do
    let f ← d.fields? ["uuid", "cidr", "options", "external_ids"]
    return {
      uuid := ← f.required? "uuid"
      cidr := ← f.required? "cidr"
      options := ← f.withDefault? "options" {}
      externalIds := ← f.withDefault? "external_ids" {} }

/-! ## Load balancers -/

/-- Each virtual address with its port leads to a list of members with theirs. -/
structure LoadBalancer where
  uuid : String
  name : String
  vips : TextMap String := {}
  protocol : Option String := none
  externalIds : ExternalIds := {}
  deriving DecidableEq

namespace LoadBalancer

def columns (r : LoadBalancer) : List (String × Value) :=
  [("name", .text r.name),
    ("vips", .textMap r.vips),
    ("protocol", .optionalText r.protocol),
    ("external_ids", .textMap r.externalIds)]

def ofRecord (r : Record) : Except StoreError LoadBalancer := do
  return {
    uuid := ← r.uuid "_uuid"
    name := ← r.text "name"
    vips := ← r.textMap "vips"
    protocol := ← r.optionalText "protocol"
    externalIds := ← r.textMap "external_ids" }

end LoadBalancer

instance : Codec LoadBalancer where
  encode r := .record [
    ("uuid", encode r.uuid),
    ("name", encode r.name),
    ("vips", encode r.vips),
    ("protocol", encode r.protocol),
    ("external_ids", encode r.externalIds)]
  decode? d := do
    let f ← d.fields? ["uuid", "name", "vips", "protocol", "external_ids"]
    return {
      uuid := ← f.required? "uuid"
      name := ← f.required? "name"
      vips := ← f.withDefault? "vips" {}
      protocol := ← f.withDefault? "protocol" none
      externalIds := ← f.withDefault? "external_ids" {} }

end LogicalNet
