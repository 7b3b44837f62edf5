import LogicalNet.TextMap

/-!
# Names and back references

The name of every row is made from the ids of the platform, and the external ids of
a row lead back to them.  Names of port groups and of address sets stand in match
expressions, where a dash is not allowed.
-/

namespace LogicalNet

/-! ## Names -/

namespace Name

/-- The id with underscores in place of dashes. -/
def underscored (id : String) : String :=
  String.ofList (id.toList.map fun c => if c = '-' then '_' else c)

def portGroup (securityGroup : String) : String :=
  "pg_sg_" ++ underscored securityGroup

def addressSet (securityGroup : String) : String :=
  "as_sg_" ++ underscored securityGroup

def switch (network : String) : String :=
  "ls-" ++ network

def switchPort (port : String) : String :=
  "lsp-" ++ port

def router (router : String) : String :=
  "lr-" ++ router

/-- The side of the router of the interface between a router and a switch, both given by name. -/
def routerPort (router switch : String) : String :=
  router ++ "-to-" ++ switch

/-- The side of the switch of the same interface. -/
def routerPeer (router switch : String) : String :=
  switch ++ "-to-" ++ router

def localnet (switch : String) : String :=
  switch ++ "-localnet"

def loadBalancer (loadBalancer : String) : String :=
  "lb-" ++ loadBalancer

/-- An ACL is named for the description of its rule, or for the start of the id of the rule. -/
def acl (rule description : String) : String :=
  if description.isEmpty then "rule-" ++ String.ofList (rule.toList.take 8) else description

end Name

/-! ## External ids -/

abbrev ExternalIds := TextMap String

namespace ExternalId

def securityGroup : String := "limiquantix-sg-id"
def securityGroupName : String := "limiquantix-sg-name"
def rule : String := "limiquantix-rule-id"
def builtin : String := "limiquantix-builtin"
def network : String := "limiquantix-network-id"
def project : String := "limiquantix-project-id"
def name : String := "limiquantix-name"
def switch : String := "limiquantix-switch"
def port : String := "limiquantix-port-id"
def vm : String := "limiquantix-vm-id"
def routerId : String := "limiquantix-router-id"
def router : String := "limiquantix-router"
def floatingIp : String := "limiquantix-floating-ip"
def snat : String := "limiquantix-snat"
def loadBalancer : String := "limiquantix-lb-id"

end ExternalId

/-- The external ids of the given pairs; an empty value is left out. -/
def ExternalIds.ofPairs (pairs : List (String × String)) : ExternalIds :=
  TextMap.ofList (pairs.filter fun p => !p.2.isEmpty)

end LogicalNet
