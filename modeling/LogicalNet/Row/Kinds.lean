import LogicalNet.Document.Codec

/-!
# Kinds that rows tell apart

Each kind has a text in the database, from which it is read back.  Switch ports of
a kind of their own keep its text, so that no row of another program is refused.
-/

namespace LogicalNet

/-- Which way the traffic goes that an ACL is for. -/
inductive AclDirection where
  | toPort
  | fromPort
  deriving DecidableEq

namespace AclDirection

def text : AclDirection → String
  | toPort => "to-lport"
  | fromPort => "from-lport"

def ofText? : String → Option AclDirection
  | "to-lport" => some toPort
  | "from-lport" => some fromPort
  | _ => none

end AclDirection

inductive AclAction where
  | allow
  /-- Replies are let through as well. -/
  | allowRelated
  | allowStateless
  | drop
  | reject
  deriving DecidableEq

namespace AclAction

def text : AclAction → String
  | allow => "allow"
  | allowRelated => "allow-related"
  | allowStateless => "allow-stateless"
  | drop => "drop"
  | reject => "reject"

def ofText? : String → Option AclAction
  | "allow" => some allow
  | "allow-related" => some allowRelated
  | "allow-stateless" => some allowStateless
  | "drop" => some drop
  | "reject" => some reject
  | _ => none

end AclAction

/-- Which address of a packet a NAT rule replaces. -/
inductive NatKind where
  | source
  | destination
  | both
  deriving DecidableEq

namespace NatKind

def text : NatKind → String
  | source => "snat"
  | destination => "dnat"
  | both => "dnat_and_snat"

def ofText? : String → Option NatKind
  | "snat" => some source
  | "dnat" => some destination
  | "dnat_and_snat" => some both
  | _ => none

end NatKind

/-- What is attached at a switch port. -/
inductive PortKind where
  | normal
  | direct
  | vhostUser
  | localnet
  | router
  | other (text : String)
  deriving DecidableEq

namespace PortKind

def text : PortKind → String
  | normal => ""
  | direct => "direct"
  | vhostUser => "dpdkvhostuser"
  | localnet => "localnet"
  | router => "router"
  | other s => s

def ofText : String → PortKind
  | "" => normal
  | "direct" => direct
  | "dpdkvhostuser" => vhostUser
  | "localnet" => localnet
  | "router" => router
  | s => other s

/-- The text for messages, where the normal kind has a name. -/
def shown : PortKind → String
  | normal => "normal"
  | kind => kind.text

end PortKind

/-! ## As documents -/

instance : Codec AclDirection where
  encode k := .text k.text
  decode? d := d.choice?.bind AclDirection.ofText?

instance : Codec AclAction where
  encode k := .text k.text
  decode? d := d.choice?.bind AclAction.ofText?

instance : Codec NatKind where
  encode k := .text k.text
  decode? d := d.choice?.bind NatKind.ofText?

def PortKind.ofDocumentName? : String → Option PortKind
  | "Normal" => some .normal
  | "Direct" => some .direct
  | "VhostUser" => some .vhostUser
  | "Localnet" => some .localnet
  | "Router" => some .router
  | _ => none

instance : Codec PortKind where
  encode
    | .normal => .text "Normal"
    | .direct => .text "Direct"
    | .vhostUser => .text "VhostUser"
    | .localnet => .text "Localnet"
    | .router => .text "Router"
    | .other s => .record [("Other", .text s)]
  decode?
    | .record [("Other", d)] => (decode? d).map .other
    | d => d.choice?.bind PortKind.ofDocumentName?

end LogicalNet
