import LogicalNet.Address.V6
import LogicalNet.Document.Codec
import LogicalNet.Text.Blank

/-!
# Addresses of hosts and of networks

An address is of one of the two families.  A network address is a host or, with
the length of its mask, a subnet; blanks around either side of the slash do not
count, and the mask is no longer than the addresses of its family.
-/

namespace LogicalNet

inductive Ip where
  | v4 (address : IpV4)
  | v6 (address : IpV6)
  deriving DecidableEq

namespace Ip

def ofChars? (s : List Char) : Option Ip :=
  match IpV4.ofChars? s with
  | some x => some (v4 x)
  | none => (IpV6.ofChars? s).map v6

def ofText? (s : String) : Option Ip :=
  ofChars? s.toList

def text : Ip → String
  | v4 x => x.text
  | v6 x => x.text

def isV6 : Ip → Bool
  | v4 _ => false
  | v6 _ => true

/-- The address of zeros. -/
def isUnspecified : Ip → Bool
  | v4 x => x == IpV4.zero
  | v6 x => x == IpV6.zero

/-- The length of an address in bits. -/
def width : Ip → Nat
  | v4 _ => 32
  | v6 _ => 128

end Ip

inductive NetAddress where
  | host (ip : Ip)
  | subnet (ip : Ip) (mask : UInt16)
  deriving DecidableEq

namespace NetAddress

def ofChars? (s : List Char) : Option NetAddress :=
  match Text.cutFirst? '/' s with
  | none => (Ip.ofChars? (Text.trimChars s)).map host
  | some (ip, mask) =>
      match Ip.ofChars? (Text.trimChars ip), Text.readBelow? 10 (2 ^ 16) (Text.trimChars mask) with
      | some ip, some mask => if mask ≤ ip.width then some (subnet ip mask.toUInt16) else none
      | _, _ => none

def ofText? (s : String) : Option NetAddress :=
  ofChars? s.toList

def ip : NetAddress → Ip
  | host ip => ip
  | subnet ip _ => ip

def isV6 (a : NetAddress) : Bool :=
  a.ip.isV6

def isSubnet : NetAddress → Bool
  | host _ => false
  | subnet _ _ => true

/-- The subnet of all addresses of a family. -/
def isAny : NetAddress → Bool
  | host _ => false
  | subnet ip mask => ip.isUnspecified && mask == 0

def text : NetAddress → String
  | host ip => ip.text
  | subnet ip mask => ip.text ++ "/" ++ Text.decimal mask.toNat

end NetAddress

/-! ## As documents -/

instance : Codec Ip where
  encode ip := .text ip.text
  decode? d := d.scalarText?.bind Ip.ofText?

instance : Codec NetAddress where
  encode
    | .host ip => .record [("Ip", encode ip)]
    | .subnet ip mask =>
        .record [("Subnet", .record [("ip", encode ip), ("mask", encode mask)])]
  decode?
    | .record [("Ip", d)] => (decode? d).map .host
    | .record [("Subnet", d)] => do
        let f ← d.fields? ["ip", "mask"]
        return .subnet (← f.required? "ip") (← f.required? "mask")
    | _ => none

end LogicalNet
