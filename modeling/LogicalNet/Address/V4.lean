import LogicalNet.Text.Numeral
import LogicalNet.Text.Pieces

/-!
# IPv4 addresses

Four octets, written in decimal with dots between them.  An octet has no leading
zeros.
-/

namespace LogicalNet

structure IpV4 where
  a : UInt8
  b : UInt8
  c : UInt8
  d : UInt8
  deriving DecidableEq

namespace IpV4

def zero : IpV4 :=
  ⟨0, 0, 0, 0⟩

def octets (x : IpV4) : List UInt8 :=
  [x.a, x.b, x.c, x.d]

def text (x : IpV4) : String :=
  Text.join "." (x.octets.map fun o => Text.decimal o.toNat)

/-- An octet without leading zeros. -/
def readOctet? (s : List Char) : Option UInt8 :=
  if s.head? == some '0' && 1 < s.length then
    none
  else
    match Text.readDigits? 10 s with
    | some n => if n < 2 ^ 8 then some n.toUInt8 else none
    | none => none

def ofChars? (s : List Char) : Option IpV4 :=
  match Text.pieces '.' s with
  | [a, b, c, d] =>
      match readOctet? a, readOctet? b, readOctet? c, readOctet? d with
      | some a, some b, some c, some d => some ⟨a, b, c, d⟩
      | _, _, _, _ => none
  | _ => none

end IpV4
end LogicalNet
