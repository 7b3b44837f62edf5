import LogicalNet.Address.V4

/-!
# IPv6 addresses

Eight groups of sixteen bits.  A group is read from one to four hexadecimal
digits; one double colon may stand for one or more groups of zeros, and the last
two groups may be written as an IPv4 address, though not in front of the double
colon.

The written form is in lower case.  It puts the double colon in the place of the
longest run of two or more zeros, of the first of them when several are longest,
and writes the last two groups as an IPv4 address for the addresses that stand for
one.
-/

namespace LogicalNet

structure IpV6 where
  groups : List UInt16
  length_eq : groups.length = 8
  deriving DecidableEq

namespace IpV6

def zero : IpV6 where
  groups := List.replicate 8 0
  length_eq := rfl

/-! ## Reading -/

def readGroup? (s : List Char) : Option UInt16 :=
  if 4 < s.length then none else (Text.readDigits? 16 s).map Nat.toUInt16

/-- The two groups that an IPv4 address stands for. -/
def groupsOfV4 (x : IpV4) : List UInt16 :=
  [(x.a.toNat * 256 + x.b.toNat).toUInt16, (x.c.toNat * 256 + x.d.toNat).toUInt16]

/-- The groups of the pieces between colons, the last of which may be dotted. -/
def readGroups? (dotted : Bool) : List (List Char) → Option (List UInt16)
  | [] => some []
  | [last] =>
      match readGroup? last with
      | some g => some [g]
      | none => if dotted then (IpV4.ofChars? last).map groupsOfV4 else none
  | s :: rest =>
      match readGroup? s, readGroups? dotted rest with
      | some g, some gs => some (g :: gs)
      | _, _ => none

/-- The groups on one side of a double colon. -/
def readSide? (dotted : Bool) (s : List Char) : Option (List UInt16) :=
  if s.isEmpty then some [] else readGroups? dotted (Text.pieces ':' s)

/-- What stands before and after the first double colon. -/
def cutDouble? : List Char → Option (List Char × List Char)
  | ':' :: ':' :: rest => some ([], rest)
  | c :: rest => (cutDouble? rest).map fun p => (c :: p.1, p.2)
  | [] => none

def ofGroups? (groups : List UInt16) : Option IpV6 :=
  if h : groups.length = 8 then some ⟨groups, h⟩ else none

def ofChars? (s : List Char) : Option IpV6 :=
  match cutDouble? s with
  | none => (readGroups? true (Text.pieces ':' s)).bind ofGroups?
  | some (front, back) =>
      match readSide? false front, readSide? true back with
      | some front, some back =>
          if front.length + back.length < 8 then
            ofGroups? (front ++ List.replicate (8 - front.length - back.length) 0 ++ back)
          else
            none
      | _, _ => none

/-! ## Writing -/

/-- The length of the run of zeros at the front. -/
def zerosAhead : List UInt16 → Nat
  | [] => 0
  | g :: rest => if g = 0 then zerosAhead rest + 1 else 0

/-- Position and length of the longest run of zeros, of the first among equals; the list starts at
the position `at_`. -/
def longestRun (at_ : Nat) : List UInt16 → Nat × Nat
  | [] => (at_, 0)
  | g :: rest =>
      let here := zerosAhead (g :: rest)
      let later := longestRun (at_ + 1) rest
      if here < later.2 then later else (at_, here)

def joinGroups (groups : List UInt16) : String :=
  Text.join ":" (groups.map fun g => Text.hexShort g.toNat)

def v4OfGroups (high low : UInt16) : IpV4 :=
  ⟨(high.toNat / 256).toUInt8, high.toNat.toUInt8, (low.toNat / 256).toUInt8, low.toNat.toUInt8⟩

def text (x : IpV6) : String :=
  match x.groups with
  | [0, 0, 0, 0, 0, 0xffff, high, low] => "::ffff:" ++ (v4OfGroups high low).text
  | groups =>
      let run := longestRun 0 groups
      if 1 < run.2 then
        joinGroups (groups.take run.1) ++ "::" ++ joinGroups (groups.drop (run.1 + run.2))
      else
        joinGroups groups

end IpV6
end LogicalNet
