import LogicalNet.Address.Mac

/-!
# Sources of identifiers

New rows get their identifiers, and router ports their MAC addresses, from a source
whose state every draw moves on.  The sequential source counts both kinds from one;
its identifiers repeat after `2 ^ 48` draws and its MAC addresses after `2 ^ 40`.  The
random source draws all bits but those that mark the kind of identifier or address.
-/

namespace LogicalNet

class IdSource (ι : Type) where
  uuid : ι → String × ι
  mac : ι → Mac × ι

namespace IdSource

variable {ι : Type} [IdSource ι]

/-- The next identifiers, as many as asked for, in the order of the draws. -/
def uuids : Nat → ι → List String × ι
  | 0, ids => ([], ids)
  | n + 1, ids =>
      let first := uuid ids
      let rest := uuids n first.2
      (first.1 :: rest.1, rest.2)

end IdSource

/-- How many identifiers and MAC addresses have been drawn. -/
structure Sequential where
  uuids : Nat
  macs : Nat
  deriving DecidableEq

namespace Sequential

def start : Sequential :=
  ⟨0, 0⟩

/-- The identifier with the number `n`. -/
def uuidText (n : Nat) : String :=
  "00000000-0000-0000-0000-" ++ Text.hex 12 (n % 2 ^ 48)

/-- The locally administered address with the number `n`. -/
def macAddress (n : Nat) : Mac :=
  Mac.ofOctets (Mac.octetsOf (0x0a0000000000 + n % 2 ^ 40))

instance : IdSource Sequential where
  uuid s := (uuidText (s.uuids + 1), ⟨s.uuids + 1, s.macs⟩)
  mac s := (macAddress (s.macs + 1), ⟨s.uuids, s.macs + 1⟩)

end Sequential

/-! ## Random identifiers -/

structure Random where
  generator : StdGen

namespace Random

/-- A number of so many bits. -/
def bits (count : Nat) (g : StdGen) : Nat × StdGen :=
  randNat g 0 (2 ^ count - 1)

/-- The text of an identifier of version four. -/
def uuidText (a b c d e : Nat) : String :=
  Text.join "-" [
    Text.hex 8 a,
    Text.hex 4 b,
    Text.hex 4 (0x4000 + c % 2 ^ 12),
    Text.hex 4 (0x8000 + d % 2 ^ 14),
    Text.hex 12 e]

def drawUuid (r : Random) : String × Random :=
  let a := bits 32 r.generator
  let b := bits 16 a.2
  let c := bits 12 b.2
  let d := bits 14 c.2
  let e := bits 48 d.2
  (uuidText a.1 b.1 c.1 d.1 e.1, ⟨e.2⟩)

def drawMac (r : Random) : Mac × Random :=
  let a := bits 8 r.generator
  let b := bits 8 a.2
  let c := bits 8 b.2
  let d := bits 8 c.2
  let e := bits 8 d.2
  let f := bits 8 e.2
  (Mac.localUnicast a.1.toUInt8 b.1.toUInt8 c.1.toUInt8 d.1.toUInt8 e.1.toUInt8 f.1.toUInt8,
    ⟨f.2⟩)

instance : IdSource Random where
  uuid := drawUuid
  mac := drawMac

end Random
end LogicalNet
