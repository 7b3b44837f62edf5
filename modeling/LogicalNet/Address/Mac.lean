import LogicalNet.Document.Codec
import LogicalNet.Text.LetterCase
import LogicalNet.Text.Pieces

/-!
# MAC addresses

Six octets in hexadecimal with colons between them, other than six zeros.  The
text is kept in lower case beside the number it stands for.
-/

namespace LogicalNet

/-- What is wrong with a MAC address. -/
inductive MacError where
  | zero
  | octetWidth (octet address : String)
  | octetCount (address : String)
  | octetDigits (octet : String)
  | zeroNumber
  | numberTooLarge (number : Nat)
  deriving DecidableEq

def MacError.message : MacError → String
  | zero => "cant have a mac address of 00:00:00:00:00:00"
  | octetWidth octet address => "octet " ++ octet ++ " in mac " ++ address ++ " is not correct"
  | octetCount address => "mac address not 48 bit format " ++ address
  | octetDigits octet => "mac octet " ++ octet ++ " is not hex"
  | zeroNumber => "mac from u64 is 0, cant have a mac address of 00:00:00:00:00:00"
  | numberTooLarge number => Text.decimal number ++ " does not fit in a 48 bit mac"

structure Mac where
  address : String
  bits : UInt64
  deriving DecidableEq

namespace Mac

/-! ## Octets -/

/-- The octets as the digits of one number, the first the highest. -/
def packed (octets : List UInt8) : Nat :=
  octets.foldl (fun n o => n * 256 + o.toNat) 0

/-- The last six octets of a number. -/
def octetsOf (n : Nat) : List UInt8 :=
  [(n / 2 ^ 40).toUInt8, (n / 2 ^ 32).toUInt8, (n / 2 ^ 24).toUInt8, (n / 2 ^ 16).toUInt8,
    (n / 2 ^ 8).toUInt8, n.toUInt8]

def octetsText (octets : List UInt8) : String :=
  Text.join ":" (octets.map fun o => Text.hex 2 o.toNat)

def ofOctets (octets : List UInt8) : Mac :=
  ⟨octetsText octets, (packed octets).toUInt64⟩

/-- A locally administered address of a single host with the given octets otherwise. -/
def localUnicast (a b c d e f : UInt8) : Mac :=
  ofOctets [(a &&& 0xfe) ||| 0x02, b, c, d, e, f]

/-! ## Reading -/

def readOctets : List (List Char) → Except MacError (List UInt8)
  | [] => .ok []
  | s :: rest =>
      match Text.readBelow? 16 (2 ^ 8) s with
      | none => .error (.octetDigits (String.ofList s))
      | some n =>
          match readOctets rest with
          | .error e => .error e
          | .ok os => .ok (n.toUInt8 :: os)

def ofText (s : String) : Except MacError Mac :=
  let octets := Text.pieces ':' s.toList
  if s = "00:00:00:00:00:00" then
    .error .zero
  else
    match octets.find? fun o => (String.ofList o).utf8ByteSize != 2 with
    | some o => .error (.octetWidth (String.ofList o) s)
    | none =>
        if octets.length ≠ 6 then
          .error (.octetCount s)
        else
          match readOctets octets with
          | .error e => .error e
          | .ok os => .ok ⟨Text.lower s, (packed os).toUInt64⟩

/-- The address whose octets make up the number. -/
def ofNumber (n : Nat) : Except MacError Mac :=
  if n = 0 then .error .zeroNumber
  else if 2 ^ 48 ≤ n then .error (.numberTooLarge n)
  else ofText (octetsText (octetsOf n))

end Mac

instance : Codec Mac where
  encode m := .record [("address", encode m.address), ("as_bytes", encode m.bits)]
  decode? d := do
    let f ← d.fields? ["address", "as_bytes"]
    return { address := ← f.required? "address", bits := ← f.required? "as_bytes" }

end LogicalNet
