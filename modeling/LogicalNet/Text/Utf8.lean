import LogicalNet.Text.Numeral

/-!
# UTF-8

Reading characters from bytes.  The first byte of a character tells how many bytes
follow and what the second may be, so that no character has two forms.  Bytes that
make up no character are cut off at the first byte that cannot follow.
-/

namespace LogicalNet
namespace Text
namespace Utf8

/-- What may follow a first byte: how many bytes, the range of the first of them, and the bits that
the first byte itself gives. -/
structure Lead where
  following : Nat
  least : UInt8
  greatest : UInt8
  bits : Nat

def lead? (b : UInt8) : Option Lead :=
  let n := b.toNat
  if n < 0x80 then some ⟨0, 0, 0, n⟩
  else if n < 0xC2 then none
  else if n < 0xE0 then some ⟨1, 0x80, 0xBF, n - 0xC0⟩
  else if n = 0xE0 then some ⟨2, 0xA0, 0xBF, 0⟩
  else if n = 0xED then some ⟨2, 0x80, 0x9F, 0xD⟩
  else if n < 0xF0 then some ⟨2, 0x80, 0xBF, n - 0xE0⟩
  else if n = 0xF0 then some ⟨3, 0x90, 0xBF, 0⟩
  else if n < 0xF4 then some ⟨3, 0x80, 0xBF, n - 0xF0⟩
  else if n = 0xF4 then some ⟨3, 0x80, 0x8F, 4⟩
  else none

/-- How the first character of some bytes reads. -/
inductive Step where
  | char (c : Char) (rest : List UInt8)
  /-- So many bytes make up no character. -/
  | invalid (length : Nat) (rest : List UInt8)
  /-- The bytes end within a character. -/
  | incomplete

/-- Reads the bytes that follow the first; `passed` counts the bytes read. -/
def follow : Nat → UInt8 → UInt8 → Nat → Nat → List UInt8 → Step
  | 0, _, _, bits, _, rest => .char (Char.ofNat bits) rest
  | _ + 1, _, _, _, _, [] => .incomplete
  | following + 1, least, greatest, bits, passed, b :: rest =>
      if least ≤ b && b ≤ greatest then
        follow following 0x80 0xBF (bits * 64 + b.toNat % 64) (passed + 1) rest
      else
        .invalid passed (b :: rest)

def step (b : UInt8) (rest : List UInt8) : Step :=
  match lead? b with
  | none => .invalid 1 rest
  | some l => follow l.following l.least l.greatest l.bits 1 rest

end Utf8

/-! ## Whole texts -/

/-- The first place where bytes make up no character. -/
inductive Utf8Error where
  | invalid (length index : Nat)
  | incomplete (index : Nat)
  deriving DecidableEq

def Utf8Error.message : Utf8Error → String
  | invalid length index =>
      "invalid utf-8 sequence of " ++ decimal length ++ " bytes from index " ++ decimal index
  | incomplete index => "incomplete utf-8 byte sequence from index " ++ decimal index

/-- The characters of the bytes, as many steps as the fuel allows; `total` is the number of all
bytes, from which the place of an error is found. -/
def decodeUtf8From (total : Nat) : Nat → List UInt8 → Except Utf8Error (List Char)
  | 0, _ => .ok []
  | _ + 1, [] => .ok []
  | fuel + 1, b :: rest =>
      let index := total - (rest.length + 1)
      match Utf8.step b rest with
      | .char c rest =>
          match decodeUtf8From total fuel rest with
          | .ok cs => .ok (c :: cs)
          | .error e => .error e
      | .invalid length _ => .error (.invalid length index)
      | .incomplete => .error (.incomplete index)

def decodeUtf8 (bytes : List UInt8) : Except Utf8Error String :=
  match decodeUtf8From bytes.length bytes.length bytes with
  | .ok cs => .ok (String.ofList cs)
  | .error e => .error e

def replacement : Char :=
  Char.ofNat 0xFFFD

def decodeUtf8LossyFrom : Nat → List UInt8 → List Char
  | 0, _ => []
  | _ + 1, [] => []
  | fuel + 1, b :: rest =>
      match Utf8.step b rest with
      | .char c rest => c :: decodeUtf8LossyFrom fuel rest
      | .invalid _ rest => replacement :: decodeUtf8LossyFrom fuel rest
      | .incomplete => [replacement]

/-- The text of the bytes with a replacement character for each part that makes up none. -/
def decodeUtf8Lossy (bytes : List UInt8) : String :=
  String.ofList (decodeUtf8LossyFrom bytes.length bytes)

end Text
end LogicalNet
