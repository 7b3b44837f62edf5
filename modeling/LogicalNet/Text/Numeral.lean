/-!
# Numerals

Reading and writing of natural numbers.  Reading takes one optional plus sign and
any number of leading zeros, and nothing else besides digits; writing gives the
shortest decimal, or hexadecimal in lower case with a fixed number of digits.
-/

namespace LogicalNet

/-- Powers are those of the core library, also where another library gives its own. -/
@[default_instance 20000]
instance (priority := 20000) corePow {α : Type} [NatPow α] : Pow α Nat :=
  instPowNat

namespace Text

/-- The value of a digit of the given radix, letters in either case. -/
def digitValue? (radix : Nat) (c : Char) : Option Nat :=
  let n := c.toNat
  let value :=
    if 48 ≤ n && n ≤ 57 then n - 48
    else if 97 ≤ n && n ≤ 122 then n - 87
    else if 65 ≤ n && n ≤ 90 then n - 55
    else radix
  if value < radix then some value else none

/-- The value of a run of digits behind the value of those already read. -/
def digitsValue? (radix : Nat) : Nat → List Char → Option Nat
  | value, [] => some value
  | value, c :: rest =>
      match digitValue? radix c with
      | some d => digitsValue? radix (value * radix + d) rest
      | none => none

/-- At least one digit and nothing but digits. -/
def readDigits? (radix : Nat) : List Char → Option Nat
  | [] => none
  | s => digitsValue? radix 0 s

def dropPlus : List Char → List Char
  | '+' :: rest => rest
  | s => s

/-- Digits behind an optional plus sign, with a value below the bound. -/
def readBelow? (radix bound : Nat) (s : List Char) : Option Nat :=
  match readDigits? radix (dropPlus s) with
  | some n => if n < bound then some n else none
  | none => none

def readUInt8? (s : String) : Option UInt8 :=
  (readBelow? 10 (2 ^ 8) s.toList).map Nat.toUInt8

def readUInt16? (s : String) : Option UInt16 :=
  (readBelow? 10 (2 ^ 16) s.toList).map Nat.toUInt16

def readUInt64? (s : String) : Option UInt64 :=
  (readBelow? 10 (2 ^ 64) s.toList).map Nat.toUInt64

/-- The decimal digits of a number. -/
def decimalChars (n : Nat) : List Char :=
  Nat.toDigits 10 n

def decimal (n : Nat) : String :=
  String.ofList (decimalChars n)

/-- The decimal digits of a number behind a minus sign when it is negative. -/
def signedDecimal (n : Int) : String :=
  if n < 0 then "-" ++ decimal n.natAbs else decimal n.natAbs

/-- The last `width` hexadecimal digits of a number. -/
def hexChars : Nat → Nat → List Char
  | 0, _ => []
  | width + 1, n => hexChars width (n / 16) ++ [Nat.digitChar (n % 16)]

def hex (width n : Nat) : String :=
  String.ofList (hexChars width n)

/-- Hexadecimal digits without leading zeros. -/
def hexShort (n : Nat) : String :=
  String.ofList (Nat.toDigits 16 n)

theorem length_hexChars (width n : Nat) : (hexChars width n).length = width := by
  induction width generalizing n with
  | zero =>
      rfl
  | succ width ih =>
      simp [hexChars, ih]

theorem digitsValue?_append (radix value : Nat) (s t : List Char) :
    digitsValue? radix value (s ++ t) =
      (digitsValue? radix value s).bind fun v => digitsValue? radix v t := by
  induction s generalizing value with
  | nil =>
      simp [digitsValue?]
  | cons c rest ih =>
      simp only [List.cons_append, digitsValue?]
      cases digitValue? radix c with
      | none =>
          rfl
      | some d =>
          exact ih _

theorem digitValue?_digitChar {d : Nat} (h : d < 16) :
    digitValue? 16 (Nat.digitChar d) = some d := by
  revert d
  decide

theorem digitValue?_digitChar_ten {d : Nat} (h : d < 10) :
    digitValue? 10 (Nat.digitChar d) = some d := by
  revert d
  decide

/-- Fixed-width hexadecimal reads back as the number modulo its range. -/
theorem digitsValue?_hexChars (width n : Nat) :
    digitsValue? 16 0 (hexChars width n) = some (n % 16 ^ width) := by
  induction width generalizing n with
  | zero =>
      simp [hexChars, digitsValue?, Nat.mod_one]
  | succ width ih =>
      rw [hexChars, digitsValue?_append, ih]
      simp only [Option.bind_some, digitsValue?, digitValue?_digitChar (Nat.mod_lt n (by decide))]
      congr 1
      rw [Nat.pow_succ', Nat.mod_mul]
      omega

theorem digitsValue?_decimalChars (n : Nat) :
    digitsValue? 10 0 (decimalChars n) = some n := by
  induction n using Nat.strongRecOn with
  | ind n ih =>
      by_cases h : n < 10
      · simp [decimalChars, Nat.toDigits_of_lt_base h, digitsValue?, digitValue?_digitChar_ten h]
      · have hd : Nat.toDigits 10 n = Nat.toDigits 10 (n / 10) ++ [Nat.digitChar (n % 10)] := by
          have := Nat.toDigits_append_toDigits (b := 10) (n := n / 10) (d := n % 10) (by decide)
            (by omega) (Nat.mod_lt n (by decide))
          rw [Nat.toDigits_of_lt_base (Nat.mod_lt n (by decide : 0 < 10))] at this
          rw [this]
          congr 1
          omega
        rw [decimalChars, hd, digitsValue?_append]
        have := ih (n / 10) (by omega)
        rw [decimalChars] at this
        rw [this]
        simp only [Option.bind_some, digitsValue?,
          digitValue?_digitChar_ten (Nat.mod_lt n (by decide : 0 < 10))]
        congr 1
        omega

theorem decimal_injective {m n : Nat} (h : decimal m = decimal n) : m = n := by
  have hlist := congrArg String.toList h
  simp only [decimal, String.toList_ofList] at hlist
  have hread := digitsValue?_decimalChars m
  rw [hlist, digitsValue?_decimalChars] at hread
  exact (Option.some.inj hread).symm

end Text
end LogicalNet
