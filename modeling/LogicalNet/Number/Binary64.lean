import LogicalNet.Text.Numeral

/-!
# Double precision numbers

Finite binary floating point numbers with 53 significant bits, given by a sign, a
significand and a power of two.  Every operation is an exact fraction rounded
once to the nearest number, ties to the even significand, so nothing depends on
the machine's arithmetic.
-/

namespace LogicalNet
namespace Number

/-- The number `±significand · 2 ^ exponent`. -/
structure Binary64 where
  negative : Bool
  significand : Nat
  exponent : Int
  deriving DecidableEq

/-- A magnitude `significand · 2 ^ exponent`. -/
structure Magnitude where
  significand : Nat
  exponent : Int
  deriving DecidableEq

namespace Magnitude

def leastExponent : Int := -1074

def greatestExponent : Int := 971

def zero : Magnitude := ⟨0, leastExponent⟩

/-- Numerator and denominator of `num / den · 2 ^ shift`. -/
def shifted (num den : Nat) (shift : Int) : Nat × Nat :=
  if 0 ≤ shift then (num * 2 ^ shift.toNat, den) else (num, den * 2 ^ (-shift).toNat)

def fraction (x : Magnitude) : Nat × Nat :=
  shifted x.significand 1 x.exponent

/-- The quotient rounded to the nearest integer, ties to even. -/
def roundQuotient (num den : Nat) : Nat :=
  let q := num / den
  let r := num % den
  if 2 * r < den then q
  else if den < 2 * r then q + 1
  else if q % 2 = 0 then q
  else q + 1

/-- The exponent that leaves the quotient with 53 bits, or the least one. -/
def quotientExponent (num den : Nat) : Int :=
  let guess : Int := (Nat.log2 num : Int) - (Nat.log2 den : Int) - 53
  let f := shifted num den (-guess)
  let e := if 2 ^ 53 ≤ f.1 / f.2 then guess + 1 else guess
  max e leastExponent

/-- The nearest number to a fraction, `none` when it is too large. -/
def ofFraction (num den : Nat) : Option Magnitude :=
  if num = 0 then
    some zero
  else
    let e := quotientExponent num den
    let f := shifted num den (-e)
    let q := roundQuotient f.1 f.2
    let x : Magnitude := if q = 2 ^ 53 then ⟨2 ^ 52, e + 1⟩ else ⟨q, e⟩
    if greatestExponent < x.exponent then none else some x

def ofNat (n : Nat) : Option Magnitude :=
  ofFraction n 1

def mul? (x y : Magnitude) : Option Magnitude :=
  let a := x.fraction
  let b := y.fraction
  ofFraction (a.1 * b.1) (a.2 * b.2)

def div? (x y : Magnitude) : Option Magnitude :=
  let a := x.fraction
  let b := y.fraction
  ofFraction (a.1 * b.2) (a.2 * b.1)

/-- Multiplication by a power of ten in steps of at most `10 ^ 308`, each step rounded. -/
def scaleTen : Nat → Magnitude → Int → Option Magnitude
  | 0, _, _ => some zero
  | steps + 1, x, exponent =>
      if exponent.natAbs ≤ 308 then do
        let power ← ofNat (10 ^ exponent.natAbs)
        if 0 ≤ exponent then mul? x power else div? x power
      else if x.significand = 0 then
        some x
      else if 0 ≤ exponent then
        none
      else do
        let power ← ofNat (10 ^ 308)
        let smaller ← div? x power
        scaleTen steps smaller (exponent + 308)

/-- The number written `digits · 10 ^ exponent`.  Three steps down take any significand of
64 bits to zero. -/
def ofDecimal (digits : Nat) (exponent : Int) : Option Magnitude := do
  let x ← ofNat digits
  scaleTen 4 x exponent

end Magnitude

namespace Binary64

def ofMagnitude (negative : Bool) (x : Magnitude) : Binary64 :=
  ⟨negative, x.significand, x.exponent⟩

end Binary64
end Number
end LogicalNet
