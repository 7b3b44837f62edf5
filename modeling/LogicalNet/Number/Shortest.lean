import LogicalNet.Number.Binary64
import LogicalNet.Text.Numeral

/-!
# Shortest decimals

The decimal written for a double precision number is the one with the fewest
digits that still rounds to it, and of those the nearest.  Numbers are tried on
the decimal grids of one to seventeen digits; a grid holds a suitable decimal
exactly when one of the two neighbours of the number on it is suitable.
-/

namespace LogicalNet
namespace Number

/-- The decimal `digits · 10 ^ exponent`. -/
structure Decimal where
  digits : Nat
  exponent : Int
  deriving DecidableEq

/-- The numbers that round to a given one: `low`, `value` and `high` share a denominator. -/
structure RoundingRange where
  low : Nat
  value : Nat
  high : Nat
  den : Nat
  /-- The ends round to the number too. -/
  closed : Bool

namespace RoundingRange

def ofBinary (x : Binary64) : RoundingRange :=
  let m := x.significand
  let lowGap := if m = 2 ^ 52 ∧ Magnitude.leastExponent < x.exponent then 1 else 2
  let unit := Magnitude.shifted 1 4 x.exponent
  { low := (4 * m - lowGap) * unit.1
    value := 4 * m * unit.1
    high := (4 * m + 2) * unit.1
    den := unit.2
    closed := m % 2 == 0 }

/-- Whether `d · 10 ^ exponent` rounds to the number. -/
def admits (r : RoundingRange) (d : Nat) (exponent : Int) : Bool :=
  let scale : Nat × Nat :=
    if 0 ≤ exponent then (10 ^ exponent.toNat, 1) else (1, 10 ^ (-exponent).toNat)
  let point := d * scale.1 * r.den
  let low := r.low * scale.2
  let high := r.high * scale.2
  if r.closed then low ≤ point && point ≤ high else low < point && point < high

/-- The number in units of `10 ^ exponent`, as a fraction. -/
def inUnits (r : RoundingRange) (exponent : Int) : Nat × Nat :=
  if 0 ≤ exponent then (r.value, r.den * 10 ^ exponent.toNat)
  else (r.value * 10 ^ (-exponent).toNat, r.den)

end RoundingRange

/-- How often the fraction has to be multiplied by ten to reach one. -/
def tenfoldsToOne : Nat → Nat → Nat → Nat
  | 0, _, _ => 0
  | fuel + 1, num, den => if den ≤ num then 0 else tenfoldsToOne fuel (num * 10) den + 1

/-- The exponent of the leading decimal digit of a positive fraction. -/
def leadingExponent (num den : Nat) : Int :=
  if den ≤ num then
    ((Nat.toDigits 10 (num / den)).length : Int) - 1
  else
    -(tenfoldsToOne 400 num den : Int)

/-- The nearer suitable neighbour on the grid of `10 ^ exponent`, the even one on a tie. -/
def onGrid (r : RoundingRange) (exponent : Int) : Option Nat :=
  let f := r.inUnits exponent
  let below := f.1 / f.2
  let rest := f.1 % f.2
  match r.admits below exponent, r.admits (below + 1) exponent with
  | false, false => none
  | true, false => some below
  | false, true => some (below + 1)
  | true, true =>
      if 2 * rest < f.2 then some below
      else if f.2 < 2 * rest then some (below + 1)
      else if below % 2 = 0 then some below
      else some (below + 1)

/-- The first of the grids with `count`, `count + 1`, … digits that holds a suitable decimal. -/
def firstGrid (r : RoundingRange) (leading : Int) : Nat → Nat → Decimal
  | 0, count => ⟨(r.inUnits (leading - count)).1 / (r.inUnits (leading - count)).2, leading - count⟩
  | fuel + 1, count =>
      let exponent := leading - ((count : Int) - 1)
      match onGrid r exponent with
      | some d => ⟨d, exponent⟩
      | none => firstGrid r leading fuel (count + 1)

def dropZeros : Nat → Decimal → Decimal
  | 0, d => d
  | fuel + 1, d =>
      if d.digits % 10 = 0 ∧ d.digits ≠ 0 then dropZeros fuel ⟨d.digits / 10, d.exponent + 1⟩ else d

def shortest (x : Binary64) : Decimal :=
  let r := RoundingRange.ofBinary x
  dropZeros 20 (firstGrid r (leadingExponent r.value r.den) 17 1)

/-- How a decimal is laid out.  It is written positionally while its point falls between `least`
and `greatest`, and with an exponent otherwise. -/
structure Layout where
  least : Int
  greatest : Int
  /-- Whether an exponent that is not negative carries a plus sign. -/
  plus : Bool

/-- Sixteen digits before the point, or four zeros behind it; beyond, an exponent with a sign. -/
def documentLayout : Layout := ⟨-4, 16, true⟩

def zeros (n : Int) : String :=
  String.ofList (List.replicate n.toNat '0')

/-- The exponent with its mark. -/
def writeExponent (layout : Layout) (exponent : Int) : String :=
  (if layout.plus && 0 ≤ exponent then "e+" else "e") ++ Text.signedDecimal exponent

def writeDecimal (layout : Layout) (d : Decimal) : String :=
  let digits := Text.decimalChars d.digits
  let count : Int := digits.length
  let point := count + d.exponent
  if 0 ≤ d.exponent ∧ point ≤ layout.greatest then
    String.ofList digits ++ zeros d.exponent ++ ".0"
  else if 0 < point ∧ point ≤ layout.greatest then
    String.ofList (digits.take point.toNat) ++ "." ++ String.ofList (digits.drop point.toNat)
  else if layout.least ≤ point ∧ point ≤ 0 then
    "0." ++ zeros (-point) ++ String.ofList digits
  else
    let mantissa :=
      match digits with
      | [] => "0"
      | [d] => String.ofList [d]
      | d :: rest => String.ofList (d :: '.' :: rest)
    mantissa ++ writeExponent layout (point - 1)

/-- The text of a number: shortest digits, always with a point or an exponent. -/
def Binary64.text (x : Binary64) : String :=
  let sign := if x.negative then "-" else ""
  if x.significand = 0 then sign ++ "0.0" else sign ++ writeDecimal documentLayout (shortest x)

end Number
end LogicalNet
