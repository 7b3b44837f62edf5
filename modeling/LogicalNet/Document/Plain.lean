import LogicalNet.Document.Basic
import LogicalNet.Text.Numeral

/-!
# Scalars without quotes

What a plain scalar stands for where a number, a truth value or an optional value
is wanted.  A run of digits that starts with a zero is a text and not a number.
-/

namespace LogicalNet
namespace Document
namespace Plain

def isNull (s : String) : Bool :=
  s == "~" || s == "null"

def bool? : String → Option Bool
  | "true" => some true
  | "false" => some false
  | _ => none

/-- Digits behind a mark of their radix. -/
def marked? (negative : Bool) (radix : Nat) (digits : List Char) : Option Nat :=
  Text.readDigits? radix (if negative then digits else Text.dropPlus digits)

def unmarked? (digits : List Char) : Option Nat :=
  if digits.head? == some '0' && 1 < digits.length then none else Text.readDigits? 10 digits

def magnitude? (negative : Bool) : List Char → Option Nat
  | '0' :: 'x' :: rest => marked? negative 16 rest
  | '0' :: 'o' :: rest => marked? negative 8 rest
  | '0' :: 'b' :: rest => marked? negative 2 rest
  | digits => unmarked? digits

def integer? (s : String) : Option Int :=
  match s.toList with
  | '-' :: rest => (magnitude? true rest).map fun n => -(n : Int)
  | '+' :: rest => (magnitude? false rest).map Int.ofNat
  | rest => (magnitude? false rest).map Int.ofNat

end Plain

/-! ## Scalars of either format -/

def isNull : Document → Bool
  | null => true
  | plain s => Plain.isNull s
  | _ => false

def bool? : Document → Option Bool
  | bool b => some b
  | plain s => Plain.bool? s
  | _ => none

def integer? : Document → Option Int
  | int n => some n
  | plain s => Plain.integer? s
  | _ => none

def scalarText? : Document → Option String
  | text s => some s
  | plain s => some s
  | _ => none

end Document
end LogicalNet
