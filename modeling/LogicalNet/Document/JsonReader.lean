import LogicalNet.Document.Basic
import LogicalNet.Text.Numeral

/-!
# Reading JSON

A reader for the whole grammar over the list of characters.  Integers that fit in
64 bits are kept exactly, signed below zero and unsigned above; every other
number is read as a double.  A repeated name is not an error here: the record
keeps both entries.

What the grammar allows and no type holds is `unreadable`: a number too large for
a double, a string with half a surrogate pair, a record with such a string for a
name.  `ofPassableJson?` leaves it where it stands, for those who pass over what
they do not know; `ofJson?` refuses it, and the nesting of more than 127 lists and
records.

Every function that calls itself takes an amount of fuel; the readers of whole
texts give it enough for any text, since two calls in a row never leave the rest
of the text unchanged.
-/

namespace LogicalNet
namespace Document
namespace Json

def isBlank (c : Char) : Bool :=
  c == ' ' || c == '\n' || c == '\t' || c == '\r'

def skipBlanks (s : List Char) : List Char :=
  s.dropWhile isBlank

/-! ## Strings -/

def hexUnit? (a b c d : Char) : Option Nat :=
  Text.digitsValue? 16 0 [a, b, c, d]

/-- The code point of two surrogates. -/
def pairValue (high low : Nat) : Nat :=
  0x10000 + (high - 0xD800) * 0x400 + (low - 0xDC00)

def isHigh (unit : Nat) : Bool :=
  0xD800 ≤ unit && unit ≤ 0xDBFF

def isLow (unit : Nat) : Bool :=
  0xDC00 ≤ unit && unit ≤ 0xDFFF

/-- The second half of a surrogate pair, if it follows. -/
def readLow? : List Char → Option (Nat × List Char)
  | '\\' :: 'u' :: a :: b :: c :: d :: rest =>
      match hexUnit? a b c d with
      | some unit => if isLow unit then some (unit, rest) else none
      | none => none
  | _ => none

/-- The character of an escape, given what follows its backslash and `u`.  Half a surrogate pair
stands for no character. -/
def readUnicode? : List Char → Option (Option Char × List Char)
  | a :: b :: c :: d :: rest =>
      match hexUnit? a b c d with
      | none => none
      | some unit =>
          if isHigh unit then
            match readLow? rest with
            | some (low, rest) => some (some (Char.ofNat (pairValue unit low)), rest)
            | none => some (none, rest)
          else if isLow unit then
            some (none, rest)
          else
            some (some (Char.ofNat unit), rest)
  | _ => none

/-- The character of an escape, given what follows its backslash. -/
def readEscape? : List Char → Option (Option Char × List Char)
  | '"' :: rest => some (some '"', rest)
  | '\\' :: rest => some (some '\\', rest)
  | '/' :: rest => some (some '/', rest)
  | 'b' :: rest => some (some (Char.ofNat 8), rest)
  | 'f' :: rest => some (some (Char.ofNat 12), rest)
  | 'n' :: rest => some (some '\n', rest)
  | 'r' :: rest => some (some '\r', rest)
  | 't' :: rest => some (some '\t', rest)
  | 'u' :: rest => readUnicode? rest
  | _ => none

/-- Puts a character before a string; a string without one of its characters is lost. -/
def consChar? : Option Char → Option (List Char) → Option (List Char)
  | some c, some s => some (c :: s)
  | _, _ => none

/-- The string up to the closing quote, `none` when it holds half a surrogate pair, and what
follows it. -/
def readString? : Nat → List Char → Option (Option (List Char) × List Char)
  | 0, _ => none
  | _ + 1, [] => none
  | fuel + 1, c :: rest =>
      if c == '"' then
        some (some [], rest)
      else if c == '\\' then
        match readEscape? rest with
        | some (e, rest) => (readString? fuel rest).map fun p => (consChar? e p.1, p.2)
        | none => none
      else if c.toNat < 0x20 then
        none
      else
        (readString? fuel rest).map fun p => (consChar? (some c) p.1, p.2)

def ofString : Option (List Char) → Document
  | some s => text (String.ofList s)
  | none => unreadable

/-! ## Numbers -/

def isDigit (c : Char) : Bool :=
  48 ≤ c.toNat && c.toNat ≤ 57

def greatestSignificand : Nat := 2 ^ 64 - 1

/-- Appends digits to a significand while it fits in 64 bits; gives the significand and how many
digits it took. -/
def takeDigits : Nat → List Char → Nat × Nat
  | value, [] => (value, 0)
  | value, c :: rest =>
      let next := value * 10 + (c.toNat - 48)
      if next ≤ greatestSignificand then
        let r := takeDigits next rest
        (r.1, r.2 + 1)
      else
        (value, 0)

/-- The parts of a number literal. -/
structure Literal where
  negative : Bool
  whole : List Char
  fraction : Option (List Char)
  exponent : Option Int

def Literal.real (l : Literal) : Document :=
  let whole := takeDigits 0 l.whole
  let dropped : Int := (l.whole.length : Int) - whole.2
  let digits := takeDigits whole.1 (l.fraction.getD [])
  let exponent := dropped - digits.2 + l.exponent.getD 0
  match Number.Magnitude.ofDecimal digits.1 exponent with
  | some x => Document.real (Number.Binary64.ofMagnitude l.negative x)
  | none => unreadable

def Literal.value (l : Literal) : Document :=
  match l.fraction, l.exponent, Text.digitsValue? 10 0 l.whole with
  | none, none, some n =>
      if l.negative then
        if 0 < n ∧ n ≤ 2 ^ 63 then int (-(n : Int)) else l.real
      else
        if n ≤ greatestSignificand then int n else l.real
  | _, _, _ => l.real

def readWhole? : List Char → Option (List Char × List Char)
  | '0' :: rest =>
      match rest with
      | c :: _ => if isDigit c then none else some (['0'], rest)
      | [] => some (['0'], rest)
  | s =>
      match s.takeWhile isDigit with
      | [] => none
      | digits => some (digits, s.dropWhile isDigit)

/-- The digits behind a point, if there is one. -/
def readFraction? : List Char → Option (Option (List Char) × List Char)
  | '.' :: rest =>
      match rest.takeWhile isDigit with
      | [] => none
      | digits => some (some digits, rest.dropWhile isDigit)
  | s => some (none, s)

def readExponentDigits? (negative : Bool) (s : List Char) : Option (Option Int × List Char) :=
  match s.takeWhile isDigit with
  | [] => none
  | digits =>
      (Text.digitsValue? 10 0 digits).map fun n =>
        (some (if negative then -(n : Int) else n), s.dropWhile isDigit)

/-- The power of ten behind an `e`, if there is one. -/
def readExponent? : List Char → Option (Option Int × List Char)
  | c :: rest =>
      if c == 'e' || c == 'E' then
        match rest with
        | '+' :: rest => readExponentDigits? false rest
        | '-' :: rest => readExponentDigits? true rest
        | _ => readExponentDigits? false rest
      else
        some (none, c :: rest)
  | [] => some (none, [])

def readUnsigned? (negative : Bool) (s : List Char) : Option (Document × List Char) := do
  let (whole, s) ← readWhole? s
  let (fraction, s) ← readFraction? s
  let (exponent, s) ← readExponent? s
  return (Literal.value ⟨negative, whole, fraction, exponent⟩, s)

def readNumber? : List Char → Option (Document × List Char)
  | '-' :: rest => readUnsigned? true rest
  | s => readUnsigned? false s

/-! ## Values -/

/-- An entry as it is read: its name may be missing. -/
abbrev Entry := Option (List Char) × Document

def named? (e : Entry) : Option (String × Document) :=
  e.1.map fun name => (String.ofList name, e.2)

/-- A record, if every entry has its name. -/
def ofEntries (entries : List Entry) : Document :=
  match entries.mapM named? with
  | some entries => record entries
  | none => unreadable

mutual

/-- A value at the start of the text. -/
def readValue? : Nat → List Char → Option (Document × List Char)
  | 0, _ => none
  | fuel + 1, s =>
      match s with
      | 'n' :: 'u' :: 'l' :: 'l' :: rest => some (null, rest)
      | 't' :: 'r' :: 'u' :: 'e' :: rest => some (bool true, rest)
      | 'f' :: 'a' :: 'l' :: 's' :: 'e' :: rest => some (bool false, rest)
      | '"' :: rest => (readString? fuel rest).map fun p => (ofString p.1, p.2)
      | '[' :: rest =>
          match skipBlanks rest with
          | ']' :: rest => some (list [], rest)
          | rest => (readItems? fuel rest).map fun p => (list p.1, p.2)
      | '{' :: rest =>
          match skipBlanks rest with
          | '}' :: rest => some (record [], rest)
          | rest => (readEntries? fuel rest).map fun p => (ofEntries p.1, p.2)
      | s => readNumber? s

/-- Items up to the closing bracket. -/
def readItems? : Nat → List Char → Option (List Document × List Char)
  | 0, _ => none
  | fuel + 1, s =>
      match readValue? fuel (skipBlanks s) with
      | none => none
      | some (d, rest) =>
          match skipBlanks rest with
          | ',' :: rest => (readItems? fuel rest).map fun p => (d :: p.1, p.2)
          | ']' :: rest => some ([d], rest)
          | _ => none

/-- Entries up to the closing brace. -/
def readEntries? : Nat → List Char → Option (List Entry × List Char)
  | 0, _ => none
  | fuel + 1, s =>
      match skipBlanks s with
      | '"' :: rest =>
          match readString? fuel rest with
          | none => none
          | some (name, rest) =>
              match skipBlanks rest with
              | ':' :: rest =>
                  match readValue? fuel (skipBlanks rest) with
                  | none => none
                  | some (d, rest) =>
                      match skipBlanks rest with
                      | ',' :: rest => (readEntries? fuel rest).map fun p => ((name, d) :: p.1, p.2)
                      | '}' :: rest => some ([(name, d)], rest)
                      | _ => none
              | _ => none
      | _ => none

end

def greatestDepth : Nat := 127

end Json

/-- The document of a JSON text, unreadable parts included; `none` when it is malformed. -/
def ofPassableJsonChars? (s : List Char) : Option Document :=
  match Json.readValue? (2 * s.length + 2) (Json.skipBlanks s) with
  | some (d, rest) => if (Json.skipBlanks rest).isEmpty then some d else none
  | none => none

def ofPassableJson? (s : String) : Option Document :=
  ofPassableJsonChars? s.toList

/-- The document of a JSON text, `none` when it is malformed, has a part that cannot be read, or is
nested too deep. -/
def ofJson? (s : String) : Option Document :=
  (ofPassableJson? s).filter (readableWithin Json.greatestDepth)

end Document
end LogicalNet
