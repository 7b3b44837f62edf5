import LogicalNet.Document.Choice

/-!
# Values as documents

`Codec α` says how a value of `α` is written as a document and which documents
read as one.  Numbers keep to the range of their type, and no scalar of one kind
reads as another.

A structure is written as a record of its fields in the order of their
declaration.  It reads from a record, where names it does not know are passed over
and a name it knows stands once, and from a list of its fields in the same order,
where fields may be left out at the end only.
-/

namespace LogicalNet

class Codec (α : Type) where
  encode : α → Document
  decode? : Document → Option α

export Codec (encode decode?)

namespace Codec

variable {α : Type}

/-! ## Scalars -/

instance : Codec Document where
  encode d := d
  decode? d := some d

instance : Codec String where
  encode s := .text s
  decode? d := d.scalarText?

instance : Codec Bool where
  encode b := .bool b
  decode? d := d.bool?

/-- A natural number below the bound. -/
def naturalBelow? (bound : Nat) (d : Document) : Option Nat :=
  match d.integer? with
  | some n => if 0 ≤ n && n < bound then some n.toNat else none
  | none => none

instance : Codec UInt16 where
  encode n := .int n.toNat
  decode? d := (naturalBelow? (2 ^ 16) d).map Nat.toUInt16

instance : Codec UInt32 where
  encode n := .int n.toNat
  decode? d := (naturalBelow? (2 ^ 32) d).map Nat.toUInt32

instance : Codec UInt64 where
  encode n := .int n.toNat
  decode? d := (naturalBelow? (2 ^ 64) d).map Nat.toUInt64

instance : Codec Int32 where
  encode n := .int n.toInt
  decode? d :=
    match d.integer? with
    | some n => if -(2 ^ 31) ≤ n && n < 2 ^ 31 then some (Int32.ofInt n) else none
    | none => none

/-! ## Collections -/

instance [Codec α] : Codec (Option α) where
  encode
    | some a => encode a
    | none => .null
  decode? d := if d.isNull then some none else (decode? d).map some

def decodeList? [Codec α] : List Document → Option (List α)
  | [] => some []
  | d :: rest =>
      match decode? d, decodeList? rest with
      | some a, some as => some (a :: as)
      | _, _ => none

instance [Codec α] : Codec (List α) where
  encode as := .list (as.map encode)
  decode?
    | .list items => decodeList? items
    | _ => none

def decodeEntries? [Codec α] : List (String × Document) → Option (List (String × α))
  | [] => some []
  | (name, d) :: rest =>
      match decode? d, decodeEntries? rest with
      | some a, some as => some ((name, a) :: as)
      | _, _ => none

instance [Codec α] : Codec (TextMap α) where
  encode m := .record (m.mapValues encode).entries
  decode?
    | .record entries => (decodeEntries? entries).map TextMap.ofList
    | _ => none

end Codec

/-! ## Structures -/

namespace Document

/-- What a document holds for the fields of a structure. -/
structure Fields where
  values : List (String × Document)

/-- The fields with the given names; `none` for a known name that stands twice, for more items
than fields, and for a scalar. -/
def fields? (names : List String) : Document → Option Fields
  | record entries =>
      let known := entries.filter fun e => names.contains e.1
      if (known.map Prod.fst).Nodup then some ⟨known⟩ else none
  | list items =>
      if items.length ≤ names.length then some ⟨names.zip items⟩ else none
  | _ => none

namespace Fields

variable {α : Type}

def find? (f : Fields) (name : String) : Option Document :=
  TextMap.findEntry name f.values

def required? [Codec α] (f : Fields) (name : String) : Option α :=
  match f.find? name with
  | some d => decode? d
  | none => none

/-- The field, or the given value when it is left out. -/
def withDefault? [Codec α] (f : Fields) (name : String) (default : α) : Option α :=
  match f.find? name with
  | some d => decode? d
  | none => some default

end Fields
end Document
end LogicalNet
