import LogicalNet.Column.Value
import LogicalNet.Document.JsonReader
import LogicalNet.Document.JsonWriter
import LogicalNet.Text.Blank

/-!
# Output of the command line tool

A listing is a document with the headings of its columns and a list of values for
every row.  `Record.ofListing` reads it, and the accessors of `Record` read one
column as one kind of value.  A column that was not listed reads as empty wherever
it may be empty.
-/

namespace LogicalNet

/-- Why a listing, or a column of it, does not read. -/
inductive ReadFault where
  | unparsable
  | noHeadings
  | badHeading (heading : Document)
  | noData
  | badRow (row : Document)
  | rowWidth
  | unsupportedNumber (number : Document)
  | unsupportedValue (value : Document)
  | badMapEntry (entry : Document)
  | noColumn (column : String)
  | unexpectedValue (value : Value) (column : String)
  | emptyColumn (column : String)

def ReadFault.message : ReadFault → String
  | unparsable => "could not parse ovn-nbctl output"
  | noHeadings => "ovn-nbctl output has no headings"
  | badHeading heading => "bad heading " ++ heading.shown
  | noData => "ovn-nbctl output has no data"
  | badRow row => "bad row " ++ row.shown
  | rowWidth => "row width does not match headings"
  | unsupportedNumber number => "unsupported number " ++ number.shown
  | unsupportedValue value => "unsupported value " ++ value.shown
  | badMapEntry entry => "bad map entry " ++ entry.shown
  | noColumn column => "row has no column " ++ column
  | unexpectedValue value column =>
      "unexpected value " ++ value.shown ++ " in column " ++ column
  | emptyColumn column => "column " ++ column ++ " is empty"

/-! ## Values -/

namespace Value

def leastInteger : Int := -(2 ^ 63)

def greatestInteger : Int := 2 ^ 63 - 1

mutual

/-- Atoms stand for themselves; identifiers, sets and maps are pairs with a mark in front. -/
def ofDocument : Document → Except ReadFault Value
  | .text s => .ok (text s)
  | .bool b => .ok (boolean b)
  | .int n =>
      if leastInteger ≤ n && n ≤ greatestInteger then .ok (integer n)
      else .error (.unsupportedNumber (.int n))
  | .real x => .error (.unsupportedNumber (.real x))
  | .list [.text "uuid", .text s] => .ok (uuid s)
  | .list [.text "named-uuid", .text s] => .ok (uuid s)
  | .list [.text "set", .list items] =>
      match ofItems items with
      | .ok vs => .ok (set vs)
      | .error e => .error e
  | .list [.text "map", .list entries] =>
      match ofEntries entries with
      | .ok es => .ok (map es)
      | .error e => .error e
  | d => .error (.unsupportedValue d)

def ofItems : List Document → Except ReadFault (List Value)
  | [] => .ok []
  | d :: rest =>
      match ofDocument d with
      | .error e => .error e
      | .ok v =>
          match ofItems rest with
          | .error e => .error e
          | .ok vs => .ok (v :: vs)

def ofEntries : List Document → Except ReadFault (List (Value × Value))
  | [] => .ok []
  | .list [k, v] :: rest =>
      match ofDocument k with
      | .error e => .error e
      | .ok k =>
          match ofDocument v with
          | .error e => .error e
          | .ok v =>
              match ofEntries rest with
              | .error e => .error e
              | .ok es => .ok ((k, v) :: es)
  | d :: _ => .error (.badMapEntry d)

end

end Value

/-! ## Listings -/

/-- The columns of one row by their headings; the last of several columns with one heading. -/
structure Record where
  columns : TextMap Value

namespace Record

def headings : List Document → Except ReadFault (List String)
  | [] => .ok []
  | .text s :: rest =>
      match headings rest with
      | .ok ss => .ok (s :: ss)
      | .error e => .error e
  | d :: _ => .error (.badHeading d)

def ofRow (headings : List String) : Document → Except ReadFault Record
  | .list values =>
      if values.length ≠ headings.length then
        .error .rowWidth
      else
        match Value.ofItems values with
        | .ok vs => .ok ⟨TextMap.ofList (headings.zip vs)⟩
        | .error e => .error e
  | d => .error (.badRow d)

def ofRows (headings : List String) : List Document → Except ReadFault (List Record)
  | [] => .ok []
  | d :: rest =>
      match ofRow headings d with
      | .error e => .error e
      | .ok r =>
          match ofRows headings rest with
          | .error e => .error e
          | .ok rs => .ok (r :: rs)

/-- The rows of a listing given as a document. -/
def ofDocument (d : Document) : Except ReadFault (List Record) :=
  match (d.entry? "headings").bind Document.items? with
  | none => .error .noHeadings
  | some hs =>
      match headings hs with
      | .error e => .error e
      | .ok hs =>
          match (d.entry? "data").bind Document.items? with
          | none => .error .noData
          | some rows => ofRows hs rows

/-- The rows of a listing; a blank text lists none. -/
def ofListing (s : String) : Except ReadFault (List Record) :=
  if Text.isBlankText s then
    .ok []
  else
    match Document.ofJson? s with
    | none => .error .unparsable
    | some d => ofDocument d

/-! ## Columns -/

variable {α : Type}

def column (r : Record) (name : String) : Except ReadFault Value :=
  match r.columns.get? name with
  | some v => .ok v
  | none => .error (.noColumn name)

def uuid (r : Record) (name : String) : Except ReadFault String :=
  match r.column name with
  | .ok (.uuid s) => .ok s
  | .ok v => .error (.unexpectedValue v name)
  | .error e => .error e

def text (r : Record) (name : String) : Except ReadFault String :=
  match r.column name with
  | .ok v =>
      match v.optional? with
      | some (some (.text s)) => .ok s
      | _ => .error (.unexpectedValue v name)
  | .error e => .error e

/-- A column that may be empty, whose atom is read by `read?`. -/
def optional (r : Record) (name : String) (read? : Value → Option α) :
    Except ReadFault (Option α) :=
  match r.columns.get? name with
  | none => .ok none
  | some v =>
      match v.optional? with
      | some none => .ok none
      | some (some atom) =>
          match read? atom with
          | some a => .ok (some a)
          | none => .error (.unexpectedValue v name)
      | none => .error (.unexpectedValue v name)

def optionalText (r : Record) (name : String) : Except ReadFault (Option String) :=
  r.optional name fun
    | .text s => some s
    | _ => none

def optionalUuid (r : Record) (name : String) : Except ReadFault (Option String) :=
  r.optional name fun
    | .uuid s => some s
    | _ => none

def optionalInteger (r : Record) (name : String) : Except ReadFault (Option Int) :=
  r.optional name fun
    | .integer n => some n
    | _ => none

def optionalBoolean (r : Record) (name : String) : Except ReadFault (Option Bool) :=
  r.optional name fun
    | .boolean b => some b
    | _ => none

def integer (r : Record) (name : String) : Except ReadFault Int :=
  match r.optionalInteger name with
  | .ok (some n) => .ok n
  | .ok none => .error (.emptyColumn name)
  | .error e => .error e

def atomTexts? : List Value → Option (List String)
  | [] => some []
  | v :: rest =>
      match v.atomText?, atomTexts? rest with
      | some s, some ss => some (s :: ss)
      | _, _ => none

def entryTexts? : List (Value × Value) → Option (List (String × String))
  | [] => some []
  | (k, v) :: rest =>
      match k.atomText?, v.atomText?, entryTexts? rest with
      | some k, some v, some es => some ((k, v) :: es)
      | _, _, _ => none

/-- A set of atoms, each by its text; a single atom counts as a set of one. -/
def texts (r : Record) (name : String) : Except ReadFault (List String) :=
  match r.columns.get? name with
  | none => .ok []
  | some v =>
      let read :=
        match v with
        | .set items => atomTexts? items
        | .map _ => none
        | atom => atomTexts? [atom]
      match read with
      | some ss => .ok ss
      | none => .error (.unexpectedValue v name)

/-- A map between atoms, each by its text; the empty set counts as an empty map. -/
def textMap (r : Record) (name : String) : Except ReadFault (TextMap String) :=
  match r.columns.get? name with
  | none => .ok {}
  | some v =>
      let read :=
        match v with
        | .map entries => (entryTexts? entries).map TextMap.ofList
        | .set [] => some {}
        | _ => none
      match read with
      | some m => .ok m
      | none => .error (.unexpectedValue v name)

end Record
end LogicalNet
