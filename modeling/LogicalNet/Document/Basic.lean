import LogicalNet.Number.Binary64
import LogicalNet.TextMap

/-!
# Documents

The values that settings, security groups and command output are read from and
written to.  The same type serves the two formats: a scalar that is written
without quotes in the line-oriented format has no type of its own (`plain`) and
gets one from the place where it stands, so `5` is a text where a text is wanted
and a number where a number is wanted.

A record keeps its entries in the order of the text, repeated names included.

A reader that looks only at the parts it knows passes over the rest, so a text may
hold values that nothing could read (`unreadable`).  Where all parts count, the
document has to be readable throughout, and nested no deeper than a limit.
-/

namespace LogicalNet

inductive Document where
  | null
  | bool (value : Bool)
  | int (value : Int)
  | real (value : Number.Binary64)
  | text (value : String)
  /-- A scalar without quotes, to be typed by its reader. -/
  | plain (value : String)
  | list (items : List Document)
  | record (entries : List (String × Document))
  /-- A well-formed value that no type holds, such as a number beyond every double.  It may stand
  only where it is passed over. -/
  | unreadable
  deriving Inhabited

namespace Document

/-! ## Normal form

Entries in the order of their names, the last of several entries with one name.
-/

mutual

def sortNames : Document → Document
  | null => null
  | bool b => bool b
  | int n => int n
  | real x => real x
  | text s => text s
  | plain s => plain s
  | list items => list (sortNamesList items)
  | record entries => record (TextMap.ofList (sortNamesEntries entries)).entries
  | unreadable => unreadable

def sortNamesList : List Document → List Document
  | [] => []
  | d :: rest => sortNames d :: sortNamesList rest

def sortNamesEntries : List (String × Document) → List (String × Document)
  | [] => []
  | (name, d) :: rest => (name, sortNames d) :: sortNamesEntries rest

end

/-! ## Full reading -/

mutual

/-- Whether every part can be read, with at most `depth` lists and records around a scalar. -/
def readableWithin : Nat → Document → Bool
  | _, unreadable => false
  | 0, list _ => false
  | depth + 1, list items => readableWithinList depth items
  | 0, record _ => false
  | depth + 1, record entries => readableWithinEntries depth entries
  | _, _ => true

def readableWithinList : Nat → List Document → Bool
  | _, [] => true
  | depth, d :: rest => readableWithin depth d && readableWithinList depth rest

def readableWithinEntries : Nat → List (String × Document) → Bool
  | _, [] => true
  | depth, (_, d) :: rest => readableWithin depth d && readableWithinEntries depth rest

end

/-! ## Parts -/

/-- The value of the last entry with the given name. -/
def entry? (name : String) : Document → Option Document
  | record entries => (entries.findRev? fun e => e.1 == name).map Prod.snd
  | _ => none

def items? : Document → Option (List Document)
  | list items => some items
  | _ => none

def text? : Document → Option String
  | text s => some s
  | _ => none

end Document
end LogicalNet
