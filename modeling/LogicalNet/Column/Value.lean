import LogicalNet.Names
import LogicalNet.Text.Escaped
import LogicalNet.Text.Pieces

/-!
# Values of columns

What a column of a row holds: an atom, a set of atoms or a map between atoms.  An
optional column is a set of none or one.

A value is written in the syntax of database commands, where texts always stand in
quotes (`Value.command`), and, for messages, with the kind of every part
(`Value.shown`).
-/

namespace LogicalNet

inductive Value where
  | text (s : String)
  | integer (n : Int)
  | boolean (b : Bool)
  | uuid (s : String)
  | set (items : List Value)
  | map (entries : List (Value × Value))
  deriving Inhabited

namespace Value

/-! ## Columns of one kind -/

def texts (ss : List String) : Value :=
  set (ss.map text)

def uuids (ss : List String) : Value :=
  set (ss.map uuid)

def optionalText (s : Option String) : Value :=
  set (s.toList.map text)

def optionalUuid (s : Option String) : Value :=
  set (s.toList.map uuid)

def optionalInteger (n : Option Int) : Value :=
  set (n.toList.map integer)

def optionalBoolean (b : Option Bool) : Value :=
  set (b.toList.map boolean)

def textMap (m : TextMap String) : Value :=
  map (m.entries.map fun e => (text e.1, text e.2))

/-! ## Atoms -/

def booleanText (b : Bool) : String :=
  if b then "true" else "false"

/-- The text of a single atom. -/
def atomText? : Value → Option String
  | text s => some s
  | uuid s => some s
  | integer n => some (Text.signedDecimal n)
  | boolean b => some (booleanText b)
  | set _ => none
  | map _ => none

/-- The atom of an optional column, where a set of one may be written as its element: `none` for
what is no optional column, `some none` for an empty one. -/
def optional? : Value → Option (Option Value)
  | set [] => some none
  | set [v] => some (some v)
  | set _ => none
  | map _ => none
  | v => some (some v)

/-! ## Command syntax -/

def escapeQuoted (c : Char) : List Char :=
  if c = '"' then ['\\', '"']
  else if c = '\\' then ['\\', '\\']
  else if c = '\n' then ['\\', 'n']
  else [c]

def quotedChars (s : List Char) : List Char :=
  '"' :: s.flatMap escapeQuoted ++ ['"']

def quoted (s : String) : String :=
  String.ofList (quotedChars s.toList)

mutual

def command : Value → String
  | text s => quoted s
  | integer n => Text.signedDecimal n
  | boolean b => booleanText b
  | uuid s => s
  | set items => "[" ++ Text.join "," (commandItems items) ++ "]"
  | map entries => "\x7b" ++ Text.join "," (commandEntries entries) ++ "\x7d"

def commandItems : List Value → List String
  | [] => []
  | v :: rest => command v :: commandItems rest

def commandEntries : List (Value × Value) → List String
  | [] => []
  | (k, v) :: rest => (command k ++ "=" ++ command v) :: commandEntries rest

end

/-! ## Messages -/

mutual

def shown : Value → String
  | text s => "String(" ++ Text.escaped s ++ ")"
  | integer n => "Integer(" ++ Text.signedDecimal n ++ ")"
  | boolean b => "Boolean(" ++ booleanText b ++ ")"
  | uuid s => "Uuid(" ++ Text.escaped s ++ ")"
  | set items => "Set([" ++ Text.join ", " (shownItems items) ++ "])"
  | map entries => "Map([" ++ Text.join ", " (shownEntries entries) ++ "])"

def shownItems : List Value → List String
  | [] => []
  | v :: rest => shown v :: shownItems rest

def shownEntries : List (Value × Value) → List String
  | [] => []
  | (k, v) :: rest => ("(" ++ shown k ++ ", " ++ shown v ++ ")") :: shownEntries rest

end

end Value
end LogicalNet
