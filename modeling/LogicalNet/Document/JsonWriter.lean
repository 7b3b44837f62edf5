import LogicalNet.Document.Basic
import LogicalNet.Number.Shortest
import LogicalNet.Text.Numeral
import LogicalNet.Text.Pieces

/-!
# Writing JSON

The compact form, without any blank, and the indented form, with two blanks per
level and `[]` and `{}` for what is empty.  Characters outside ASCII are written
as they are; only quotes, backslashes and control characters are escaped.  What
could not be read is written as null.
-/

namespace LogicalNet
namespace Document

def escapeChar (c : Char) : List Char :=
  if c == '"' then ['\\', '"']
  else if c == '\\' then ['\\', '\\']
  else if c == '\n' then ['\\', 'n']
  else if c == '\r' then ['\\', 'r']
  else if c == '\t' then ['\\', 't']
  else if c.toNat == 8 then ['\\', 'b']
  else if c.toNat == 12 then ['\\', 'f']
  else if c.toNat < 0x20 then ['\\', 'u'] ++ Text.hexChars 4 c.toNat
  else [c]

/-- A text between quotes. -/
def quoted (s : String) : String :=
  String.ofList ('"' :: s.toList.flatMap escapeChar ++ ['"'])

mutual

/-- The form without blanks. -/
def compact : Document → String
  | null => "null"
  | bool b => if b then "true" else "false"
  | int n => Text.signedDecimal n
  | real x => x.text
  | text s => quoted s
  | plain s => quoted s
  | list items => "[" ++ Text.join "," (compactList items) ++ "]"
  | record entries => "\x7b" ++ Text.join "," (compactEntries entries) ++ "\x7d"
  | unreadable => "null"

def compactList : List Document → List String
  | [] => []
  | d :: rest => compact d :: compactList rest

def compactEntries : List (String × Document) → List String
  | [] => []
  | (name, d) :: rest => (quoted name ++ ":" ++ compact d) :: compactEntries rest

end

def indentation (level : Nat) : String :=
  String.ofList (List.replicate (2 * level) ' ')

/-- Items on lines of their own between two brackets. -/
def bracketed (opening closing : String) (level : Nat) (items : List String) : String :=
  if items.isEmpty then
    opening ++ closing
  else
    let separator := ",\n" ++ indentation (level + 1)
    opening ++ "\n" ++ indentation (level + 1) ++ Text.join separator items ++
      "\n" ++ indentation level ++ closing

mutual

/-- The form with an item or an entry per line. -/
def pretty (level : Nat) : Document → String
  | null => "null"
  | bool b => if b then "true" else "false"
  | int n => Text.signedDecimal n
  | real x => x.text
  | text s => quoted s
  | plain s => quoted s
  | list items => bracketed "[" "]" level (prettyList (level + 1) items)
  | record entries => bracketed "\x7b" "\x7d" level (prettyEntries (level + 1) entries)
  | unreadable => "null"

def prettyList (level : Nat) : List Document → List String
  | [] => []
  | d :: rest => pretty level d :: prettyList level rest

def prettyEntries (level : Nat) : List (String × Document) → List String
  | [] => []
  | (name, d) :: rest => (quoted name ++ ": " ++ pretty level d) :: prettyEntries level rest

end

/-- The indented form of a whole document. -/
def indented (d : Document) : String :=
  pretty 0 d

/-- The compact form with the names of every record in order. -/
def shown (d : Document) : String :=
  d.sortNames.compact

end Document
end LogicalNet
