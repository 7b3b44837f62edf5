import LogicalNet.Document.JsonWriter

/-!
# Writing YAML

The block form: an entry or an item per line, two blanks per level, the items of
a list one level below the name that holds it.  A text is written without quotes
unless a reader would take it for something else.
-/

namespace LogicalNet
namespace Document
namespace Yaml

/-! ## When a text needs quotes -/

def isDigit (c : Char) : Bool :=
  48 ≤ c.toNat && c.toNat ≤ 57

def dropSign : List Char → List Char
  | '+' :: rest => rest
  | '-' :: rest => rest
  | s => s

/-- Nothing, or an exponent. -/
def isExponent : List Char → Bool
  | [] => true
  | c :: rest =>
      (c == 'e' || c == 'E') && !(dropSign rest).isEmpty && (dropSign rest).all isDigit

/-- A decimal with an optional point and exponent, and a digit somewhere before the exponent. -/
def isDecimal (s : List Char) : Bool :=
  let whole := s.takeWhile isDigit
  match s.dropWhile isDigit with
  | '.' :: rest =>
      !(whole.isEmpty && (rest.takeWhile isDigit).isEmpty) && isExponent (rest.dropWhile isDigit)
  | rest => !whole.isEmpty && isExponent rest

/-- What reads as a number, the infinities and the indeterminate value included. -/
def looksNumeric (s : String) : Bool :=
  let body := dropSign s.toList
  isDecimal body ||
    ["inf", "infinity", "nan"].contains (String.ofList (body.map Char.toLower))

/-- Words that read as a truth value or as nothing. -/
def reservedWords : List String :=
  ["yes", "Yes", "YES", "no", "No", "NO", "True", "TRUE", "true", "False", "FALSE", "false",
    "on", "On", "ON", "off", "Off", "OFF", "null", "Null", "NULL", "~"]

def leadingMarks : List Char :=
  [' ', '&', '*', '?', '|', '-', '<', '>', '=', '!', '%', '@', '.']

def innerMarks : List Char :=
  [':', '{', '}', '[', ']', ',', '#', Char.ofNat 0x60, '"', '\'', '\\', '\t', '\n', '\r']

def isInnerMark (c : Char) : Bool :=
  let n := c.toNat
  innerMarks.contains c || n ≤ 6 || (0x0E ≤ n && n ≤ 0x1A) || (0x1C ≤ n && n ≤ 0x1F)

def needsQuotes (s : String) : Bool :=
  let chars := s.toList
  chars.isEmpty ||
    chars.head?.any leadingMarks.contains ||
    chars.getLast?.any (· == ' ') ||
    chars.any isInnerMark ||
    reservedWords.contains s ||
    chars.take 2 == ['0', 'x'] ||
    looksNumeric s

def escapeChar (c : Char) : List Char :=
  if c.toNat == 0x7F then ['\\', 'u', '0', '0', '7', 'f'] else Document.escapeChar c

def scalar (s : String) : String :=
  if needsQuotes s then
    String.ofList ('"' :: s.toList.flatMap escapeChar ++ ['"'])
  else
    s

/-! ## Blocks

A value is written with what separates it from the name or the dash before it: a
blank, or for a block behind a name a line break.
-/

def inBlock (level : Nat) (lines : List String) : String :=
  Text.join ("\n" ++ indentation level) lines

mutual

/-- A value behind a dash (`inItem`) or behind a name, whose own block is at the given level. -/
def value (inItem : Bool) (level : Nat) : Document → String
  | null => " ~"
  | bool b => if b then " true" else " false"
  | int n => " " ++ Text.signedDecimal n
  | real x => " " ++ x.text
  | text s => " " ++ scalar s
  | plain s => " " ++ s
  | list items =>
      if items.isEmpty then
        " []"
      else
        (if inItem then " " else "\n" ++ indentation level) ++ inBlock level (itemLines level items)
  | record entries =>
      if entries.isEmpty then
        " \x7b\x7d"
      else
        (if inItem then " " else "\n" ++ indentation level) ++
          inBlock level (entryLines level entries)
  | unreadable => " ~"

def itemLines (level : Nat) : List Document → List String
  | [] => []
  | d :: rest => ("-" ++ value true (level + 1) d) :: itemLines level rest

def entryLines (level : Nat) : List (String × Document) → List String
  | [] => []
  | (name, d) :: rest => (scalar name ++ ":" ++ value false (level + 1) d) :: entryLines level rest

end

end Yaml

/-- The text of a whole document behind its start marker. -/
def yaml : Document → String
  | list items =>
      if items.isEmpty then "---\n[]\n"
      else "---\n" ++ Yaml.inBlock 0 (Yaml.itemLines 0 items) ++ "\n"
  | record entries =>
      if entries.isEmpty then "---\n\x7b\x7d\n"
      else "---\n" ++ Yaml.inBlock 0 (Yaml.entryLines 0 entries) ++ "\n"
  | d => "---\n" ++ String.ofList ((Yaml.value true 0 d).toList.drop 1) ++ "\n"

end Document
end LogicalNet
