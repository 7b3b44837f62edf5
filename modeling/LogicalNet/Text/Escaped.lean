import LogicalNet.Text.InvisibleRanges
import LogicalNet.Text.LetterCase
import LogicalNet.Text.Numeral

/-!
# Escaped text

A text between double quotes in which nothing is invisible: quotes, backslashes and
the usual controls have their short escapes, and any other character that does not
show is given by its number.
-/

namespace LogicalNet
namespace Text

def isInvisible (c : Char) : Bool :=
  inRanges unprinted c || (0x300 ≤ c.toNat && inRanges marks c)

def escapeInvisible (c : Char) : String :=
  if c == '"' then "\\\""
  else if c == '\\' then "\\\\"
  else if c == '\n' then "\\n"
  else if c == '\r' then "\\r"
  else if c == '\t' then "\\t"
  else if c.toNat == 0 then "\\0"
  else if isInvisible c then "\\u\x7b" ++ hexShort c.toNat ++ "\x7d"
  else c.toString

def escaped (s : String) : String :=
  "\"" ++ String.join (s.toList.map escapeInvisible) ++ "\""

end Text
end LogicalNet
