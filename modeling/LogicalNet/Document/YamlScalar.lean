import LogicalNet.Document.Basic
import LogicalNet.Text.Numeral

/-!
# Scalars of YAML

Plain and quoted scalars, which may run over several lines: one line break between
two words stands for a blank, each further one for itself.  Positions are kept with
the text, since the columns decide where a plain scalar ends and a line that starts
with a document marker ends neither kind.

A carriage return breaks the line of a scalar too, but lines and columns are counted
by line feeds.
-/

namespace LogicalNet
namespace Document
namespace Yaml

/-! ## Positions -/

structure Place where
  index : Nat
  line : Nat
  column : Nat

def Place.start : Place := ⟨0, 0, 0⟩

def Place.after (p : Place) (c : Char) : Place :=
  if c == '\n' then ⟨p.index + 1, p.line + 1, 0⟩ else ⟨p.index + 1, p.line, p.column + 1⟩

/-- The rest of a text and where it starts. -/
structure Cursor where
  place : Place
  rest : List Char

namespace Cursor

def advance (c : Cursor) (count : Nat) : Cursor :=
  ⟨(c.rest.take count).foldl Place.after c.place, c.rest.drop count⟩

def column (c : Cursor) : Nat :=
  c.place.column

end Cursor

/-! ## Characters -/

def isSpace (c : Char) : Bool :=
  c == ' ' || c == '\t'

def isBreak (c : Char) : Bool :=
  c == '\n' || c == '\r'

/-- A blank, a line break or the end of the text. -/
def atBlank : List Char → Bool
  | [] => true
  | c :: _ => isSpace c || isBreak c

def atBreak (s : List Char) : Bool :=
  s.head?.any isBreak

def isFlowMark (c : Char) : Bool :=
  c == ',' || c == '[' || c == ']' || c == '{' || c == '}'

def atFlowMark (s : List Char) : Bool :=
  s.head?.any isFlowMark

def startsMarker : List Char → Bool
  | '-' :: '-' :: '-' :: rest => atBlank rest
  | '.' :: '.' :: '.' :: rest => atBlank rest
  | _ => false

/-- A document marker stands at the start of a line. -/
def Cursor.atMarker (c : Cursor) : Bool :=
  c.column == 0 && startsMarker c.rest

/-! ## Gaps between words -/

/-- What stands between two words of a scalar. -/
structure Gap where
  blanks : List Char
  breaks : Nat

namespace Gap

def empty : Gap := ⟨[], 0⟩

def withBlank (c : Char) (g : Gap) : Gap := { g with blanks := c :: g.blanks }

def withBreak (g : Gap) : Gap := { g with breaks := g.breaks + 1 }

/-- Blanks are kept within a line only; of several line breaks the first is left out. -/
def text (g : Gap) : List Char :=
  match g.breaks with
  | 0 => g.blanks
  | 1 => [' ']
  | n + 2 => List.replicate (n + 1) '\n'

/-- The text behind a line break that does not count. -/
def textBehindBreak (g : Gap) : List Char :=
  List.replicate g.breaks '\n'

end Gap

/-- The gap at the start of the text.  Behind a line break (`broken`) no tab may stand left of the
column `least`. -/
def readGap? (least : Nat) : Bool → Place → List Char → Option (Gap × Cursor)
  | _, p, [] => some (.empty, ⟨p, []⟩)
  | _, p, '\r' :: '\n' :: rest =>
      (readGap? least true ((p.after '\r').after '\n') rest).map fun r => (r.1.withBreak, r.2)
  | broken, p, c :: rest =>
      if isBreak c then
        (readGap? least true (p.after c) rest).map fun r => (r.1.withBreak, r.2)
      else if isSpace c then
        if broken && c == '\t' && p.column < least then none
        else (readGap? least broken (p.after c) rest).map fun r => (r.1.withBlank c, r.2)
      else
        some (.empty, ⟨p, c :: rest⟩)

/-! ## Plain scalars -/

/-- Where a word of a plain scalar ends; a colon ends it before a blank. -/
def endsWord (inFlow : Bool) : List Char → Bool
  | [] => true
  | ':' :: rest => atBlank rest || (inFlow && atFlowMark rest)
  | c :: _ => isSpace c || isBreak c || (inFlow && isFlowMark c)

def takeWord (inFlow : Bool) : List Char → List Char
  | [] => []
  | c :: rest => if endsWord inFlow (c :: rest) then [] else c :: takeWord inFlow rest

/-- A word is cut off the text without loss. -/
theorem takeWord_append_drop (inFlow : Bool) (s : List Char) :
    takeWord inFlow s ++ s.drop (takeWord inFlow s).length = s := by
  induction s with
  | nil =>
      rfl
  | cons c rest ih =>
      cases h : endsWord inFlow (c :: rest) with
      | true =>
          simp [takeWord, h]
      | false =>
          simp [takeWord, h, ih]

/-- What follows a word ends it. -/
theorem endsWord_drop_takeWord (inFlow : Bool) (s : List Char) :
    endsWord inFlow (s.drop (takeWord inFlow s).length) = true := by
  induction s with
  | nil =>
      rfl
  | cons c rest ih =>
      cases h : endsWord inFlow (c :: rest) with
      | true =>
          simp [takeWord, h]
      | false =>
          simpa [takeWord, h] using ih

/-- A plain scalar, and whether line breaks were passed behind its last word. -/
structure PlainScalar where
  chars : List Char
  broken : Bool
  behind : Cursor

/-- The plain scalar at the cursor.  Outside flow collections its lines start at the column `least`
or further right. -/
def readPlain? (inFlow : Bool) (least : Nat) : Nat → Cursor → Option PlainScalar
  | 0, _ => none
  | fuel + 1, c =>
      if c.atMarker || c.rest.head? == some '#' then
        some ⟨[], false, c⟩
      else
        let word := takeWord inFlow c.rest
        let behind := c.advance word.length
        if behind.rest.isEmpty || !atBlank behind.rest then
          some ⟨word, false, behind⟩
        else
          match readGap? least false behind.place behind.rest with
          | none => none
          | some (gap, next) =>
              if !inFlow && next.column < least then
                some ⟨word, 0 < gap.breaks, next⟩
              else
                match readPlain? inFlow least fuel next with
                | none => none
                | some more =>
                    if more.chars.isEmpty then some ⟨word, 0 < gap.breaks, next⟩
                    else some { more with chars := word ++ gap.text ++ more.chars }

/-! ## Quoted scalars -/

/-- A character by its code in the given number of hexadecimal digits, and how long it is. -/
def readCode? (width : Nat) (s : List Char) : Option (Char × Nat) :=
  if (s.take width).length < width then
    none
  else
    match Text.digitsValue? 16 0 (s.take width) with
    | some n => if n.isValidChar then some (Char.ofNat n, width + 1) else none
    | none => none

/-- The character of an escape, given what follows its backslash, and how long that is. -/
def readEscape? : List Char → Option (Char × Nat)
  | '0' :: _ => some (Char.ofNat 0, 1)
  | 'a' :: _ => some (Char.ofNat 7, 1)
  | 'b' :: _ => some (Char.ofNat 8, 1)
  | 't' :: _ => some ('\t', 1)
  | '\t' :: _ => some ('\t', 1)
  | 'n' :: _ => some ('\n', 1)
  | 'v' :: _ => some (Char.ofNat 11, 1)
  | 'f' :: _ => some (Char.ofNat 12, 1)
  | 'r' :: _ => some (Char.ofNat 13, 1)
  | 'e' :: _ => some (Char.ofNat 27, 1)
  | ' ' :: _ => some (' ', 1)
  | '"' :: _ => some ('"', 1)
  | '\'' :: _ => some ('\'', 1)
  | '\\' :: _ => some ('\\', 1)
  | 'N' :: _ => some (Char.ofNat 0x85, 1)
  | '_' :: _ => some (Char.ofNat 0xA0, 1)
  | 'L' :: _ => some (Char.ofNat 0x2028, 1)
  | 'P' :: _ => some (Char.ofNat 0x2029, 1)
  | 'x' :: rest => readCode? 2 rest
  | 'u' :: rest => readCode? 4 rest
  | 'U' :: rest => readCode? 8 rest
  | _ => none

/-- How long the line break at the start of the text is. -/
def breakLength : List Char → Nat
  | '\r' :: '\n' :: _ => 2
  | _ => 1

/-- A part of a quoted scalar. -/
inductive Piece where
  | close
  | chars (cs : List Char) (behind : Cursor)

/-- The next part of a scalar in double quotes: an escape, a gap, a character or its end. -/
def nextDouble? (c : Cursor) : Option Piece :=
  match c.rest with
  | '"' :: _ => some .close
  | '\\' :: rest =>
      if atBreak rest then
        let behind := c.advance (breakLength rest + 1)
        (readGap? 0 true behind.place behind.rest).map fun r => .chars r.1.textBehindBreak r.2
      else
        (readEscape? rest).map fun e => .chars [e.1] (c.advance (e.2 + 1))
  | [] => none
  | d :: _ =>
      if atBlank c.rest then
        (readGap? 0 false c.place c.rest).map fun r => .chars r.1.text r.2
      else
        some (.chars [d] (c.advance 1))

/-- The next part of a scalar in single quotes, where a quote is written twice. -/
def nextSingle? (c : Cursor) : Option Piece :=
  match c.rest with
  | '\'' :: '\'' :: _ => some (.chars ['\''] (c.advance 2))
  | '\'' :: _ => some .close
  | [] => none
  | d :: _ =>
      if atBlank c.rest then
        (readGap? 0 false c.place c.rest).map fun r => .chars r.1.text r.2
      else
        some (.chars [d] (c.advance 1))

/-- The parts of a quoted scalar up to its closing quote, and the cursor behind it.  No line of it
starts with a document marker. -/
def readPieces? (next? : Cursor → Option Piece) : Nat → Cursor → Option (List Char × Cursor)
  | 0, _ => none
  | fuel + 1, c =>
      if c.atMarker then
        none
      else
        match next? c with
        | none => none
        | some .close => some ([], c.advance 1)
        | some (.chars cs behind) =>
            (readPieces? next? fuel behind).map fun r => (cs ++ r.1, r.2)

/-- The quoted scalar at the cursor. -/
def readQuoted? (c : Cursor) : Option (List Char × Cursor) :=
  let next? := if c.rest.head? == some '"' then nextDouble? else nextSingle?
  readPieces? next? (c.rest.length + 1) (c.advance 1)

end Yaml
end Document
end LogicalNet
