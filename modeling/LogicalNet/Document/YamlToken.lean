import LogicalNet.Document.YamlScalar

/-!
# Tokens of YAML

The text is cut into scalars, the marks of flow collections, the dashes and colons
of blocks, and the markers around a document.  Blocks have no marks of their own:
a token further right than all open blocks opens one, and a token further left ends
those it is left of.

Whether a scalar or a flow collection is a name shows only at the colon behind it.
Until then it is a candidate, one for each open flow collection and one outside all;
at the colon `name` is put in before it.  A candidate lapses at the end of its line
and 1024 characters behind its start.

Anchors, aliases, tags, directives and block scalars are refused.
-/

namespace LogicalNet
namespace Document
namespace Yaml

inductive Token where
  | scalar (value : Document)
  /-- The node that follows is a name. -/
  | name
  | colon
  | dash
  | comma
  | openList
  | closeList
  | openRecord
  | closeRecord
  | beginList
  | beginRecord
  | endBlock
  | startMarker
  | endMarker

/-- A node that may turn out to be a name. -/
structure Candidate where
  place : Place
  /-- How many tokens stand before it. -/
  index : Nat
  /-- It has to turn out to be a name. -/
  required : Bool

def candidateLength : Nat := 1024

def greatestFlowDepth : Nat := 255

def Candidate.lapses (k : Candidate) (p : Place) : Bool :=
  k.place.line < p.line || k.place.index + candidateLength < p.index

/-- How far the text has been cut. -/
structure Scan where
  cursor : Cursor
  tokens : Array Token
  /-- The columns of the open blocks, the innermost first. -/
  columns : List Nat
  candidate : Option Candidate
  /-- The candidates outside the open flow collections, the innermost first. -/
  outside : List (Option Candidate)
  /-- Whether a name or a block may start here. -/
  nameAllowed : Bool
  /-- Where the last quoted scalar ended; a colon right there needs no blank behind it. -/
  quotedEnd : Nat

namespace Scan

def start (text : List Char) : Scan :=
  ⟨⟨.start, text⟩, #[], [], none, [], true, 0⟩

def inFlow (s : Scan) : Bool :=
  !s.outside.isEmpty

/-! ## Candidates -/

/-- Gives up the candidate, unless it is required. -/
def dropCandidate? (s : Scan) : Option Scan :=
  match s.candidate with
  | some k => if k.required then none else some { s with candidate := none }
  | none => some s

/-- The candidate if it has not lapsed; no required one lapses. -/
def keep? (p : Place) : Option Candidate → Option (Option Candidate)
  | some k => if k.lapses p then (if k.required then none else some none) else some (some k)
  | none => some none

def dropLapsed? (s : Scan) : Option Scan := do
  let candidate ← keep? s.cursor.place s.candidate
  let outside ← s.outside.mapM (keep? s.cursor.place)
  return { s with candidate, outside }

/-- Makes the token that comes next the candidate.  In a flow collection, one in the column of the
block around it is required. -/
def setCandidate? (s : Scan) : Option Scan :=
  if s.nameAllowed then do
    let s ← s.dropCandidate?
    let required := s.inFlow && s.columns.head? == some s.cursor.column
    return { s with candidate := some ⟨s.cursor.place, s.tokens.size, required⟩ }
  else
    some s

/-! ## Blocks -/

/-- Opens a block before the token at the given index, if the column is right of all others. -/
def openBlock (token : Token) (column index : Nat) (s : Scan) : Scan :=
  if !s.inFlow && s.columns.head?.all (· < column) then
    { s with
      tokens := s.tokens.insertIdxIfInBounds index token
      columns := column :: s.columns }
  else
    s

/-- Ends the blocks that `leaves` says to, innermost first. -/
def endBlocks (leaves : Nat → Bool) (s : Scan) : Scan :=
  if s.inFlow then
    s
  else
    let ended := s.columns.takeWhile leaves
    { s with
      tokens := s.tokens ++ Array.replicate ended.length Token.endBlock
      columns := s.columns.dropWhile leaves }

/-! ## Between tokens -/

/-- Passes blanks, line breaks and comments, and tells whether a name may start behind them.  A tab
where a name may start is no blank. -/
def skipBlanks (inFlow : Bool) : Bool → Bool → Place → List Char → Bool × Cursor
  | _, allowed, p, [] => (allowed, ⟨p, []⟩)
  | comment, allowed, p, c :: rest =>
      if isBreak c then
        skipBlanks inFlow false (allowed || !inFlow) (p.after c) rest
      else if comment || c == ' ' || (c == '\t' && (inFlow || !allowed)) then
        skipBlanks inFlow comment allowed (p.after c) rest
      else if c == '#' then
        skipBlanks inFlow true allowed (p.after c) rest
      else
        (allowed, ⟨p, c :: rest⟩)

/-- Goes on to the next token: what lies before it, and what ends there. -/
def settle? (s : Scan) : Option Scan :=
  let r := skipBlanks s.inFlow false s.nameAllowed s.cursor.place s.cursor.rest
  let s := { s with nameAllowed := r.1, cursor := r.2 }
  s.dropLapsed?.map fun s => s.endBlocks (s.cursor.column < ·)

/-! ## Single tokens -/

/-- Takes a token of the given length, and says whether a name may start behind it. -/
def take (token : Token) (length : Nat) (nameAllowed : Bool) (s : Scan) : Scan :=
  { s with
    tokens := s.tokens.push token
    cursor := s.cursor.advance length
    nameAllowed }

def marker? (token : Token) (s : Scan) : Option Scan :=
  ((s.endBlocks fun _ => true).dropCandidate?).map (take token 3 false)

def openFlow? (token : Token) (s : Scan) : Option Scan := do
  let s ← s.setCandidate?
  if s.outside.length < greatestFlowDepth then
    return { take token 1 true s with candidate := none, outside := s.candidate :: s.outside }
  else
    none

def closeFlow? (token : Token) (s : Scan) : Option Scan := do
  let s ← s.dropCandidate?
  match s.outside with
  | k :: rest => return { take token 1 false s with candidate := k, outside := rest }
  | [] => return take token 1 false s

def comma? (s : Scan) : Option Scan :=
  s.dropCandidate?.map (take .comma 1 true)

/-- A dash opens an item, outside flow collections only. -/
def dash? (s : Scan) : Option Scan :=
  if s.inFlow || !s.nameAllowed then
    none
  else
    let s := s.openBlock .beginList s.cursor.column s.tokens.size
    s.dropCandidate?.map (take .dash 1 true)

/-- A question mark says that a name follows, whatever it looks like. -/
def question? (s : Scan) : Option Scan :=
  if !s.inFlow && !s.nameAllowed then
    none
  else
    let s := s.openBlock .beginRecord s.cursor.column s.tokens.size
    s.dropCandidate?.map (take .name 1 !s.inFlow)

/-- A colon makes a name of the candidate.  Without one it stands behind a marked name, or the name
is left out. -/
def colon? (s : Scan) : Option Scan :=
  match s.candidate with
  | some k =>
      let s := { s with tokens := s.tokens.insertIdxIfInBounds k.index .name, candidate := none }
      some (take .colon 1 false (s.openBlock .beginRecord k.place.column k.index))
  | none =>
      if s.inFlow then some (take .colon 1 false s)
      else if s.nameAllowed then
        some (take .colon 1 true (s.openBlock .beginRecord s.cursor.column s.tokens.size))
      else none

def quoted? (s : Scan) : Option Scan := do
  let s ← s.setCandidate?
  let (chars, behind) ← readQuoted? s.cursor
  return { s with
    tokens := s.tokens.push (.scalar (text (String.ofList chars)))
    cursor := behind
    nameAllowed := false
    quotedEnd := behind.place.index }

/-- A plain scalar; when line breaks follow its last word, a name may start behind it. -/
def plain? (s : Scan) : Option Scan := do
  let s ← s.setCandidate?
  let least := match s.columns with
    | column :: _ => column + 1
    | [] => 0
  let scalar ← readPlain? s.inFlow least (s.cursor.rest.length + 1) s.cursor
  return { s with
    tokens := s.tokens.push (.scalar (plain (String.ofList scalar.chars)))
    cursor := scalar.behind
    nameAllowed := scalar.broken }

/-- Whether the colon at the cursor stands behind a name. -/
def atColon (s : Scan) (behind : List Char) : Bool :=
  atBlank behind ||
    (s.inFlow && (atFlowMark behind || s.cursor.place.index == s.quotedEnd))

/-- Characters that start no plain scalar. -/
def reserved : List Char :=
  ['&', '*', '!', '%', '@', Char.ofNat 0x60]

/-- The token at the cursor. -/
def token? (s : Scan) : Option Scan :=
  match s.cursor.rest with
  | [] => none
  | c :: behind =>
      if s.cursor.atMarker then marker? (if c == '-' then .startMarker else .endMarker) s
      else if c == '[' then openFlow? .openList s
      else if c == '{' then openFlow? .openRecord s
      else if c == ']' then closeFlow? .closeList s
      else if c == '}' then closeFlow? .closeRecord s
      else if c == ',' then comma? s
      else if c == '-' && atBlank behind then dash? s
      else if c == '?' && atBlank behind then question? s
      else if c == ':' && s.atColon behind then colon? s
      else if c == '"' || c == '\'' then quoted? s
      else if reserved.contains c || (!s.inFlow && (c == '|' || c == '>')) then none
      else plain? s

/-! ## Whole texts -/

/-- The tokens up to the end of the text, as many as the fuel allows. -/
def run? : Nat → Scan → Option (List Token)
  | 0, _ => none
  | fuel + 1, s =>
      match s.settle? with
      | none => none
      | some s =>
          if s.cursor.rest.isEmpty then
            ((s.endBlocks fun _ => true).dropCandidate?).map fun s => s.tokens.toList
          else
            s.token?.bind (run? fuel)

end Scan

/-- The tokens of a text, which ends at the first character of code zero. -/
def tokens? (s : List Char) : Option (List Token) :=
  let text := s.takeWhile fun c => c.toNat != 0
  Scan.run? (text.length + 1) (.start text)

end Yaml
end Document
end LogicalNet
