import LogicalNet.Document.Plain
import LogicalNet.Document.YamlToken

/-!
# Reading YAML

A document is made from the tokens of its text.  A node is a scalar, a list or a
record; where one is missing, the plain scalar `~` stands.  The items of a list
behind a name may stand in the column of the name, without a block of their own.

One document is read, with or without its markers.  A record with a list or a record
for a name is unreadable.

Every function that calls itself takes an amount of fuel, given by the number of
tokens.
-/

namespace LogicalNet
namespace Document
namespace Yaml

/-- What stands where a node is missing. -/
def missing : Document := plain "~"

def named? (e : Document × Document) : Option (String × Document) :=
  e.1.scalarText?.map fun name => (name, e.2)

/-- A record, if every entry has a text for a name. -/
def ofEntries (entries : List (Document × Document)) : Document :=
  match entries.mapM named? with
  | some entries => record entries
  | none => unreadable

/-! ## Where nodes are missing -/

def endsEntry : List Token → Bool
  | .name :: _ => true
  | .colon :: _ => true
  | .endBlock :: _ => true
  | _ => false

def endsItem : List Token → Bool
  | .dash :: _ => true
  | .endBlock :: _ => true
  | _ => false

def endsFlowItem : List Token → Bool
  | .comma :: _ => true
  | .closeList :: _ => true
  | _ => false

def endsFlowEntry : List Token → Bool
  | .comma :: _ => true
  | .closeRecord :: _ => true
  | _ => false

def atColon : List Token → Bool
  | .colon :: _ => true
  | _ => false

def atCloseList : List Token → Bool
  | .closeList :: _ => true
  | _ => false

def atCloseRecord : List Token → Bool
  | .closeRecord :: _ => true
  | _ => false

/-- The tokens of the next item or entry of a flow collection: a comma stands before all but the
first. -/
def passComma? (first : Bool) (tokens : List Token) : Option (List Token) :=
  if first then
    some tokens
  else
    match tokens with
    | .comma :: rest => some rest
    | _ => none

/-! ## Nodes -/

mutual

/-- A node.  `block` says whether a block may start here, and `bare` whether items without a block
of their own may. -/
def readNode? : Nat → Bool → Bool → List Token → Option (Document × List Token)
  | 0, _, _, _ => none
  | fuel + 1, block, bare, tokens =>
      match tokens with
      | .scalar d :: rest => some (d, rest)
      | .openList :: rest => (readFlowItems? fuel true rest).map fun r => (list r.1, r.2)
      | .openRecord :: rest => (readFlowEntries? fuel true rest).map fun r => (ofEntries r.1, r.2)
      | .dash :: _ =>
          if bare then (readBareItems? fuel tokens).map fun r => (list r.1, r.2) else none
      | .beginList :: rest =>
          if block then (readItems? fuel rest).map fun r => (list r.1, r.2) else none
      | .beginRecord :: rest =>
          if block then (readEntries? fuel rest).map fun r => (ofEntries r.1, r.2) else none
      | _ => none

/-- The items of a block. -/
def readItems? : Nat → List Token → Option (List Document × List Token)
  | 0, _ => none
  | fuel + 1, tokens =>
      match tokens with
      | .endBlock :: rest => some ([], rest)
      | .dash :: rest => do
          let (d, rest) ←
            if endsItem rest then some (missing, rest) else readNode? fuel true false rest
          let (items, rest) ← readItems? fuel rest
          return (d :: items, rest)
      | _ => none

/-- Items without a block of their own, up to a token that is no dash. -/
def readBareItems? : Nat → List Token → Option (List Document × List Token)
  | 0, _ => none
  | fuel + 1, tokens =>
      match tokens with
      | .dash :: rest => do
          let (d, rest) ←
            if endsItem rest || endsEntry rest then some (missing, rest)
            else readNode? fuel true false rest
          let (items, rest) ← readBareItems? fuel rest
          return (d :: items, rest)
      | _ => some ([], tokens)

/-- The entries of a block. -/
def readEntries? : Nat → List Token → Option (List (Document × Document) × List Token)
  | 0, _ => none
  | fuel + 1, tokens =>
      match tokens with
      | .endBlock :: rest => some ([], rest)
      | .name :: rest => do
          let (name, rest) ←
            if endsEntry rest then some (missing, rest) else readNode? fuel true true rest
          let (d, rest) ← readEntryValue? fuel rest
          let (entries, rest) ← readEntries? fuel rest
          return ((name, d) :: entries, rest)
      | .colon :: _ => do
          let (d, rest) ← readEntryValue? fuel tokens
          let (entries, rest) ← readEntries? fuel rest
          return ((missing, d) :: entries, rest)
      | _ => none

def readEntryValue? : Nat → List Token → Option (Document × List Token)
  | 0, _ => none
  | fuel + 1, tokens =>
      match tokens with
      | .colon :: rest =>
          if endsEntry rest then some (missing, rest) else readNode? fuel true true rest
      | _ => some (missing, tokens)

/-- The items of a flow list, up to its closing bracket.  An item with a name is a record of one
entry. -/
def readFlowItems? : Nat → Bool → List Token → Option (List Document × List Token)
  | 0, _, _ => none
  | fuel + 1, first, tokens =>
      if atCloseList tokens then
        some ([], tokens.tail)
      else do
        let tokens ← passComma? first tokens
        match tokens with
        | .closeList :: rest => return ([], rest)
        | .name :: rest =>
            let (name, rest) ←
              if atColon rest || endsFlowItem rest then some (missing, rest.tail)
              else readNode? fuel false false rest
            let (d, rest) ← readFlowValue? fuel rest
            let (items, rest) ← readFlowItems? fuel false rest
            return (ofEntries [(name, d)] :: items, rest)
        | _ =>
            let (d, rest) ← readNode? fuel false false tokens
            let (items, rest) ← readFlowItems? fuel false rest
            return (d :: items, rest)

/-- The entries of a flow record, up to its closing brace.  One without a colon has no value. -/
def readFlowEntries? :
    Nat → Bool → List Token → Option (List (Document × Document) × List Token)
  | 0, _, _ => none
  | fuel + 1, first, tokens =>
      if atCloseRecord tokens then
        some ([], tokens.tail)
      else do
        let tokens ← passComma? first tokens
        match tokens with
        | .closeRecord :: rest => return ([], rest)
        | .name :: rest =>
            let (name, rest) ←
              if atColon rest || endsFlowEntry rest then some (missing, rest)
              else readNode? fuel false false rest
            let (d, rest) ← readFlowValue? fuel rest
            let (entries, rest) ← readFlowEntries? fuel false rest
            return ((name, d) :: entries, rest)
        | .colon :: _ =>
            let (d, rest) ← readFlowValue? fuel tokens
            let (entries, rest) ← readFlowEntries? fuel false rest
            return ((missing, d) :: entries, rest)
        | _ =>
            let (name, rest) ← readNode? fuel false false tokens
            let (entries, rest) ← readFlowEntries? fuel false rest
            return ((name, missing) :: entries, rest)

def readFlowValue? : Nat → List Token → Option (Document × List Token)
  | 0, _ => none
  | fuel + 1, tokens =>
      match tokens with
      | .colon :: rest =>
          if endsFlowItem rest || endsFlowEntry rest then some (missing, rest)
          else readNode? fuel false false rest
      | _ => some (missing, tokens)

end

/-! ## Documents -/

def isEndMarker : Token → Bool
  | .endMarker => true
  | _ => false

/-- Nothing but the end or another marker follows a start marker. -/
def endsDocument : List Token → Bool
  | [] => true
  | .startMarker :: _ => true
  | .endMarker :: _ => true
  | _ => false

/-- The document that the tokens make up. -/
def ofTokens? (tokens : List Token) : Option Document := do
  let fuel := 4 * tokens.length + 4
  let (d, rest) ←
    match tokens with
    | .startMarker :: rest =>
        if endsDocument rest then some (missing, rest) else readNode? fuel true false rest
    | _ => readNode? fuel true false tokens
  if rest.all isEndMarker then return d else none

end Yaml

/-- The document of a YAML text, `none` when it is malformed or holds no document. -/
def ofYamlChars? (text : List Char) : Option Document :=
  (Yaml.tokens? text).bind Yaml.ofTokens?

def ofYaml? (s : String) : Option Document :=
  ofYamlChars? s.toList

end Document
end LogicalNet
