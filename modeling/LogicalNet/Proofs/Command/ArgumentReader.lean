import LogicalNet.Command.Arguments
import LogicalNet.Proofs.Address.RoundTrip
import LogicalNet.Proofs.Row.ColumnKinds

/-!
# Reading of column values

A reader of the values of database commands that goes by the kind of the column.  A
text stands in quotes and ends at the first quote without a backslash in front; an
integer, a boolean or an identifier is a bare word and ends at a delimiter.  Sets stand
in brackets and maps in braces, with commas between their parts.

Every value of a kind is read back from what is written for it, whatever comes behind
it, so that a text ends nowhere but at its own closing quote.
-/

namespace LogicalNet

/-! ## The reader -/

/-- A text of hexadecimal digits and dashes, at least one: a set of nothing but an empty word could
not be told from the empty set. -/
def IsUuid (s : String) : Prop :=
  s.toList ≠ [] ∧ s.toList.all (fun c => c == '-' || (Text.digitValue? 16 c).isSome) = true

instance (s : String) : Decidable (IsUuid s) :=
  inferInstanceAs (Decidable (_ ∧ _))

namespace Command

/-! ### Atoms -/

/-- The character that stands behind a backslash for another. -/
def unescaped? : Char → Option Char
  | '"' => some '"'
  | '\\' => some '\\'
  | 'n' => some '\n'
  | _ => none

/-- The text up to the first quote without a backslash in front, and what follows the quote. -/
def readQuoted? : List Char → Option (List Char × List Char)
  | [] => none
  | c :: rest =>
      if c = '"' then
        some ([], rest)
      else if c = '\\' then
        match rest with
        | [] => none
        | d :: rest =>
            match unescaped? d, readQuoted? rest with
            | some e, some p => some (e :: p.1, p.2)
            | _, _ => none
      else
        (readQuoted? rest).map fun p => (c :: p.1, p.2)

/-- Where a bare word ends. -/
def isDelimiter (c : Char) : Bool :=
  c == ',' || c == ']' || c == '}' || c == '='

/-- The characters in front of the first at which a word ends, and what follows from there. -/
def readWord (ends : Char → Bool) (s : List Char) : List Char × List Char :=
  (s.takeWhile (!ends ·), s.dropWhile (!ends ·))

def readInteger? : List Char → Option Int
  | '-' :: digits => (Text.readDigits? 10 digits).map fun n : Nat => -(n : Int)
  | digits => (Text.readDigits? 10 digits).map fun n : Nat => (n : Int)

/-- The atom that a bare word stands for; no text is bare. -/
def ofWord? (kind : AtomKind) (word : List Char) : Option Value :=
  match kind with
  | .text => none
  | .integer => (readInteger? word).map .integer
  | .boolean =>
      if String.ofList word = "true" then some (.boolean true)
      else if String.ofList word = "false" then some (.boolean false)
      else none
  | .uuid => if IsUuid (String.ofList word) then some (.uuid (String.ofList word)) else none

def readAtom? (kind : AtomKind) (s : List Char) : Option (Value × List Char) :=
  match kind, s with
  | .text, '"' :: rest => (readQuoted? rest).map fun p => (.text (String.ofList p.1), p.2)
  | kind, s =>
      let p := readWord isDelimiter s
      (ofWord? kind p.1).map fun v => (v, p.2)

/-! ### Sets and maps -/

section Parts

variable {α : Type} (read? : List Char → Option (α × List Char)) (closing : Char)

/-- At least one part, with commas between the parts, up to the closing character.  Every part takes
a character of its own, so no text has more parts than characters. -/
def readParts? : Nat → List Char → Option (List α × List Char)
  | 0, _ => none
  | more + 1, s =>
      match read? s with
      | none => none
      | some (_, []) => none
      | some (a, c :: rest) =>
          if c = closing then some ([a], rest)
          else if c = ',' then (readParts? more rest).map fun p => (a :: p.1, p.2)
          else none

/-- Any number of parts. -/
def readBetween? : List Char → Option (List α × List Char)
  | [] => none
  | c :: rest =>
      if c = closing then some ([], rest)
      else readParts? read? closing (c :: rest).length (c :: rest)

end Parts

/-- A key with its value. -/
def readPair? (key value : AtomKind) (s : List Char) : Option ((Value × Value) × List Char) :=
  match readAtom? key s with
  | some (k, '=' :: rest) => (readAtom? value rest).map fun p => ((k, p.1), p.2)
  | _ => none

def readValue? (kind : ColumnKind) (s : List Char) : Option (Value × List Char) :=
  match kind, s with
  | .one kind, s => readAtom? kind s
  | .set kind, '[' :: rest =>
      (readBetween? (readAtom? kind) ']' rest).map fun p => (.set p.1, p.2)
  | .map key value, '{' :: rest =>
      (readBetween? (readPair? key value) '}' rest).map fun p => (.map p.1, p.2)
  | _, _ => none

/-! ## Atoms read back -/

/-- What follows an atom. -/
def Delimited (rest : List Char) : Prop :=
  ∀ c ∈ rest.head?, isDelimiter c = true

theorem Delimited.nil : Delimited [] := by
  intro c hc
  cases hc

theorem Delimited.cons {c : Char} (h : isDelimiter c = true) (rest : List Char) :
    Delimited (c :: rest) := by
  intro d hd
  cases hd
  exact h

section Quoted

variable {c d e : Char} {rest : List Char}

theorem readQuoted?_quote (rest : List Char) : readQuoted? ('"' :: rest) = some ([], rest) := by
  rw [readQuoted?.eq_def]
  rfl

theorem readQuoted?_escape (h : unescaped? d = some e) (rest : List Char) :
    readQuoted? ('\\' :: d :: rest) = (readQuoted? rest).map fun p => (e :: p.1, p.2) := by
  rw [readQuoted?.eq_def]
  simp only [h]
  cases readQuoted? rest <;> rfl

theorem readQuoted?_other (hquote : c ≠ '"') (hbackslash : c ≠ '\\') (rest : List Char) :
    readQuoted? (c :: rest) = (readQuoted? rest).map fun p => (c :: p.1, p.2) := by
  rw [readQuoted?.eq_def]
  simp only [if_neg hquote, if_neg hbackslash]

end Quoted

/-- A quoted text ends at its own closing quote, as every quote inside has a backslash in front. -/
theorem readQuoted?_append (s rest : List Char) :
    readQuoted? (s.flatMap Value.escapeQuoted ++ '"' :: rest) = some (s, rest) := by
  induction s with
  | nil =>
      exact readQuoted?_quote rest
  | cons c s ih =>
      have hescape : ∀ d e, unescaped? d = some e →
          readQuoted? ('\\' :: d :: (s.flatMap Value.escapeQuoted ++ '"' :: rest)) =
            some (e :: s, rest) := by
        intro d e hd
        rw [readQuoted?_escape hd, ih, Option.map_some]
      rw [List.flatMap_cons, List.append_assoc]
      by_cases hquote : c = '"'
      · subst hquote
        exact hescape _ _ rfl
      by_cases hbackslash : c = '\\'
      · subst hbackslash
        exact hescape _ _ rfl
      by_cases hline : c = '\n'
      · subst hline
        exact hescape _ _ rfl
      have hplain : Value.escapeQuoted c = [c] := by
        simp only [Value.escapeQuoted, if_neg hquote, if_neg hbackslash, if_neg hline]
      rw [hplain, List.singleton_append, readQuoted?_other hquote hbackslash, ih,
        Option.map_some]

/-! ### Words -/

theorem readWord_append {ends : Char → Bool} {word rest : List Char}
    (hword : ∀ c ∈ word, ends c = false) (hrest : ∀ c ∈ rest.head?, ends c = true) :
    readWord ends (word ++ rest) = (word, rest) := by
  have hall : ∀ c ∈ word, (!ends c) = true := by
    intro c hc
    simp [hword c hc]
  unfold readWord
  rw [List.takeWhile_append_of_pos hall, List.dropWhile_append_of_pos hall]
  cases rest with
  | nil =>
      simp
  | cons c rest =>
      have hc : ends c = true := hrest c rfl
      simp [hc]

/-- A bare word is not empty and ends at the first delimiter. -/
def IsWord (word : List Char) : Prop :=
  word ≠ [] ∧ ∀ c ∈ word, isDelimiter c = false

theorem isDelimiter_of_mem_decimalChars {n : Nat} {c : Char} (h : c ∈ Text.decimalChars n) :
    isDelimiter c = false := by
  have hnot : ∀ d, Text.digitValue? 10 d = none → c ≠ d := by
    intro d hd hcd
    subst hcd
    exact Text.not_mem_of_readDigits? hd (Text.readDigits?_decimalChars n) h
  simp [isDelimiter, hnot ',' (by decide), hnot ']' (by decide), hnot '}' (by decide),
    hnot '=' (by decide)]

theorem toList_signedDecimal (n : Int) :
    (Text.signedDecimal n).toList =
      (if n < 0 then ['-'] else []) ++ Text.decimalChars n.natAbs := by
  unfold Text.signedDecimal
  split <;> simp [Text.decimal]

theorem readInteger?_signedDecimal (n : Int) :
    readInteger? (Text.signedDecimal n).toList = some n := by
  have hdigits := Text.readDigits?_decimalChars n.natAbs
  rw [toList_signedDecimal]
  split
  · rename_i hneg
    have habs : -(n.natAbs : Int) = n := by omega
    rw [List.singleton_append, readInteger?, hdigits, Option.map_some, habs]
  · rename_i hneg
    have habs : (n.natAbs : Int) = n := by omega
    have hminus : ∀ digits, Text.decimalChars n.natAbs ≠ '-' :: digits := by
      intro digits h
      have hmem : '-' ∈ Text.decimalChars n.natAbs := by
        rw [h]
        exact List.mem_cons_self
      exact Text.not_mem_of_readDigits? (by decide) hdigits hmem
    rw [List.nil_append, readInteger?, hdigits, Option.map_some, habs]
    exact hminus

theorem isWord_signedDecimal (n : Int) : IsWord (Text.signedDecimal n).toList := by
  rw [toList_signedDecimal]
  refine ⟨by simp [Text.decimalChars, Nat.toDigits_ne_nil], ?_⟩
  intro c hc
  rcases List.mem_append.mp hc with hc | hc
  · have hminus : c = '-' := by
      split at hc
      · exact List.mem_singleton.mp hc
      · cases hc
    subst hminus
    rfl
  · exact isDelimiter_of_mem_decimalChars hc

theorem isWord_booleanText (b : Bool) : IsWord (Value.booleanText b).toList := by
  cases b <;> simp [IsWord, Value.booleanText, isDelimiter]

theorem isWord_of_isUuid {s : String} (h : IsUuid s) : IsWord s.toList := by
  refine ⟨h.1, fun c hc => ?_⟩
  have hnot : ∀ d, d ≠ '-' → (Text.digitValue? 16 d).isSome = false → c ≠ d := by
    intro d hdash hd hcd
    subst hcd
    have hcases : c = '-' ∨ (Text.digitValue? 16 c).isSome = true := by
      simpa using List.all_eq_true.mp h.2 c hc
    rcases hcases with hc | hc
    · exact hdash hc
    · rw [hd] at hc
      cases hc
  simp [isDelimiter, hnot ',' (by decide) (by decide), hnot ']' (by decide) (by decide),
    hnot '}' (by decide) (by decide), hnot '=' (by decide) (by decide)]

/-! ### Reading what is written -/

section Atoms

variable {kind : AtomKind} {v : Value}

theorem toList_command_text (s : String) :
    (Value.text s).command.toList = '"' :: (s.toList.flatMap Value.escapeQuoted ++ ['"']) := by
  simp [Value.command, Value.quoted, Value.quotedChars]

/-- The atoms but texts are bare words, and the word stands for the atom. -/
theorem isWord_command (h : kind.Holds IsUuid v) (hkind : kind ≠ .text) :
    IsWord v.command.toList ∧ ofWord? kind v.command.toList = some v := by
  cases h with
  | text s =>
      exact absurd rfl hkind
  | @integer n _ _ =>
      refine ⟨by simpa only [Value.command] using isWord_signedDecimal n, ?_⟩
      simp only [Value.command, ofWord?, readInteger?_signedDecimal, Option.map_some]
  | boolean b =>
      refine ⟨by simpa only [Value.command] using isWord_booleanText b, ?_⟩
      cases b <;> simp [Value.command, Value.booleanText, ofWord?]
  | @uuid s hs =>
      refine ⟨by simpa only [Value.command] using isWord_of_isUuid hs, ?_⟩
      simp only [Value.command, ofWord?, String.ofList_toList, if_pos hs]

theorem readAtom?_command (h : kind.Holds IsUuid v) {rest : List Char} (hrest : Delimited rest) :
    readAtom? kind (v.command.toList ++ rest) = some (v, rest) := by
  by_cases hkind : kind = .text
  · subst hkind
    cases h with
    | text s =>
        have hread := readQuoted?_append s.toList rest
        rw [toList_command_text, List.cons_append, List.append_assoc, List.singleton_append]
        simp only [readAtom?, hread, Option.map_some, String.ofList_toList]
  · rcases isWord_command h hkind with ⟨hword, hof⟩
    have hread : readAtom? kind (v.command.toList ++ rest) =
        (ofWord? kind (readWord isDelimiter (v.command.toList ++ rest)).1).map
          fun w => (w, (readWord isDelimiter (v.command.toList ++ rest)).2) := by
      cases kind with
      | text => exact absurd rfl hkind
      | integer | boolean | uuid => rfl
    rw [hread, readWord_append hword.2 hrest, hof, Option.map_some]

/-- No atom is mistaken for the end of a set or a map. -/
theorem head?_command (h : kind.Holds IsUuid v) :
    ∃ c s, v.command.toList = c :: s ∧ isDelimiter c = false := by
  by_cases hkind : kind = .text
  · subst hkind
    cases h with
    | text s =>
        exact ⟨_, _, toList_command_text s, rfl⟩
  · have hword := (isWord_command h hkind).1
    cases hlist : v.command.toList with
    | nil =>
        exact absurd hlist hword.1
    | cons c s =>
        refine ⟨c, s, rfl, hword.2 c ?_⟩
        rw [hlist]
        exact List.mem_cons_self

end Atoms

/-! ## Values read back -/

section Parts

variable {α : Type} {read? : List Char → Option (α × List Char)} {write : α → List Char}
  {closing : Char}

theorem readParts?_intercalate {parts : List α} (hne : parts ≠ [])
    (hread : ∀ a ∈ parts, ∀ rest, Delimited rest → read? (write a ++ rest) = some (a, rest))
    (hclosing : isDelimiter closing = true) (hcomma : closing ≠ ',') (rest : List Char) {more : Nat}
    (hmore : parts.length ≤ more) :
    readParts? read? closing more
        (List.intercalate [','] (parts.map write) ++ closing :: rest) = some (parts, rest) := by
  induction parts generalizing more with
  | nil =>
      exact absurd rfl hne
  | cons a parts ih =>
      cases more with
      | zero =>
          cases hmore
      | succ more =>
          have ha := hread a List.mem_cons_self
          cases parts with
          | nil =>
              rw [List.map_cons, List.map_nil, List.intercalate_singleton, readParts?,
                ha _ (.cons hclosing _)]
              simp
          | cons b parts =>
              have hlist : List.intercalate [','] ((a :: b :: parts).map write) ++ closing :: rest =
                  write a ++ ',' ::
                    (List.intercalate [','] ((b :: parts).map write) ++ closing :: rest) := by
                simp [List.intercalate_cons_cons]
              have hrest := ih (List.cons_ne_nil b parts)
                (fun a ha => hread a (List.mem_cons_of_mem _ ha)) (Nat.le_of_succ_le_succ hmore)
              rw [hlist, readParts?, ha _ (.cons rfl _)]
              simp only [if_neg hcomma.symm, if_true, hrest, Option.map_some]

theorem length_le_intercalate (parts : List (List Char)) (c : Char) (rest : List Char) :
    parts.length ≤ (List.intercalate [','] parts ++ c :: rest).length := by
  induction parts with
  | nil =>
      simp
  | cons a parts ih =>
      cases parts with
      | nil =>
          simp
          omega
      | cons b parts =>
          simp [List.intercalate_cons_cons] at ih ⊢
          omega

theorem readBetween?_intercalate {parts : List α}
    (hread : ∀ a ∈ parts, ∀ rest, Delimited rest → read? (write a ++ rest) = some (a, rest))
    (hhead : ∀ a ∈ parts, ∃ c s, write a = c :: s ∧ isDelimiter c = false)
    (hclosing : isDelimiter closing = true) (hcomma : closing ≠ ',') (rest : List Char) :
    readBetween? read? closing
        (List.intercalate [','] (parts.map write) ++ closing :: rest) = some (parts, rest) := by
  cases parts with
  | nil =>
      simp [readBetween?]
  | cons a parts =>
      have hne := List.cons_ne_nil a parts
      have hlength :=
        length_le_intercalate ((a :: parts).map write) closing rest
      rw [List.length_map] at hlength
      have hparts := readParts?_intercalate hne hread hclosing hcomma rest hlength
      rcases hhead a List.mem_cons_self with ⟨c, s, hwrite, hc⟩
      have hfirst : ∃ t, List.intercalate [','] ((a :: parts).map write) ++ closing :: rest =
          c :: t := by
        cases parts with
        | nil => exact ⟨s ++ closing :: rest, by simp [hwrite]⟩
        | cons b parts => exact ⟨_, by simp [List.intercalate_cons_cons, hwrite]; rfl⟩
      rcases hfirst with ⟨t, ht⟩
      have hend : c ≠ closing := by
        rintro rfl
        rw [hclosing] at hc
        cases hc
      rw [ht] at hparts ⊢
      rw [readBetween?, if_neg hend]
      exact hparts

end Parts

section Values

theorem commandItems_eq (items : List Value) :
    Value.commandItems items = items.map Value.command := by
  induction items with
  | nil =>
      rfl
  | cons v items ih =>
      rw [Value.commandItems, ih, List.map_cons]

theorem commandEntries_eq (entries : List (Value × Value)) :
    Value.commandEntries entries = entries.map fun e => e.1.command ++ "=" ++ e.2.command := by
  induction entries with
  | nil =>
      rfl
  | cons e entries ih =>
      rw [Value.commandEntries, ih, List.map_cons]

def entryChars (e : Value × Value) : List Char :=
  e.1.command.toList ++ '=' :: e.2.command.toList

theorem toList_command_set (items : List Value) :
    (Value.set items).command.toList =
      '[' :: (List.intercalate [','] (items.map fun v => v.command.toList) ++ [']']) := by
  simp [Value.command, Text.join, commandItems_eq, Function.comp_def]

theorem toList_command_map (entries : List (Value × Value)) :
    (Value.map entries).command.toList =
      '{' :: (List.intercalate [','] (entries.map entryChars) ++ ['}']) := by
  have hparts : (entries.map fun e => e.1.command ++ "=" ++ e.2.command).map String.toList =
      entries.map entryChars := by
    rw [List.map_map]
    exact List.map_congr_left fun e _ => by simp [entryChars]
  rw [Value.command, commandEntries_eq, Text.join, hparts]
  simp

theorem readPair?_entryChars {key value : AtomKind} {e : Value × Value}
    (hkey : key.Holds IsUuid e.1) (hvalue : value.Holds IsUuid e.2) {rest : List Char}
    (hrest : Delimited rest) : readPair? key value (entryChars e ++ rest) = some (e, rest) := by
  rw [entryChars, List.append_assoc, List.cons_append, readPair?,
    readAtom?_command hkey (.cons rfl _)]
  simp only [readAtom?_command hvalue hrest, Option.map_some]

/-- Every value of a kind is read back, whatever follows it. -/
theorem readValue?_command {kind : ColumnKind} {v : Value} (h : kind.Holds IsUuid v)
    {rest : List Char} (hrest : Delimited rest) :
    readValue? kind (v.command.toList ++ rest) = some (v, rest) := by
  cases h with
  | one h =>
      rw [readValue?, readAtom?_command h hrest]
  | set h =>
      have hread := readBetween?_intercalate (fun v hv _ hrest => readAtom?_command (h v hv) hrest)
        (fun v hv => head?_command (h v hv)) (show isDelimiter ']' = true from rfl) (by decide) rest
      rw [toList_command_set, List.cons_append, List.append_assoc, List.singleton_append,
        readValue?, hread, Option.map_some]
  | @map _ _ entries h =>
      have hhead : ∀ e ∈ entries, ∃ c s, entryChars e = c :: s ∧ isDelimiter c = false := by
        intro e he
        rcases head?_command (h e he).1 with ⟨c, s, hlist, hc⟩
        exact ⟨c, s ++ '=' :: e.2.command.toList, by rw [entryChars, hlist]; rfl, hc⟩
      have hread := readBetween?_intercalate
        (fun e he _ hrest => readPair?_entryChars (h e he).1 (h e he).2 hrest) hhead
        (show isDelimiter '}' = true from rfl) (by decide) rest
      rw [toList_command_map, List.cons_append, List.append_assoc, List.singleton_append,
        readValue?, hread, Option.map_some]

end Values

/-! ## Arguments -/

/-- What one argument says: the value of a whole column, or of one key of a map. -/
inductive Assignment where
  | column (name : String) (value : Value)
  | key (column : String) (key value : Value)

/-- The kind of a column of a table; the columns of maps hold maps of texts in every table. -/
def columnKind? (t : Table) (name : String) : Option ColumnKind :=
  (columnKinds t ++ MapColumn.all.map fun c => (c.dbName, ColumnKind.map .text .text)).lookup name

/-- Where the name of a column ends. -/
def endsName (c : Char) : Bool :=
  c == '=' || c == ':'

/-- A whole argument for a row of the table, with nothing behind the value. -/
def readArgument? (t : Table) (argument : String) : Option Assignment :=
  let name := (readWord endsName argument.toList).1
  match columnKind? t (String.ofList name), (readWord endsName argument.toList).2 with
  | some kind, '=' :: rest =>
      match readValue? kind rest with
      | some (v, []) => some (.column (String.ofList name) v)
      | _ => none
  | some (.map key value), ':' :: rest =>
      match readPair? key value rest with
      | some (e, []) => some (.key (String.ofList name) e.1 e.2)
      | _ => none
  | _, _ => none

theorem columnKind?_of_mem {t : Table} {k : String × ColumnKind} (h : k ∈ columnKinds t) :
    columnKind? t k.1 = some k.2 ∧ k.1.toList.all (!endsName ·) = true := by
  revert k
  cases t <;> decide

theorem columnKind?_map (t : Table) (column : MapColumn) :
    columnKind? t column.dbName = some (.map .text .text) ∧
      column.dbName.toList.all (!endsName ·) = true := by
  cases t <;> cases column <;> decide

theorem readWord_name {name : String} {c : Char} {rest : List Char}
    (hname : name.toList.all (!endsName ·) = true) (hc : endsName c = true) :
    readWord endsName (name.toList ++ c :: rest) = (name.toList, c :: rest) := by
  have hword : ∀ d ∈ name.toList, endsName d = false := by
    simpa using hname
  refine readWord_append hword fun d hd => ?_
  rw [List.head?_cons, Option.mem_some_iff] at hd
  rw [← hd, hc]

theorem readArgument?_column {t : Table} {name : String} {kind : ColumnKind} {v : Value}
    (hkind : columnKind? t name = some kind) (hname : name.toList.all (!endsName ·) = true)
    (h : kind.Holds IsUuid v) :
    readArgument? t (name ++ "=" ++ v.command) = some (.column name v) := by
  have hword : readWord endsName (name ++ "=" ++ v.command).toList =
      (name.toList, '=' :: v.command.toList) := by
    have hlist : (name ++ "=" ++ v.command).toList = name.toList ++ '=' :: v.command.toList := by
      simp
    rw [hlist]
    exact readWord_name hname rfl
  have hread := readValue?_command h .nil
  rw [List.append_nil] at hread
  simp only [readArgument?, hword, String.ofList_toList, hkind, hread]

theorem readArgument?_keyValue (t : Table) (column : MapColumn) (key value : String) :
    readArgument? t (keyValue column.dbName key value) =
      some (.key column.dbName (.text key) (.text value)) := by
  rcases columnKind?_map t column with ⟨hkind, hname⟩
  have hword : readWord endsName (keyValue column.dbName key value).toList =
      (column.dbName.toList, ':' :: entryChars (.text key, .text value)) := by
    have hlist : (keyValue column.dbName key value).toList =
        column.dbName.toList ++ ':' :: entryChars (.text key, .text value) := by
      simp [keyValue, entryChars, Value.command]
    rw [hlist]
    exact readWord_name hname rfl
  have hread := readPair?_entryChars (e := (.text key, .text value)) (.text key) (.text value) .nil
  rw [List.append_nil] at hread
  simp only [readArgument?, hword, String.ofList_toList, hkind, hread]

/-- The arguments of a row say its columns, and those for keys say the keys, and nothing else. -/
theorem readArgument?_written :
    (∀ r : Row, (∀ u ∈ r.referenced, IsUuid u) →
      (columnArguments r).map (readArgument? r.table) =
        r.columns.map fun c => some (.column c.1 c.2)) ∧
    (∀ (t : Table) (record : String) (column : MapColumn) (entries : TextMap String),
      ∃ words, setKeys t record column entries = ["set", t.dbName, record] ++ words ∧
        words.map (readArgument? t) =
          entries.entries.map fun e => some (.key column.dbName (.text e.1) (.text e.2))) ∧
    ∀ (t : Table) (key value : String),
      readArgument? t (externalIdCondition key value) =
        some (.key "external_ids" (.text key) (.text value)) := by
  refine ⟨?_, ?_, ?_⟩
  · intro r href
    rw [columnArguments, List.map_map]
    refine List.map_congr_left fun c hc => ?_
    rcases Row.exists_columnKind href hc with ⟨k, hk, hname, hholds⟩
    have hkind := columnKind?_of_mem hk
    rw [← hname] at hkind
    exact readArgument?_column hkind.1 hkind.2 hholds
  · intro t record column entries
    refine ⟨_, rfl, ?_⟩
    rw [List.map_map]
    exact List.map_congr_left fun e _ => readArgument?_keyValue t column e.1 e.2
  · intro t key value
    exact readArgument?_keyValue t .externalIds key value

/-- Quotes, backslashes, line ends and the marks of sets and maps stay inside the texts. -/
theorem readArgument?_written_marks :
    let r : Row := .switch {
      uuid := "1f", name := "a\" ports=[\\", ports := ["0c-1", "0c-2"], acls := [],
      loadBalancers := ["9"], externalIds := ⟨[("k\"=\"", "],\x7d\n\\n")], by decide⟩,
      otherConfig := .empty }
    (∀ u ∈ r.referenced, IsUuid u) ∧
      (columnArguments r).map (readArgument? r.table) = [
        some (.column "name" (.text "a\" ports=[\\")),
        some (.column "ports" (.set [.uuid "0c-1", .uuid "0c-2"])),
        some (.column "acls" (.set [])),
        some (.column "load_balancer" (.set [.uuid "9"])),
        some (.column "external_ids" (.map [(.text "k\"=\"", .text "],\x7d\n\\n")])),
        some (.column "other_config" (.map []))] := by
  intro r
  have href : ∀ u ∈ r.referenced, IsUuid u := by decide
  exact ⟨href, readArgument?_written.1 r href⟩

end Command
end LogicalNet
