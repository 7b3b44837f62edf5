import LogicalNet.Policy.Compiled
import LogicalNet.Proofs.Policy.MatchMeaning

/-!
# The grammar of match expressions

A clause is a word, or a field compared with a constant: a number within the range of
its field, an address with nothing around or inside it, or a name.  The names that may
stand behind an at sign have letters, digits, underscores and dots only.

Three texts of users come into the expression of a rule: the ids of two groups and
the remote address.  Ids have their dashes replaced and are otherwise taken as they
are, and an address is taken as it is written.  So the expression is that of the
clauses of the rule, and every clause is one of the grammar, exactly if these texts
keep within it.
-/

namespace LogicalNet

/-! ## Clauses as texts -/

namespace Expression

def isNameStart (c : Char) : Bool :=
  c.isAlpha || c == '_' || c == '.'

/-- The names of port groups: letters, underscores, dots and, but for the start, digits. -/
def isGroupName : List Char → Bool
  | [] => false
  | c :: rest => isNameStart c && rest.all fun d => isNameStart d || d.isDigit

/-- An address, alone or with a slash and the digits of a mask behind it. -/
inductive IsPlainAddress (f : Family) : List Char → Prop where
  | host {ip : Ip} {s : List Char} (h : Ip.ofChars? s = some ip) (hf : ip.isV6 = (f == .ip6)) :
      IsPlainAddress f s
  | subnet {ip : Ip} {s digits : List Char} {n : Nat} (h : Ip.ofChars? s = some ip)
      (hf : ip.isV6 = (f == .ip6)) (hn : Text.readDigits? 10 digits = some n)
      (hle : n ≤ ip.width) : IsPlainAddress f (s ++ '/' :: digits)

/-- The greatest number that a field can have. -/
def greatest : NumberField → Nat
  | .protocol => 255
  | .port _ => 65535
  | .icmp _ _ => 255

inductive IsConstant : Field → Comparison → List Char → Prop where
  | name (side : PortSide) {name : List Char} (h : isGroupName name = true) :
      IsConstant (.port side) .equal ('@' :: name)
  | number (field : NumberField) (c : Comparison) {digits : List Char} {n : Nat}
      (h : Text.readDigits? 10 digits = some n) (hle : n ≤ greatest field) :
      IsConstant (.number field) c digits
  | address (f : Family) (field : AddressField) {s : List Char} (h : IsPlainAddress f s) :
      IsConstant (.address f field) .equal s

inductive IsClause : List Char → Prop where
  | word {s : List Char} (h : (Term.ofWord? (String.ofList s)).isSome) : IsClause s
  | comparison {field op : String} {f : Field} {c : Comparison} {constant : List Char}
      (hf : Field.ofText? field = some f) (hc : Comparison.ofText? op = some c)
      (h : IsConstant f c constant) :
      IsClause (field.toList ++ ' ' :: (op.toList ++ ' ' :: constant))

/-- Clauses with `&&` between them, and nothing else. -/
def WellFormed (text : String) : Prop :=
  ∃ parts : List String, parts ≠ [] ∧ text = Text.join " && " parts ∧
    ∀ s ∈ parts, IsClause s.toList

/-! ## The parts of a clause -/

/-- Neither fields nor comparisons nor words have blanks or ampersands. -/
theorem isName_of_field {field : String} {f : Field} (h : Field.ofText? field = some f) :
    IsName field := by
  unfold Field.ofText? at h
  split at h <;> first | decide | cases h

theorem isName_of_comparison {op : String} {c : Comparison} (h : Comparison.ofText? op = some c) :
    IsName op := by
  unfold Comparison.ofText? at h
  split at h <;> first | decide | cases h

theorem isName_of_word {word : String} (h : (Term.ofWord? word).isSome) : IsName word := by
  unfold Term.ofWord? at h
  split at h <;> first | decide | cases h

theorem isClause_comparison_iff {field op : String} {f : Field} {c : Comparison}
    {s constant : List Char} (hf : Field.ofText? field = some f)
    (hc : Comparison.ofText? op = some c)
    (hs : s = field.toList ++ ' ' :: (op.toList ++ ' ' :: constant)) :
    IsClause s ↔ IsConstant f c constant := by
  constructor
  · intro h
    cases h with
    | word h =>
        have hblank := (isName_of_word h).1
        rw [String.toList_ofList, hs] at hblank
        simp at hblank
    | @comparison field' op' f' c' constant' hf' hc' h =>
        have hcut := Text.cutFirst?_append (isName_of_field hf).1 (op.toList ++ ' ' :: constant)
        rw [← hs, Text.cutFirst?_append (isName_of_field hf').1] at hcut
        simp only [Option.some.injEq, Prod.mk.injEq, String.toList_inj] at hcut
        rcases hcut with ⟨rfl, hrest⟩
        have hcut' := Text.cutFirst?_append (isName_of_comparison hc).1 constant
        rw [← hrest, Text.cutFirst?_append (isName_of_comparison hc').1] at hcut'
        simp only [Option.some.injEq, Prod.mk.injEq, String.toList_inj] at hcut'
        rcases hcut' with ⟨rfl, rfl⟩
        rw [hf] at hf'
        rw [hc] at hc'
        cases hf'
        cases hc'
        exact h
  · intro h
    rw [hs]
    exact .comparison hf hc h

theorem ampersand_not_mem_of_isPlainAddress {f : Family} {s : List Char}
    (h : IsPlainAddress f s) : '&' ∉ s := by
  cases h with
  | host h _ =>
      exact Ip.ampersand_not_mem_of_ofChars? h
  | subnet h _ hn _ =>
      have hdigits := Text.not_mem_of_readDigits? (c := '&') (by decide) hn
      simp [Ip.ampersand_not_mem_of_ofChars? h, hdigits]

theorem ampersand_not_mem_of_isGroupName {name : List Char} (h : isGroupName name = true) :
    '&' ∉ name := by
  intro hmem
  cases name with
  | nil =>
      cases h
  | cons c rest =>
      simp only [isGroupName, Bool.and_eq_true, List.all_eq_true] at h
      rcases List.mem_cons.mp hmem with rfl | hmem
      · exact absurd h.1 (by decide)
      · exact absurd (h.2 _ hmem) (by decide)

theorem IsClause.ampersand_not_mem {s : List Char} (h : IsClause s) : '&' ∉ s := by
  cases h with
  | word h =>
      have hword := (isName_of_word h).2
      rwa [String.toList_ofList] at hword
  | @comparison _ _ _ _ constant hf hc h =>
      have hconstant : '&' ∉ constant := by
        cases h with
        | name side h =>
            exact List.not_mem_cons_of_ne_of_not_mem (by decide)
              (ampersand_not_mem_of_isGroupName h)
        | number field c h _ =>
            exact Text.not_mem_of_readDigits? (by decide) h
        | address f field h =>
            exact ampersand_not_mem_of_isPlainAddress h
      simp [(isName_of_field hf).2, (isName_of_comparison hc).2, hconstant]

/-- A well-formed expression is cut into clauses. -/
theorem WellFormed.isClause_of_mem_pieces {text : String} (h : WellFormed text) :
    ∀ s ∈ pieces text.toList, IsClause s := by
  rcases h with ⟨parts, hne, rfl, hall⟩
  rw [pieces_join hne fun s hs => (hall s hs).ampersand_not_mem]
  intro s hs
  rcases List.mem_map.mp hs with ⟨part, hpart, rfl⟩
  exact hall part hpart

end Expression

/-! ## Addresses as they are written -/

theorem Text.readBelow?_of_not_mem {radix bound n : Nat} {s : List Char} (hplus : '+' ∉ s) :
    readBelow? radix bound s = some n ↔ readDigits? radix s = some n ∧ n < bound := by
  have hdrop : dropPlus s = s := by
    unfold dropPlus
    split
    · simp at hplus
    · rfl
  unfold readBelow?
  rw [hdrop]
  cases readDigits? radix s with
  | none =>
      simp
  | some m =>
      simp only [Option.some.injEq]
      split
      · simp
        omega
      · simp
        omega

namespace Expression

theorem isPlain_of_isPlainAddress {f : Family} {s : List Char} (h : IsPlainAddress f s) :
    ∀ c ∈ s, Text.isBlank c = false ∧ c ≠ '+' := by
  have hplus : ∀ {x : List Char} {ip : Ip}, Ip.ofChars? x = some ip → '+' ∉ x :=
    Ip.not_mem_of_ofChars? (by decide) (by decide) (by decide) (by decide)
  intro c hc
  cases h with
  | host h _ =>
      exact ⟨Ip.isBlank_of_ofChars? h c hc, ne_of_mem_of_not_mem hc (hplus h)⟩
  | subnet h _ hn _ =>
      rcases List.mem_append.mp hc with hc | hc
      · exact ⟨Ip.isBlank_of_ofChars? h c hc, ne_of_mem_of_not_mem hc (hplus h)⟩
      · rcases List.mem_cons.mp hc with rfl | hc
        · decide
        · exact ⟨Text.isBlank_of_readDigits? hn c hc,
            ne_of_mem_of_not_mem hc (Text.not_mem_of_readDigits? (by decide) hn)⟩

/-- An address that is accepted is plain if no blank and no plus sign was let pass. -/
theorem isPlainAddress_iff {f : Family} {s : List Char} {a : NetAddress}
    (h : NetAddress.ofChars? s = some a) (hf : a.isV6 = (f == .ip6)) :
    IsPlainAddress f s ↔ ∀ c ∈ s, Text.isBlank c = false ∧ c ≠ '+' := by
  constructor
  · exact isPlain_of_isPlainAddress
  · intro hplain
    unfold NetAddress.ofChars? at h
    split at h
    · rw [Text.trimChars_of_not_isBlank fun c hc => (hplain c hc).1] at h
      rcases Option.map_eq_some_iff.mp h with ⟨ip, hip, rfl⟩
      exact .host hip hf
    · rename_i x mask hcut
      have hs := (Text.cutFirst?_eq_some hcut).1
      have hx : ∀ c ∈ x, c ∈ s := by
        simp +contextual [hs]
      have hmask : ∀ c ∈ mask, c ∈ s := by
        simp +contextual [hs]
      rw [Text.trimChars_of_not_isBlank fun c hc => (hplain c (hx c hc)).1,
        Text.trimChars_of_not_isBlank fun c hc => (hplain c (hmask c hc)).1] at h
      split at h
      · rename_i ip n hip hn
        have hplus : '+' ∉ mask := fun hc => (hplain _ (hmask _ hc)).2 rfl
        split at h
        · rename_i hle
          cases h
          rw [hs]
          exact .subnet hip hf ((Text.readBelow?_of_not_mem hplus).mp hn).1 hle
        · cases h
      · cases h

end Expression

/-! ## The clauses of rules -/

namespace Clause

open Expression (IsClause IsPlainAddress isGroupName)

theorem isClause_port_iff (side : PortSide) (group : String) :
    IsClause (port side group).text.toList ↔ isGroupName group.toList = true := by
  have hfield : Field.ofText? side.text = some (.port side) := by
    cases side <;> rfl
  have hparts : (port side group).text.toList =
      side.text.toList ++ ' ' :: ("==".toList ++ ' ' :: '@' :: group.toList) := by
    simp [text]
  rw [Expression.isClause_comparison_iff hfield rfl hparts]
  constructor
  · intro h
    cases h with
    | name side h =>
        exact h
  · intro h
    exact .name side h

theorem isClause_address_iff (f : Family) (direction : Direction) (address : String) :
    IsClause (Clause.address f direction address).text.toList ↔
      IsPlainAddress f address.toList := by
  have hfield : Field.ofText? (f.text ++ "." ++ direction.remoteField) =
      some (.address f direction.addressField) := by
    cases f <;> cases direction <;> rfl
  have hparts : (Clause.address f direction address).text.toList =
      (f.text ++ "." ++ direction.remoteField).toList ++
        ' ' :: ("==".toList ++ ' ' :: address.toList) := by
    simp [text]
  rw [Expression.isClause_comparison_iff hfield rfl hparts]
  constructor
  · intro h
    cases h with
    | address f field h =>
        exact h
  · intro h
    exact .address f _ h

/-- A comparison with a number in decimal. -/
theorem isClause_number {field : String} {f : NumberField} {c : Comparison} {n : Nat}
    {s : List Char} (hf : Field.ofText? field = some (.number f)) (op : String)
    (hc : Comparison.ofText? op = some c) (hle : n ≤ Expression.greatest f)
    (hs : s = field.toList ++ ' ' :: (op.toList ++ ' ' :: Text.decimalChars n)) : IsClause s := by
  rw [Expression.isClause_comparison_iff hf hc hs]
  exact .number f c (Text.readDigits?_decimalChars n) hle

theorem field_protocol : Field.ofText? "ip.proto" = some (.number .protocol) :=
  rfl

theorem field_port (t : Transport) :
    Field.ofText? (t.text ++ ".dst") = some (.number (.port t)) := by
  cases t <;> rfl

theorem field_icmp (v : Icmp) (field : IcmpField) :
    Field.ofText? (v.text ++ "." ++ field.text) = some (.number (.icmp v field)) := by
  cases v <;> cases field <;> rfl

end Clause

namespace SecurityRule

open Expression (IsClause IsPlainAddress isGroupName)

variable {r : SecurityRule} {cs : List Clause}

theorem isClause_of_portClauses {t : Transport} (h : r.portClauses t = .ok cs) :
    ∀ c ∈ cs, IsClause c.text.toList := by
  have hok := (portClauses_isOk_iff r t).mp ⟨cs, h⟩
  unfold portClauses at h
  split at h
  · cases h
    simp
  · rename_i hmin
    have hbounds := hok hmin
    split at h
    · cases h
    · split at h
      · cases h
        simp only [List.mem_singleton, forall_eq]
        exact Clause.isClause_number (Clause.field_port t) "==" rfl hbounds.1
          (by simp [Clause.text, Text.decimal])
      · split at h
        · cases h
        · cases h
          simp only [List.mem_cons, List.not_mem_nil, or_false, forall_eq_or_imp, forall_eq]
          constructor
          · exact Clause.isClause_number (Clause.field_port t) ">=" rfl hbounds.1
              (by simp [Clause.text, Text.decimal])
          · exact Clause.isClause_number (Clause.field_port t) "<=" rfl hbounds.2.1
              (by simp [Clause.text, Text.decimal])

theorem isClause_of_icmpClauses {v : Icmp} {field : IcmpField} {value : Int32}
    (h : r.icmpClauses v field value = .ok cs) : ∀ c ∈ cs, IsClause c.text.toList := by
  have hbounds := (icmpClauses_isOk_iff r v field value).mp ⟨cs, h⟩
  have hzero : (0 : Int32).toInt = 0 := rfl
  unfold icmpClauses at h
  split at h
  · cases h
  · split at h
    · rename_i hvalue
      rw [Int32.le_iff_toInt_le, hzero] at hvalue
      cases h
      simp only [List.mem_singleton, forall_eq]
      refine Clause.isClause_number (Clause.field_icmp v field) "=="
        (n := value.toInt.natAbs) rfl ?_ ?_
      · show value.toInt.natAbs ≤ 255
        omega
      · simp [Clause.text, Text.signedDecimal_of_nonneg hvalue, Text.decimal]
    · cases h
      simp

/-- Whatever the protocol is called, its clauses are those of the grammar. -/
theorem isClause_of_protocolClauses (h : r.protocolClauses = .ok cs) :
    ∀ c ∈ cs, IsClause c.text.toList := by
  unfold protocolClauses at h
  split at h
  · cases h
  · cases h
    simp
  · rename_i t _
    rcases Outcome.bind_eq_ok_iff.mp h with ⟨ports, hports, hcs⟩
    cases hcs
    intro c hc
    rcases List.mem_cons.mp hc with rfl | hc
    · cases t <;> exact .word rfl
    · exact isClause_of_portClauses hports c hc
  · rename_i v _
    rcases Outcome.bind_eq_ok_iff.mp h with ⟨kind, hkind, h⟩
    rcases Outcome.bind_eq_ok_iff.mp h with ⟨code, hcode, hcs⟩
    cases hcs
    intro c hc
    rcases List.mem_append.mp hc with hc | hc
    · rcases List.mem_cons.mp hc with rfl | hc
      · cases v <;> exact .word rfl
      · exact isClause_of_icmpClauses hkind c hc
    · exact isClause_of_icmpClauses hcode c hc
  · rename_i n _
    cases h
    simp only [List.mem_singleton, forall_eq]
    refine Clause.isClause_number Clause.field_protocol "==" (n := n.toNat) rfl ?_ ?_
    · exact Nat.le_of_lt_succ n.toNat_lt
    · simp [Clause.text, Text.decimal]

/-- Nothing but an address stands in the clause for the remote address, if there is one. -/
def PlainAddress (r : SecurityRule) : Prop :=
  ∀ a, NetAddress.ofText? r.remoteText = some a → a.isAny = false →
    ∀ c ∈ r.remoteText.toList, Text.isBlank c = false ∧ c ≠ '+'

theorem isClause_addressClauses_iff (h : r.addressClauses = .ok cs) :
    (∀ c ∈ cs, IsClause c.text.toList) ↔ r.PlainAddress := by
  unfold addressClauses at h
  unfold PlainAddress
  split at h
  · rename_i hempty
    cases h
    rw [String.isEmpty_iff.mp hempty]
    simp
  · cases ha : NetAddress.ofText? r.remoteText with
    | none =>
        rw [ha] at h
        cases h
    | some a =>
        rw [ha] at h
        cases h
        have hplain := Expression.isPlainAddress_iff ha (isV6_eq_addressFamily ha)
        cases hany : a.isAny with
        | true =>
            simp [hany]
        | false =>
            simp only [hany, Bool.false_eq_true, if_false, List.mem_singleton, forall_eq,
              Clause.isClause_address_iff, hplain, Option.some.injEq, forall_eq', true_imp_iff]

end SecurityRule

/-- The characters that an id may have to be made into a name. -/
def Expression.IsPlainId (id : String) : Prop :=
  ∀ c ∈ id.toList, Expression.isNameStart c = true ∨ c.isDigit = true ∨ c = '-'

instance (id : String) : Decidable (Expression.IsPlainId id) :=
  List.decidableBAll _ id.toList

theorem Expression.isGroupName_portGroup_iff (id : String) :
    isGroupName (Name.portGroup id).toList = true ↔ IsPlainId id := by
  have hchar : ∀ c : Char, (isNameStart (if c = '-' then '_' else c) ||
      (if c = '-' then '_' else c).isDigit) = true ↔
        isNameStart c = true ∨ c.isDigit = true ∨ c = '-' := by
    intro c
    by_cases hc : c = '-'
    · simp [hc, isNameStart]
    · simp [hc]
  have hname : isGroupName (Name.portGroup id).toList =
      (Name.underscored id).toList.all fun d => isNameStart d || d.isDigit := by
    simp [Name.portGroup, isGroupName, isNameStart]
  rw [hname, Name.underscored, String.toList_ofList, List.all_map, List.all_eq_true]
  exact forall₂_congr fun c _ => hchar c

namespace SecurityRule

open Expression (IsClause IsPlainId)

variable {r : SecurityRule} {group : String} {cs : List Clause}

theorem isClause_groupClauses_iff :
    (∀ c ∈ r.groupClauses, IsClause c.text.toList) ↔ IsPlainId r.remoteGroup := by
  unfold groupClauses
  split
  · rename_i hempty
    simp [String.isEmpty_iff.mp hempty, IsPlainId]
  · simp [Clause.isClause_port_iff, Expression.isGroupName_portGroup_iff]

/-- The texts that come into the expression keep within the grammar. -/
structure PlainTexts (r : SecurityRule) (group : String) : Prop where
  group : IsPlainId group
  remoteGroup : IsPlainId r.remoteGroup
  address : r.PlainAddress

/-- The expression is that of the clauses of the rule, cut where they end, and each of them is one
of the grammar. -/
structure Sealed (r : SecurityRule) (group text : String) : Prop where
  clauses : ∃ cs, r.clauses (Name.portGroup group) = .ok cs ∧
    Expression.pieces text.toList = cs.map fun c => c.text.toList
  wellFormed : Expression.WellFormed text

theorem isClause_clauses_iff (h : r.clauses (Name.portGroup group) = .ok cs) :
    (∀ c ∈ cs, IsClause c.text.toList) ↔ r.PlainTexts group := by
  rcases Outcome.bind_eq_ok_iff.mp h with ⟨protocol, hprotocol, h⟩
  rcases Outcome.bind_eq_ok_iff.mp h with ⟨address, haddress, h⟩
  cases h
  have hfamily : IsClause (Clause.family r.addressFamily).text.toList := by
    cases r.addressFamily <;> exact .word rfl
  simp only [List.forall_mem_append, List.forall_mem_cons, Clause.isClause_port_iff,
    Expression.isGroupName_portGroup_iff, hfamily,
    isClause_addressClauses_iff haddress, isClause_groupClauses_iff]
  constructor
  · rintro ⟨⟨⟨⟨hgroup, _⟩, _⟩, haddress⟩, hremote⟩
    exact ⟨hgroup, hremote, haddress⟩
  · rintro ⟨hgroup, hremote, haddress⟩
    have hwords := isClause_of_protocolClauses hprotocol
    exact ⟨⟨⟨⟨hgroup, by simp⟩, hwords⟩, haddress⟩, hremote⟩

theorem sealed_iff (h : r.clauses (Name.portGroup group) = .ok cs) :
    r.Sealed group (Text.join " && " (cs.map Clause.text)) ↔
      ∀ c ∈ cs, IsClause c.text.toList := by
  have hne : cs.map Clause.text ≠ [] := by
    rcases Outcome.bind_eq_ok_iff.mp h with ⟨protocol, _, h⟩
    rcases Outcome.bind_eq_ok_iff.mp h with ⟨address, _, h⟩
    cases h
    simp
  constructor
  · rintro ⟨⟨cs', hcs', hpieces⟩, hwell⟩
    rw [h] at hcs'
    cases hcs'
    intro c hc
    apply hwell.isClause_of_mem_pieces
    rw [hpieces]
    exact List.mem_map_of_mem hc
  · intro hall
    have hall' : ∀ s ∈ cs.map Clause.text, IsClause s.toList := by
      simpa using hall
    refine ⟨⟨cs, h, ?_⟩, cs.map Clause.text, hne, rfl, hall'⟩
    rw [Expression.pieces_join hne fun s hs => (hall' s hs).ampersand_not_mem, List.map_map]
    rfl

theorem matchText_of_compile {ι : Type} [IdSource ι] {stateful : Bool} {ids : ι} {a : Acl}
    (h : (r.compile group stateful ids).1 = .ok a) :
    r.matchText (Name.portGroup group) = .ok a.condition := by
  unfold compile draft at h
  cases hmatch : r.matchText (Name.portGroup group) with
  | error e =>
      rw [hmatch] at h
      cases h
  | ok condition =>
      rw [hmatch] at h
      cases h
      rfl

/-- No text of a user gets out of its clause exactly if the two ids have only letters, digits, dots,
underscores and dashes, and the remote address has neither blanks inside it nor a sign. -/
theorem condition_sealed_iff {ι : Type} [IdSource ι] (r : SecurityRule) (group : String)
    (stateful : Bool) (ids : ι) {a : Acl} (h : (r.compile group stateful ids).1 = .ok a) :
    r.Sealed group a.condition ↔ r.PlainTexts group := by
  rcases Outcome.bind_eq_ok_iff.mp (matchText_of_compile h) with ⟨cs, hcs, htext⟩
  have hcondition : Text.join " && " (cs.map Clause.text) = a.condition := Except.ok.inj htext
  rw [← hcondition, sealed_iff hcs]
  exact isClause_clauses_iff hcs

/-- The ids have dashes in them, and the address has a blank in front. -/
theorem condition_sealed_iff_webFromSubnet : ∃ a,
    (webFromSubnet.compile "db-tier" true Sequential.start).1 = .ok a ∧
      webFromSubnet.PlainTexts "db-tier" ∧ webFromSubnet.Sealed "db-tier" a.condition := by
  cases h : (webFromSubnet.compile "db-tier" true Sequential.start).1 with
  | error e =>
      have hfails : (webFromSubnet.compile "db-tier" true Sequential.start).1.toBool = false :=
        congrArg Except.toBool h
      exact absurd hfails (by decide +kernel)
  | ok a =>
      have hplain : webFromSubnet.PlainTexts "db-tier" := by
        have haddress : (webFromSubnet.remoteText.toList.all fun c =>
            !Text.isBlank c && c != '+') = true := by
          decide +kernel
        refine ⟨by decide, by decide, fun _ _ _ c hc => ?_⟩
        simpa using List.all_eq_true.mp haddress c hc
      have hsealed := condition_sealed_iff webFromSubnet "db-tier" true Sequential.start h
      exact ⟨a, rfl, hplain, hsealed.mpr hplain⟩

/-- Everything that enters. -/
def anyIngress : SecurityRule where
  id := "any"
  direction := .ingress

/-- Neither ids nor addresses are kept from breaking out of their clauses: an id may hold an
operator, and the blanks around a slash and the sign of a mask are written as they were given. -/
theorem not_wellFormed_condition :
    ((anyIngress.compile "a || ip4" false Sequential.start).1.map Acl.condition =
        .ok "outport == @pg_sg_a || ip4 && ip4" ∧
      ¬ Expression.WellFormed "outport == @pg_sg_a || ip4 && ip4") ∧
    ((SecurityRule.compile { anyIngress with remoteAddress := "10.0.0.0 / +8" } "a" false
        Sequential.start).1.map Acl.condition =
        .ok "outport == @pg_sg_a && ip4 && ip4.src == 10.0.0.0 / +8" ∧
      ¬ Expression.WellFormed "outport == @pg_sg_a && ip4 && ip4.src == 10.0.0.0 / +8") := by
  refine ⟨⟨by decide +kernel, fun h => ?_⟩, ⟨by decide +kernel, fun h => ?_⟩⟩
  · have hclause := h.isClause_of_mem_pieces "outport == @pg_sg_a || ip4".toList
      (by decide +kernel)
    exact absurd ((Clause.isClause_port_iff .leaves "pg_sg_a || ip4").mp hclause) (by decide)
  · have hclause := h.isClause_of_mem_pieces "ip4.src == 10.0.0.0 / +8".toList (by decide +kernel)
    have hplain := (Clause.isClause_address_iff .ip4 .ingress "10.0.0.0 / +8").mp hclause
    exact (Expression.isPlain_of_isPlainAddress hplain '+' (by decide)).2 rfl

end SecurityRule
end LogicalNet
