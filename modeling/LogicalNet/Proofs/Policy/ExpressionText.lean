import Mathlib.Data.List.Forall2
import LogicalNet.Proofs.Address.RoundTrip
import LogicalNet.Proofs.Policy.Packet

/-!
# Reading of match expressions

An expression is cut at its `&&`s, and each of its texts is read as a term: the
name of a family or of a protocol, or a comparison of a field with a constant.  The
reader knows nothing of clauses.  It has its own table of the names of fields, it
reads addresses as the rules do, and it refuses an address of one family for a
field of the other.

A text without an ampersand is never cut, so the expression of a list of clauses
reads back clause by clause.
-/

namespace LogicalNet

/-! ## Cutting -/

namespace Expression

/-- The texts between the `&&`s. -/
def pieces : List Char → List (List Char)
  | ' ' :: '&' :: '&' :: ' ' :: rest => [] :: pieces rest
  | c :: rest =>
      match pieces rest with
      | p :: ps => (c :: p) :: ps
      | [] => [[c]]
  | [] => [[]]

theorem pieces_cons_of_not_mem {c : Char} {rest p : List Char} {ps : List (List Char)}
    (hc : c = ' ' → ∀ d ∈ rest.head?, d ≠ '&') (h : pieces rest = p :: ps) :
    pieces (c :: rest) = (c :: p) :: ps := by
  rw [pieces]
  · rw [h]
  · intro rest' hc' hrest
    refine hc hc' '&' ?_ rfl
    rw [hrest]
    rfl

theorem pieces_of_not_mem {s : List Char} (h : '&' ∉ s) : pieces s = [s] := by
  induction s with
  | nil =>
      rfl
  | cons c rest ih =>
      simp only [List.mem_cons, not_or] at h
      refine pieces_cons_of_not_mem (fun _ d hd => ?_) (ih h.2)
      intro he
      subst he
      exact h.2 (List.mem_of_mem_head? hd)

theorem pieces_append {s : List Char} (h : '&' ∉ s) (rest : List Char) :
    pieces (s ++ " && ".toList ++ rest) = s :: pieces rest := by
  induction s with
  | nil =>
      rfl
  | cons c s ih =>
      simp only [List.mem_cons, not_or] at h
      refine pieces_cons_of_not_mem (fun _ d hd => ?_) (ih h.2)
      intro he
      subst he
      cases s with
      | nil =>
          cases hd
      | cons e s =>
          cases hd
          exact h.2 (by simp)

/-- Texts without ampersands are given back. -/
theorem pieces_join {parts : List String} (hne : parts ≠ [])
    (h : ∀ s ∈ parts, '&' ∉ s.toList) :
    pieces (Text.join " && " parts).toList = parts.map String.toList := by
  rw [Text.join, String.toList_ofList]
  induction parts with
  | nil =>
      exact absurd rfl hne
  | cons s rest ih =>
      have hs : '&' ∉ s.toList := h s (by simp)
      cases rest with
      | nil =>
          simp only [List.map_cons, List.map_nil, List.intercalate_singleton]
          exact pieces_of_not_mem hs
      | cons t rest =>
          have hrest := ih (by simp) (fun u hu => h u (by simp [hu]))
          rw [List.map_cons, List.map_cons, List.intercalate_cons_cons, ← List.map_cons,
            pieces_append hs, hrest]

/-- A name ends at a blank or an ampersand, and so holds neither. -/
def IsName (s : String) : Prop :=
  ' ' ∉ s.toList ∧ '&' ∉ s.toList

instance (s : String) : Decidable (IsName s) :=
  inferInstanceAs (Decidable (_ ∧ _))

end Expression

/-! ## Reading -/

def Comparison.ofText? : String → Option Comparison
  | "==" => some equal
  | ">=" => some atLeast
  | "<=" => some atMost
  | _ => none

/-- What stands on the left of a comparison. -/
inductive Field where
  | port (side : PortSide)
  | number (field : NumberField)
  | address (family : Family) (field : AddressField)

def Field.ofText? : String → Option Field
  | "inport" => some (port .enters)
  | "outport" => some (port .leaves)
  | "ip.proto" => some (number .protocol)
  | "tcp.dst" => some (number (.port .tcp))
  | "udp.dst" => some (number (.port .udp))
  | "sctp.dst" => some (number (.port .sctp))
  | "icmp4.type" => some (number (.icmp .icmp4 .kind))
  | "icmp4.code" => some (number (.icmp .icmp4 .code))
  | "icmp6.type" => some (number (.icmp .icmp6 .kind))
  | "icmp6.code" => some (number (.icmp .icmp6 .code))
  | "ip4.src" => some (address .ip4 .source)
  | "ip4.dst" => some (address .ip4 .destination)
  | "ip6.src" => some (address .ip6 .source)
  | "ip6.dst" => some (address .ip6 .destination)
  | _ => none

namespace Term

/-- The terms of one word. -/
def ofWord? : String → Option Term
  | "ip4" => some (family .ip4)
  | "ip6" => some (family .ip6)
  | "tcp" => some (transport .tcp)
  | "udp" => some (transport .udp)
  | "sctp" => some (transport .sctp)
  | "icmp4" => some (icmp .icmp4)
  | "icmp6" => some (icmp .icmp6)
  | _ => none

/-- The constant of a comparison: a port group behind an at sign, a number, or an address of the
family of the field. -/
def ofConstant? : Field → Comparison → List Char → Option Term
  | .port side, .equal, '@' :: group =>
      if Expression.IsName (String.ofList group) then some (member side (String.ofList group))
      else none
  | .number field, comparison, s => (Text.readDigits? 10 s).map (number field comparison)
  | .address f field, .equal, s =>
      match NetAddress.ofChars? s with
      | some a => if a.isV6 = (f == .ip6) then some (address f field a) else none
      | none => none
  | _, _, _ => none

def ofChars? (s : List Char) : Option Term :=
  match Text.cutFirst? ' ' s with
  | none => ofWord? (String.ofList s)
  | some (field, rest) => do
      let (comparison, constant) ← Text.cutFirst? ' ' rest
      ofConstant? (← Field.ofText? (String.ofList field))
        (← Comparison.ofText? (String.ofList comparison)) constant

end Term

/-- The terms of an expression, all of which have to hold. -/
def Expression.read? (text : String) : Option (List Term) :=
  (pieces text.toList).mapM Term.ofChars?

/-! ## Clauses read back -/

def Direction.addressField : Direction → AddressField
  | ingress => .source
  | egress => .destination

/-- The term that a clause is meant to be read as. -/
inductive Clause.Denotes : Clause → Term → Prop where
  | port {side : PortSide} {group : String} (h : Expression.IsName group) :
      Denotes (.port side group) (.member side group)
  | family (f : Family) : Denotes (.family f) (.family f)
  | transport (t : Transport) : Denotes (.transport t) (.transport t)
  | portIs (t : Transport) (n : UInt32) :
      Denotes (.portIs t n) (.number (.port t) .equal n.toNat)
  | portFrom (t : Transport) (n : UInt32) :
      Denotes (.portFrom t n) (.number (.port t) .atLeast n.toNat)
  | portTo (t : Transport) (n : UInt32) :
      Denotes (.portTo t n) (.number (.port t) .atMost n.toNat)
  | icmp (v : Icmp) : Denotes (.icmp v) (.icmp v)
  | icmpIs (v : Icmp) (field : IcmpField) {value : Int32} (h : 0 ≤ value.toInt) :
      Denotes (.icmpIs v field value) (.number (.icmp v field) .equal value.toInt.natAbs)
  | protocolIs (n : UInt8) : Denotes (.protocolIs n) (.number .protocol .equal n.toNat)
  | address {f : Family} {text : String} {a : NetAddress} (direction : Direction)
      (h : NetAddress.ofText? text = some a) (hf : a.isV6 = (f == .ip6)) :
      Denotes (.address f direction text) (.address f direction.addressField a)

namespace Text

theorem signedDecimal_of_nonneg {n : Int} (h : 0 ≤ n) :
    signedDecimal n = decimal n.natAbs := by
  rw [signedDecimal, if_neg (Int.not_lt.mpr h)]

theorem ampersand_not_mem_decimalChars (n : Nat) : '&' ∉ decimalChars n :=
  not_mem_of_readDigits? (by decide) (readDigits?_decimalChars n)

end Text

namespace Term

/-- A comparison is read part by part. -/
theorem ofChars?_comparison (field op : String) {s : String} (constant : List Char)
    (hs : s.toList = field.toList ++ ' ' :: (op.toList ++ ' ' :: constant))
    (hfield : ' ' ∉ field.toList) (hop : ' ' ∉ op.toList) {f : Field} {c : Comparison}
    (hf : Field.ofText? field = some f) (hc : Comparison.ofText? op = some c) :
    ofChars? s.toList = ofConstant? f c constant := by
  rw [ofChars?, hs, Text.cutFirst?_append hfield]
  simp only [Text.cutFirst?_append hop, String.ofList_toList, Option.bind_eq_bind,
    Option.bind_some, hf, hc]

theorem ofConstant?_decimalChars (field : NumberField) (c : Comparison) (n : Nat) :
    ofConstant? (.number field) c (Text.decimalChars n) = some (number field c n) := by
  cases c <;> simp [ofConstant?, Text.readDigits?_decimalChars]

/-- The ports of a protocol are compared with numbers. -/
theorem ofChars?_port (t : Transport) (op : String) (n : Nat) {c : Comparison}
    (hop : ' ' ∉ op.toList) (hc : Comparison.ofText? op = some c) {s : String}
    (hs : s.toList =
      t.text.toList ++ (".dst ".toList ++ (op.toList ++ ' ' :: Text.decimalChars n))) :
    ofChars? s.toList = some (number (.port t) c n) := by
  have hfield : Field.ofText? (t.text ++ ".dst") = some (.number (.port t)) := by
    cases t <;> rfl
  have hblank : ' ' ∉ (t.text ++ ".dst").toList := by
    cases t <;> decide
  have htext : s.toList = (t.text ++ ".dst").toList ++
      ' ' :: (op.toList ++ ' ' :: Text.decimalChars n) := by
    rw [hs, String.toList_append]
    simp
  rw [ofChars?_comparison _ _ _ htext hblank hop hfield hc]
  exact ofConstant?_decimalChars _ _ _

theorem ofChars?_icmp (v : Icmp) (field : IcmpField) (n : Nat) {s : String}
    (hs : s.toList =
      v.text.toList ++ '.' :: (field.text.toList ++ " == ".toList ++ Text.decimalChars n)) :
    ofChars? s.toList = some (number (.icmp v field) .equal n) := by
  have hfield : Field.ofText? (v.text ++ "." ++ field.text) = some (.number (.icmp v field)) := by
    cases v <;> cases field <;> rfl
  have hblank : ' ' ∉ (v.text ++ "." ++ field.text).toList := by
    cases v <;> cases field <;> decide
  have htext : s.toList = (v.text ++ "." ++ field.text).toList ++
      ' ' :: ("==".toList ++ ' ' :: Text.decimalChars n) := by
    rw [hs, String.toList_append, String.toList_append]
    simp
  rw [ofChars?_comparison _ _ _ htext hblank (by decide) hfield rfl]
  exact ofConstant?_decimalChars _ _ _

theorem ofChars?_member (side : PortSide) {group s : String} (h : Expression.IsName group)
    (hs : s.toList = side.text.toList ++ (" == @".toList ++ group.toList)) :
    ofChars? s.toList = some (member side group) := by
  have hfield : Field.ofText? side.text = some (.port side) := by
    cases side <;> rfl
  have hblank : ' ' ∉ side.text.toList := by
    cases side <;> decide
  have htext : s.toList =
      side.text.toList ++ ' ' :: ("==".toList ++ ' ' :: '@' :: group.toList) := hs
  rw [ofChars?_comparison _ _ _ htext hblank (by decide) hfield rfl, ofConstant?,
    String.ofList_toList, if_pos h]

theorem ofChars?_address (f : Family) (direction : Direction) {address s : String}
    {a : NetAddress} (h : NetAddress.ofText? address = some a) (hf : a.isV6 = (f == .ip6))
    (hs : s.toList = f.text.toList ++
      '.' :: (direction.remoteField.toList ++ (" == ".toList ++ address.toList))) :
    ofChars? s.toList = some (.address f direction.addressField a) := by
  have hfield : Field.ofText? (f.text ++ "." ++ direction.remoteField) =
      some (.address f direction.addressField) := by
    cases f <;> cases direction <;> rfl
  have hblank : ' ' ∉ (f.text ++ "." ++ direction.remoteField).toList := by
    cases f <;> cases direction <;> decide
  have htext : s.toList = (f.text ++ "." ++ direction.remoteField).toList ++
      ' ' :: ("==".toList ++ ' ' :: address.toList) := by
    rw [hs, String.toList_append, String.toList_append]
    simp
  have haddress : NetAddress.ofChars? address.toList = some a := h
  rw [ofChars?_comparison _ _ _ htext hblank (by decide) hfield rfl, ofConstant?]
  simp only [haddress, hf, if_true]

end Term

namespace Clause
namespace Denotes

variable {c : Clause} {t : Term}

theorem ofChars?_text (h : Denotes c t) : Term.ofChars? c.text.toList = some t := by
  cases h with
  | @port side group h =>
      exact Term.ofChars?_member side h (by simp [text])
  | family f =>
      cases f <;> rfl
  | transport t =>
      cases t <;> rfl
  | portIs t n =>
      exact Term.ofChars?_port t "==" n.toNat (by decide) rfl (by simp [text, Text.decimal])
  | portFrom t n =>
      exact Term.ofChars?_port t ">=" n.toNat (by decide) rfl (by simp [text, Text.decimal])
  | portTo t n =>
      exact Term.ofChars?_port t "<=" n.toNat (by decide) rfl (by simp [text, Text.decimal])
  | icmp v =>
      cases v <;> rfl
  | icmpIs v field h =>
      refine Term.ofChars?_icmp v field _ ?_
      simp [text, Text.signedDecimal_of_nonneg h, Text.decimal]
  | protocolIs n =>
      rw [Term.ofChars?_comparison "ip.proto" "==" (Text.decimalChars n.toNat)
        (by simp [text, Text.decimal]) (by decide) (by decide) (f := .number .protocol) rfl rfl]
      exact Term.ofConstant?_decimalChars _ _ _
  | @address f address a direction h hf =>
      exact Term.ofChars?_address f direction h hf (by simp [text])

theorem ampersand_not_mem (h : Denotes c t) : '&' ∉ c.text.toList := by
  cases h with
  | @port side group h =>
      have hgroup : '&' ∉ group.toList := h.2
      cases side <;> simp [text, PortSide.text, hgroup]
  | family f =>
      cases f <;> decide
  | transport t =>
      cases t <;> decide
  | portIs t n =>
      cases t <;>
        simp [text, Transport.text, Text.decimal, Text.ampersand_not_mem_decimalChars]
  | portFrom t n =>
      cases t <;>
        simp [text, Transport.text, Text.decimal, Text.ampersand_not_mem_decimalChars]
  | portTo t n =>
      cases t <;>
        simp [text, Transport.text, Text.decimal, Text.ampersand_not_mem_decimalChars]
  | icmp v =>
      cases v <;> decide
  | icmpIs v field h =>
      cases v <;> cases field <;>
        simp [text, Icmp.text, IcmpField.text, Text.signedDecimal_of_nonneg h, Text.decimal,
          Text.ampersand_not_mem_decimalChars]
  | protocolIs n =>
      simp [text, Text.decimal, Text.ampersand_not_mem_decimalChars]
  | @address f address a direction h hf =>
      have haddress : '&' ∉ address.toList := NetAddress.ampersand_not_mem_of_ofChars? h
      cases f <;> cases direction <;>
        simp [text, Family.text, Direction.remoteField, haddress]

end Denotes
end Clause

/-- The expression of clauses is read as their terms. -/
theorem Expression.read?_join {clauses : List Clause} {terms : List Term} (hne : clauses ≠ [])
    (h : List.Forall₂ Clause.Denotes clauses terms) :
    read? (Text.join " && " (clauses.map Clause.text)) = some terms := by
  have hmem : ∀ s ∈ clauses.map Clause.text, '&' ∉ s.toList := by
    clear hne
    induction h with
    | nil =>
        simp
    | cons hhead _ ih =>
        simpa using ⟨hhead.ampersand_not_mem, by simpa using ih⟩
  rw [read?, pieces_join (by simpa using hne) hmem, List.map_map]
  clear hne hmem
  induction h with
  | nil =>
      rfl
  | cons hhead _ ih =>
      rw [List.map_cons, List.mapM_cons, Function.comp_apply, hhead.ofChars?_text, ih]
      rfl

end LogicalNet
