import Mathlib.Data.List.Forall2
import LogicalNet.Proofs.Row.References

/-!
# What columns hold

Every column of a table holds one atom, a set of atoms or a map between atoms, all of
one kind.  The kinds of the columns are given for each table, and the columns of every
row are of these kinds, in this order.
-/

namespace LogicalNet

/-! ## Kinds -/

inductive AtomKind where
  | text
  | integer
  | boolean
  | uuid
  deriving DecidableEq

/-- An optional column is a set of none or one. -/
inductive ColumnKind where
  | one (kind : AtomKind)
  | set (kind : AtomKind)
  | map (key value : AtomKind)
  deriving DecidableEq

/-- The value is an atom of the kind: integers have 64 bits, and identifiers are of some form. -/
inductive AtomKind.Holds (form : String → Prop) : AtomKind → Value → Prop where
  | text (s : String) : Holds form text (.text s)
  | integer {n : Int} (hleast : Value.leastInteger ≤ n) (hgreatest : n ≤ Value.greatestInteger) :
      Holds form integer (.integer n)
  | boolean (b : Bool) : Holds form boolean (.boolean b)
  | uuid {s : String} (h : form s) : Holds form uuid (.uuid s)

inductive ColumnKind.Holds (form : String → Prop) : ColumnKind → Value → Prop where
  | one {kind : AtomKind} {v : Value} (h : kind.Holds form v) : Holds form (one kind) v
  | set {kind : AtomKind} {items : List Value} (h : ∀ v ∈ items, kind.Holds form v) :
      Holds form (set kind) (.set items)
  | map {key value : AtomKind} {entries : List (Value × Value)}
      (h : ∀ e ∈ entries, key.Holds form e.1 ∧ value.Holds form e.2) :
      Holds form (map key value) (.map entries)

/-! ## Columns -/

/-- The columns of a table with what they hold. -/
def columnKinds : Table → List (String × ColumnKind)
  | .switch =>
      [("name", .one .text), ("ports", .set .uuid), ("acls", .set .uuid),
        ("load_balancer", .set .uuid), ("external_ids", .map .text .text),
        ("other_config", .map .text .text)]
  | .switchPort =>
      [("name", .one .text), ("type", .one .text), ("addresses", .set .text),
        ("port_security", .set .text), ("enabled", .set .boolean), ("tag", .set .integer),
        ("options", .map .text .text), ("external_ids", .map .text .text),
        ("dhcpv4_options", .set .uuid)]
  | .router =>
      [("name", .one .text), ("enabled", .set .boolean), ("ports", .set .uuid),
        ("nat", .set .uuid), ("load_balancer", .set .uuid), ("static_routes", .set .uuid),
        ("options", .map .text .text), ("external_ids", .map .text .text)]
  | .routerPort =>
      [("name", .one .text), ("mac", .one .text), ("networks", .set .text),
        ("enabled", .set .boolean), ("peer", .set .text), ("external_ids", .map .text .text)]
  | .staticRoute =>
      [("ip_prefix", .one .text), ("nexthop", .one .text), ("external_ids", .map .text .text)]
  | .acl =>
      [("name", .set .text), ("direction", .one .text), ("priority", .one .integer),
        ("match", .one .text), ("action", .one .text), ("log", .one .boolean),
        ("external_ids", .map .text .text)]
  | .addressSet =>
      [("name", .one .text), ("addresses", .set .text), ("external_ids", .map .text .text)]
  | .portGroup =>
      [("name", .one .text), ("ports", .set .uuid), ("acls", .set .uuid),
        ("external_ids", .map .text .text)]
  | .dhcpOptions =>
      [("cidr", .one .text), ("options", .map .text .text), ("external_ids", .map .text .text)]
  | .nat =>
      [("type", .one .text), ("external_ip", .one .text), ("logical_ip", .one .text),
        ("external_ids", .map .text .text)]
  | .loadBalancer =>
      [("name", .one .text), ("vips", .map .text .text), ("protocol", .set .text),
        ("external_ids", .map .text .text)]

theorem nodup_columnKinds (t : Table) : ((columnKinds t).map Prod.fst).Nodup := by
  cases t <;> decide

/-! ### Values of one kind -/

namespace ColumnKind

variable {form : String → Prop}

theorem holds_text (s : String) : (one .text).Holds form (.text s) :=
  .one (.text s)

theorem holds_boolean (b : Bool) : (one .boolean).Holds form (.boolean b) :=
  .one (.boolean b)

theorem inBounds (n : UInt16) :
    Value.leastInteger ≤ (n.toNat : Int) ∧ (n.toNat : Int) ≤ Value.greatestInteger := by
  have h := n.toNat_lt
  unfold Value.leastInteger Value.greatestInteger
  omega

theorem holds_integer (n : UInt16) : (one .integer).Holds form (.integer n.toNat) :=
  .one (.integer (inBounds n).1 (inBounds n).2)

theorem holds_texts (ss : List String) : (set .text).Holds form (.texts ss) := by
  refine .set fun v hv => ?_
  rcases List.mem_map.mp hv with ⟨s, _, rfl⟩
  exact .text s

theorem holds_uuids {us : List String} (h : ∀ u ∈ us, form u) :
    (set .uuid).Holds form (.uuids us) := by
  refine .set fun v hv => ?_
  rcases List.mem_map.mp hv with ⟨u, hu, rfl⟩
  exact .uuid (h u hu)

theorem holds_optionalText (s : Option String) : (set .text).Holds form (.optionalText s) :=
  holds_texts s.toList

theorem holds_optionalUuid {s : Option String} (h : ∀ u ∈ s.toList, form u) :
    (set .uuid).Holds form (.optionalUuid s) :=
  holds_uuids h

theorem holds_optionalInteger (n : Option UInt16) :
    (set .integer).Holds form (.optionalInteger (n.map fun n => (n.toNat : Int))) := by
  refine .set fun v hv => ?_
  cases n with
  | none =>
      cases hv
  | some n =>
      rw [List.mem_singleton.mp hv]
      exact .integer (inBounds n).1 (inBounds n).2

theorem holds_optionalBoolean (b : Option Bool) :
    (set .boolean).Holds form (.optionalBoolean b) := by
  refine .set fun v hv => ?_
  rcases List.mem_map.mp hv with ⟨b, _, rfl⟩
  exact .boolean b

theorem holds_textMap (m : TextMap String) : (map .text .text).Holds form (.textMap m) := by
  refine .map fun e he => ?_
  rcases List.mem_map.mp he with ⟨⟨k, v⟩, _, rfl⟩
  exact ⟨.text k, .text v⟩

end ColumnKind

/-! ## Rows -/

namespace Row

/-- The identifiers of other rows in the columns of the row. -/
def referenced : Row → List String
  | switchPort r => r.dhcpOptions.toList
  | r => RefColumn.all.flatMap r.refs

open ColumnKind in
/-- The columns of a row are those of its table. -/
theorem holds_columns {form : String → Prop} {r : Row} (h : ∀ u ∈ r.referenced, form u) :
    List.Forall₂ (fun k c => c.1 = k.1 ∧ k.2.Holds form c.2) (columnKinds r.table) r.columns := by
  cases r with
  | switch r =>
      have href : ∀ u, u ∈ r.ports ∨ u ∈ r.acls ∨ u ∈ r.loadBalancers → form u := by
        intro u hu
        exact h u (by simpa [referenced, RefColumn.all, refs, references?] using hu)
      exact .cons ⟨rfl, holds_text _⟩ <| .cons ⟨rfl, holds_uuids fun u hu => href u (.inl hu)⟩ <|
        .cons ⟨rfl, holds_uuids fun u hu => href u (.inr (.inl hu))⟩ <|
        .cons ⟨rfl, holds_uuids fun u hu => href u (.inr (.inr hu))⟩ <|
        .cons ⟨rfl, holds_textMap _⟩ <| .cons ⟨rfl, holds_textMap _⟩ .nil
  | switchPort r =>
      exact .cons ⟨rfl, holds_text _⟩ <| .cons ⟨rfl, holds_text _⟩ <|
        .cons ⟨rfl, holds_texts _⟩ <| .cons ⟨rfl, holds_texts _⟩ <|
        .cons ⟨rfl, holds_optionalBoolean _⟩ <| .cons ⟨rfl, holds_optionalInteger _⟩ <|
        .cons ⟨rfl, holds_textMap _⟩ <| .cons ⟨rfl, holds_textMap _⟩ <|
        .cons ⟨rfl, holds_optionalUuid h⟩ .nil
  | router r =>
      have href : ∀ u, u ∈ r.ports ∨ u ∈ r.nat ∨ u ∈ r.loadBalancers ∨ u ∈ r.staticRoutes →
          form u := by
        intro u hu
        exact h u (by simpa [referenced, RefColumn.all, refs, references?] using hu)
      exact .cons ⟨rfl, holds_text _⟩ <| .cons ⟨rfl, holds_optionalBoolean _⟩ <|
        .cons ⟨rfl, holds_uuids fun u hu => href u (.inl hu)⟩ <|
        .cons ⟨rfl, holds_uuids fun u hu => href u (.inr (.inl hu))⟩ <|
        .cons ⟨rfl, holds_uuids fun u hu => href u (.inr (.inr (.inl hu)))⟩ <|
        .cons ⟨rfl, holds_uuids fun u hu => href u (.inr (.inr (.inr hu)))⟩ <|
        .cons ⟨rfl, holds_textMap _⟩ <| .cons ⟨rfl, holds_textMap _⟩ .nil
  | routerPort r =>
      exact .cons ⟨rfl, holds_text _⟩ <| .cons ⟨rfl, holds_text _⟩ <|
        .cons ⟨rfl, holds_texts _⟩ <| .cons ⟨rfl, holds_optionalBoolean _⟩ <|
        .cons ⟨rfl, holds_optionalText _⟩ <| .cons ⟨rfl, holds_textMap _⟩ .nil
  | staticRoute r =>
      exact .cons ⟨rfl, holds_text _⟩ <| .cons ⟨rfl, holds_text _⟩ <|
        .cons ⟨rfl, holds_textMap _⟩ .nil
  | acl r =>
      exact .cons ⟨rfl, holds_optionalText _⟩ <| .cons ⟨rfl, holds_text _⟩ <|
        .cons ⟨rfl, holds_integer _⟩ <| .cons ⟨rfl, holds_text _⟩ <|
        .cons ⟨rfl, holds_text _⟩ <| .cons ⟨rfl, holds_boolean _⟩ <|
        .cons ⟨rfl, holds_textMap _⟩ .nil
  | addressSet r =>
      exact .cons ⟨rfl, holds_text _⟩ <| .cons ⟨rfl, holds_texts _⟩ <|
        .cons ⟨rfl, holds_textMap _⟩ .nil
  | portGroup r =>
      have href : ∀ u, u ∈ r.ports ∨ u ∈ r.acls → form u := by
        intro u hu
        exact h u (by simpa [referenced, RefColumn.all, refs, references?] using hu)
      exact .cons ⟨rfl, holds_text _⟩ <| .cons ⟨rfl, holds_uuids fun u hu => href u (.inl hu)⟩ <|
        .cons ⟨rfl, holds_uuids fun u hu => href u (.inr hu)⟩ <|
        .cons ⟨rfl, holds_textMap _⟩ .nil
  | dhcpOptions r =>
      exact .cons ⟨rfl, holds_text _⟩ <| .cons ⟨rfl, holds_textMap _⟩ <|
        .cons ⟨rfl, holds_textMap _⟩ .nil
  | nat r =>
      exact .cons ⟨rfl, holds_text _⟩ <| .cons ⟨rfl, holds_text _⟩ <|
        .cons ⟨rfl, holds_text _⟩ <| .cons ⟨rfl, holds_textMap _⟩ .nil
  | loadBalancer r =>
      exact .cons ⟨rfl, holds_text _⟩ <| .cons ⟨rfl, holds_textMap _⟩ <|
        .cons ⟨rfl, holds_optionalText _⟩ <| .cons ⟨rfl, holds_textMap _⟩ .nil

/-- Every column of a row is one of its table and holds what that one holds. -/
theorem exists_columnKind {form : String → Prop} {r : Row} (h : ∀ u ∈ r.referenced, form u)
    {c : String × Value} (hc : c ∈ r.columns) :
    ∃ k ∈ columnKinds r.table, c.1 = k.1 ∧ k.2.Holds form c.2 := by
  have hcolumns := holds_columns h
  generalize columnKinds r.table = kinds at hcolumns ⊢
  generalize r.columns = columns at hcolumns hc
  induction hcolumns with
  | nil =>
      cases hc
  | @cons k d kinds columns hk _ ih =>
      rcases List.mem_cons.mp hc with rfl | hc
      · exact ⟨k, List.mem_cons_self, hk⟩
      · rcases ih hc with ⟨k', hmem, hk'⟩
        exact ⟨k', List.mem_cons_of_mem _ hmem, hk'⟩

theorem map_fst_columns (r : Row) :
    r.columns.map Prod.fst = (columnKinds r.table).map Prod.fst := by
  cases r <;> rfl

/-- The names of the columns of a row do not repeat. -/
theorem nodup_columns (r : Row) : (r.columns.map Prod.fst).Nodup := by
  rw [map_fst_columns]
  exact nodup_columnKinds r.table

end Row
end LogicalNet
