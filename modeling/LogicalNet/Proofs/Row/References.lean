import LogicalNet.Proofs.Row.Change
import LogicalNet.Proofs.TextMap

/-!
# References of rows

The identifiers that a row lists in a column, where a row without the column lists
none, and what the changes of rows do to them.  Changes that only leave identifiers
out can be made in any order.
-/

namespace LogicalNet
namespace Row

/-! ## Listed identifiers -/

def refs (r : Row) (c : RefColumn) : List String :=
  (r.references? c).getD []

theorem refs_eq_nil {r : Row} {c : RefColumn} (h : c.target? r.table = none) : r.refs c = [] := by
  have hsome := isSome_references?_iff c r
  unfold refs
  cases hr : r.references? c with
  | none =>
      rfl
  | some l =>
      rw [hr, h] at hsome
      cases hsome.mp rfl

theorem refs_mapReferences (f : List String → List String) {c : RefColumn} {r : Row}
    (h : (c.target? r.table).isSome = true) (c' : RefColumn) :
    (r.mapReferences f c).refs c' = if c' = c then f (r.refs c') else r.refs c' := by
  unfold refs
  rw [references?_mapReferences]
  by_cases hc : c' = c
  · subst hc
    rw [if_pos rfl, if_pos rfl]
    rcases Option.isSome_iff_exists.mp ((isSome_references?_iff c' r).mpr h) with ⟨l, hl⟩
    rw [hl]
    rfl
  · rw [if_neg hc, if_neg hc]

/-- Changing one column leaves the others. -/
theorem refs_mapReferences_of_ne (f : List String → List String) {c c' : RefColumn} (h : c' ≠ c)
    (r : Row) : (r.mapReferences f c).refs c' = r.refs c' := by
  unfold refs
  rw [references?_mapReferences, if_neg h]

theorem refs_mapReferences_filter (p : String → Bool) (c : RefColumn) (r : Row) (c' : RefColumn) :
    (r.mapReferences (List.filter p) c).refs c' =
      if c' = c then (r.refs c').filter p else r.refs c' := by
  unfold refs
  rw [references?_mapReferences]
  by_cases hc : c' = c
  · rw [if_pos hc, if_pos hc]
    cases r.references? c' <;> rfl
  · rw [if_neg hc, if_neg hc]

@[simp]
theorem refs_mapKeys (f : TextMap String → TextMap String) (c : MapColumn) (r : Row)
    (c' : RefColumn) : (r.mapKeys f c).refs c' = r.refs c' := by
  unfold refs
  rw [references?_mapKeys]

/-! ## The order of changes -/

theorem mapReferences_eq_self {f : List String → List String} {c : RefColumn} {r : Row}
    (h : f (r.refs c) = r.refs c) : r.mapReferences f c = r := by
  have hcolumn : ∀ l, r.references? c = some l → f l = l := by
    intro l hl
    rw [refs, hl] at h
    exact h
  cases c <;> cases r <;> first | rfl | simp only [mapReferences, hcolumn _ rfl]

theorem mapReferences_comm {f g : List String → List String} (h : ∀ l, f (g l) = g (f l))
    (c c' : RefColumn) (r : Row) :
    (r.mapReferences g c').mapReferences f c = (r.mapReferences f c).mapReferences g c' := by
  cases c <;> cases c' <;> cases r <;> first | rfl | simp only [mapReferences, h]

end Row

namespace Tables

variable (target : Table) (key : String) (r : Row)

theorem refs_dropReferences (c : RefColumn) :
    (dropReferences target key r).refs c =
      if c.target? r.table = some target then (r.refs c).filter (· ≠ key) else r.refs c := by
  unfold Row.refs
  rw [references?_dropReferences]
  split
  · cases r.references? c <;> rfl
  · rfl

/-- A row that does not list the identifier stays as it is. -/
theorem dropReferences_eq_self
    (h : ∀ c : RefColumn, c.target? r.table = some target → key ∉ r.refs c) :
    dropReferences target key r = r := by
  have hone : ∀ c, dropReference target key r c = r := by
    intro c
    unfold dropReference
    split
    · rename_i htarget
      refine Row.mapReferences_eq_self (List.filter_eq_self.mpr ?_)
      intro u hu
      have hne : u ≠ key := by
        intro hsame
        rcases hsame with rfl
        exact h c htarget hu
      simpa using hne
    · rfl
  rw [dropReferences_eq_foldl]
  generalize RefColumn.all = columns
  induction columns with
  | nil =>
      rfl
  | cons c rest ih =>
      rw [List.foldl_cons, hone c, ih]

theorem filter_filter_comm (p q : String → Bool) (l : List String) :
    (l.filter q).filter p = (l.filter p).filter q := by
  simp only [List.filter_filter, Bool.and_comm]

theorem dropReferences_mapReferences (p : String → Bool) (c : RefColumn) :
    dropReferences target key (r.mapReferences (List.filter p) c) =
      (dropReferences target key r).mapReferences (List.filter p) c := by
  rw [dropReferences_eq_foldl, dropReferences_eq_foldl]
  generalize RefColumn.all = columns
  induction columns generalizing r with
  | nil =>
      rfl
  | cons d rest ih =>
      rw [List.foldl_cons, List.foldl_cons, ← ih]
      congr 1
      unfold dropReference
      rw [Row.table_mapReferences]
      split
      · exact Row.mapReferences_comm (filter_filter_comm _ _) d c r
      · rfl

theorem dropReferences_comm (target' : Table) (key' : String) :
    dropReferences target key (dropReferences target' key' r) =
      dropReferences target' key' (dropReferences target key r) := by
  rw [dropReferences_eq_foldl target' key' r,
    dropReferences_eq_foldl target' key' (dropReferences target key r)]
  generalize RefColumn.all = columns
  induction columns generalizing r with
  | nil =>
      rfl
  | cons c rest ih =>
      rw [List.foldl_cons, List.foldl_cons, ih]
      congr 1
      unfold dropReference
      rw [table_dropReferences]
      split
      · exact dropReferences_mapReferences target key r _ c
      · rfl

end Tables

/-! ## Rows that go by the same names -/

/-- What a change of references and of maps leaves as it is: the table, the identifier, the name and
the router that the row names. -/
structure Row.Alike (r s : Row) : Prop where
  table : s.table = r.table
  uuid : s.uuid = r.uuid
  name? : s.name? = r.name?
  router : s.externalIds.get? ExternalId.router = r.externalIds.get? ExternalId.router

namespace Row.Alike

variable {r s t : Row}

theorem refl (r : Row) : r.Alike r :=
  ⟨rfl, rfl, rfl, rfl⟩

theorem trans (h : r.Alike s) (h' : s.Alike t) : r.Alike t :=
  ⟨h'.table.trans h.table, h'.uuid.trans h.uuid, h'.name?.trans h.name?,
    h'.router.trans h.router⟩

theorem addresses (h : r.Alike s) (l : Lookup) : l.addresses s = l.addresses r := by
  cases l with
  | uuid u =>
      simp only [Lookup.addresses, h.uuid]
  | name n =>
      simp only [Lookup.addresses, h.name?]

theorem mapReferences (f : List String → List String) (c : RefColumn) (r : Row) :
    r.Alike (r.mapReferences f c) :=
  ⟨by simp, by simp, by simp, by simp⟩

theorem mapKeys {entries : TextMap String} (h : entries.get? ExternalId.router = none)
    (c : MapColumn) (r : Row) : r.Alike (r.mapKeys (·.insertAll entries.entries) c) := by
  have hids := externalIds_mapKeys (·.insertAll entries.entries) c r
  refine ⟨by simp, by simp, by simp, ?_⟩
  rw [hids]
  split
  · exact TextMap.get?_insertAll_entries h
  · rfl

theorem dropReferences (target : Table) (key : String) (r : Row) :
    r.Alike (Tables.dropReferences target key r) :=
  ⟨by simp, by simp, by simp, by simp⟩

end Row.Alike
end LogicalNet
