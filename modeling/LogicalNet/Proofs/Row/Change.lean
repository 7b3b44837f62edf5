import LogicalNet.Store.Memory

/-!
# What a change of a row leaves as it is

A change of a column of references or of a map moves a row neither to another table
nor to another identifier or name.  The columns of references besides the changed
one stay as they are.
-/

namespace LogicalNet
namespace Row

/-! ## Columns of references -/

section References

variable (f : List String → List String) (c : RefColumn) (r : Row)

@[simp]
theorem table_mapReferences : (r.mapReferences f c).table = r.table := by
  cases c <;> cases r <;> rfl

@[simp]
theorem uuid_mapReferences : (r.mapReferences f c).uuid = r.uuid := by
  cases c <;> cases r <;> rfl

@[simp]
theorem name?_mapReferences : (r.mapReferences f c).name? = r.name? := by
  cases c <;> cases r <;> rfl

@[simp]
theorem externalIds_mapReferences : (r.mapReferences f c).externalIds = r.externalIds := by
  cases c <;> cases r <;> rfl

theorem references?_mapReferences (c' : RefColumn) :
    (r.mapReferences f c).references? c' =
      if c' = c then (r.references? c').map f else r.references? c' := by
  cases c <;> cases c' <;> cases r <;> rfl

/-- A row has the columns that its table has. -/
theorem isSome_references?_iff :
    (r.references? c).isSome = true ↔ (c.target? r.table).isSome = true := by
  cases c <;> cases r <;> simp [references?, RefColumn.target?, table]

end References

/-! ## Columns of maps -/

section Maps

variable (f : TextMap String → TextMap String) (c : MapColumn) (r : Row)

@[simp]
theorem table_mapKeys : (r.mapKeys f c).table = r.table := by
  cases c <;> cases r <;> rfl

@[simp]
theorem uuid_mapKeys : (r.mapKeys f c).uuid = r.uuid := by
  cases c <;> cases r <;> rfl

@[simp]
theorem name?_mapKeys : (r.mapKeys f c).name? = r.name? := by
  cases c <;> cases r <;> rfl

@[simp]
theorem references?_mapKeys (c' : RefColumn) :
    (r.mapKeys f c).references? c' = r.references? c' := by
  cases c <;> cases c' <;> cases r <;> rfl

theorem externalIds_mapKeys :
    (r.mapKeys f c).externalIds = if c = .externalIds then f r.externalIds else r.externalIds := by
  cases c <;> cases r <;> rfl

end Maps

theorem isSome_name? {r : Row} (h : r.table.hasNameIndex = true) : ∃ name, r.name? = some name := by
  cases r with
  | staticRoute r =>
      cases h
  | acl r =>
      cases h
  | dhcpOptions r =>
      cases h
  | nat r =>
      cases h
  | _ =>
      exact ⟨_, rfl⟩

end Row

/-! ## References to a row that is gone -/

namespace Tables

/-- One column of the walk over the columns that refer to the table. -/
def dropReference (target : Table) (key : String) (r : Row) (c : RefColumn) : Row :=
  if c.target? r.table = some target then r.mapReferences (List.filter (· ≠ key)) c else r

theorem dropReferences_eq_foldl (target : Table) (key : String) (r : Row) :
    dropReferences target key r = RefColumn.all.foldl (dropReference target key) r :=
  rfl

section

variable (target : Table) (key : String) (r : Row)

@[simp]
theorem table_dropReference (c : RefColumn) :
    (dropReference target key r c).table = r.table := by
  unfold dropReference
  split <;> simp

@[simp]
theorem uuid_dropReference (c : RefColumn) : (dropReference target key r c).uuid = r.uuid := by
  unfold dropReference
  split <;> simp

@[simp]
theorem name?_dropReference (c : RefColumn) :
    (dropReference target key r c).name? = r.name? := by
  unfold dropReference
  split <;> simp

@[simp]
theorem externalIds_dropReference (c : RefColumn) :
    (dropReference target key r c).externalIds = r.externalIds := by
  unfold dropReference
  split <;> simp

@[simp]
theorem table_dropReferences : (dropReferences target key r).table = r.table := by
  simp [dropReferences_eq_foldl, RefColumn.all]

@[simp]
theorem uuid_dropReferences : (dropReferences target key r).uuid = r.uuid := by
  simp [dropReferences_eq_foldl, RefColumn.all]

@[simp]
theorem name?_dropReferences : (dropReferences target key r).name? = r.name? := by
  simp [dropReferences_eq_foldl, RefColumn.all]

@[simp]
theorem externalIds_dropReferences :
    (dropReferences target key r).externalIds = r.externalIds := by
  simp [dropReferences_eq_foldl, RefColumn.all]

theorem references?_dropReference (c c' : RefColumn) :
    (dropReference target key r c).references? c' =
      if c' = c ∧ c'.target? r.table = some target then
        (r.references? c').map (List.filter (· ≠ key))
      else r.references? c' := by
  unfold dropReference
  by_cases hc : c' = c
  · subst hc
    split <;> simp_all [Row.references?_mapReferences]
  · split <;> simp [Row.references?_mapReferences, hc]

theorem references?_foldl_dropReference (columns : List RefColumn) (h : columns.Nodup)
    (c : RefColumn) :
    (columns.foldl (dropReference target key) r).references? c =
      if c ∈ columns ∧ c.target? r.table = some target then
        (r.references? c).map (List.filter (· ≠ key))
      else r.references? c := by
  induction columns generalizing r with
  | nil =>
      simp
  | cons d rest ih =>
      have hrest := List.nodup_cons.mp h
      rw [List.foldl_cons, ih (dropReference target key r d) hrest.2, table_dropReference,
        references?_dropReference]
      by_cases hcd : c = d
      · subst hcd
        simp [hrest.1]
      · simp [hcd]

/-- Every column that refers to the table loses the identifier, and no other column changes. -/
theorem references?_dropReferences (c : RefColumn) :
    (dropReferences target key r).references? c =
      if c.target? r.table = some target then
        (r.references? c).map (List.filter (· ≠ key))
      else r.references? c := by
  rw [dropReferences_eq_foldl,
    references?_foldl_dropReference target key r RefColumn.all (by decide) c]
  simp [RefColumn.mem_all]

/-- A row of a table without references to the other stays as it is. -/
theorem dropReferences_of_not_refers (h : ∀ c : RefColumn, c.target? r.table ≠ some target) :
    dropReferences target key r = r := by
  simp [dropReferences, RefColumn.all, h]

end

end Tables
end LogicalNet
