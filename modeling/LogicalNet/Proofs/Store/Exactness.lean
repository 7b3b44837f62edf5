import LogicalNet.Proofs.Store.Addition
import LogicalNet.Proofs.Store.Collection

/-!
# Changes to exactly these rows

What is left when rows are deleted that no other row lists, and what it is to change
the one row of a name.
-/

namespace LogicalNet
namespace Tables

variable {ts us : Tables}

/-! ## Deletions by identifier -/

theorem applyAll_deletions (ts : Tables) (rows : List (Table × String)) :
    ts.applyAll (rows.map fun p => .delete p.1 (.uuid p.2)) = .ok (ts.deleteAll rows) := by
  induction rows generalizing ts with
  | nil =>
      rfl
  | cons p rest ih =>
      exact ih _

theorem get?_delete_uuid (ts : Tables) (t' : Table) (u' : String) (t : Table) (u : String) :
    (ts.delete t' (.uuid u') t).get? u = if t = t' ∧ u = u' then none
      else if (ts t').contains u' = true then ((ts t).get? u).map (dropReferences t' u')
      else (ts t).get? u := by
  rw [delete_uuid]
  split
  · rename_i hcontains
    exact get?_remove ts t' u' t u
  · rename_i hcontains
    split
    · rename_i htu
      rw [htu.1, htu.2]
      exact TextMap.contains_eq_false_iff.mp (by simpa using hcontains)
    · rfl

/-- The other rows stay as they are when none of them lists a row that is deleted; the rows that are
deleted may list each other. -/
theorem get?_deleteAll_of_closed (hts : ts.WellFormed) {rows : List (Table × String)}
    (h : ∀ {t u r}, (ts t).get? u = some r → (t, u) ∉ rows → ∀ p ∈ rows, ∀ c : RefColumn,
      c.target? t = some p.1 → p.2 ∉ r.refs c) (t : Table) (u : String) :
    (ts.deleteAll rows t).get? u = if (t, u) ∈ rows then none else (ts t).get? u := by
  induction rows generalizing ts with
  | nil =>
      rfl
  | cons p rest ih =>
      have hstays : ∀ {t u}, (t, u) ∉ p :: rest →
          (ts.delete p.1 (.uuid p.2) t).get? u = (ts t).get? u := by
        intro t u hnot
        rw [get?_delete_uuid, if_neg]
        · split
          · cases hr : (ts t).get? u with
            | none =>
                rfl
            | some r =>
                rw [Option.map_some, dropReferences_eq_self]
                intro c htarget
                rw [hts.table_eq hr] at htarget
                exact h hr hnot p (by simp) c htarget
          · rfl
        · intro htu
          apply hnot
          rw [htu.1, htu.2]
          simp
      have hdeleted : (ts.delete p.1 (.uuid p.2) p.1).get? p.2 = none := by
        rw [get?_delete_uuid, if_pos ⟨rfl, rfl⟩]
      have hlater : (ts.delete p.1 (.uuid p.2)).WellFormed :=
        hts.effect (effect_of_delete p.1 (.uuid p.2))
      show ((ts.delete p.1 (.uuid p.2)).deleteAll rest t).get? u = _
      rw [ih hlater]
      · by_cases hrest : (t, u) ∈ rest
        · rw [if_pos hrest, if_pos (List.mem_cons_of_mem p hrest)]
        · rw [if_neg hrest]
          by_cases hp : (t, u) = p
          · rw [if_pos (by simp [hp]), ← hdeleted, ← hp]
          · have hnot : (t, u) ∉ p :: rest := by
              simp [hp, hrest]
            rw [if_neg hnot, hstays hnot]
      · intro t' u' r hr hnot q hq c htarget
        have hne : (t', u') ∉ p :: rest := by
          intro hmem
          rcases List.mem_cons.mp hmem with hp | hmem
          · rw [← hp] at hdeleted
            rw [← hp] at hr
            rw [hdeleted] at hr
            cases hr
          · exact hnot hmem
        rw [hstays hne] at hr
        exact h hr hne q (by simp [hq]) c htarget

/-! ## Rows of a name -/

/-- A row of the table has the name. -/
def HasNamed (ts : Tables) (table : Table) (name : String) : Prop :=
  ∃ k r, (ts table).get? k = some r ∧ r.name? = some name

theorem WellFormed.get?_name_iff (hts : ts.WellFormed) {table : Table}
    (hindex : table.hasNameIndex = true) {name : String} {row : Row} :
    ts.get? table (.name name) = some row ↔
      (ts table).get? row.uuid = some row ∧ row.name? = some name := by
  constructor
  · intro h
    have hrow := hts.get?_eq_some_iff.mp h
    rcases hts.get?_of_findKey? hrow.1 with ⟨row', hrow', haddresses⟩
    rw [hrow.2] at hrow'
    cases hrow'
    exact ⟨hrow.2, by simpa [Lookup.addresses] using haddresses⟩
  · intro h
    apply hts.get?_of_addresses h.1 _ (.inr hindex)
    simp [Lookup.addresses, h.2]

/-- Reading by a name finds the one row that has it. -/
theorem WellFormed.name?_eq_iff (hts : ts.WellFormed) {table : Table}
    (hindex : table.hasNameIndex = true) {name k : String} {row : Row}
    (hrow : (ts table).get? k = some row) :
    row.name? = some name ↔ ts.get? table (.name name) = some row := by
  rw [hts.get?_name_iff hindex, hts.uuid_eq hrow]
  simp [hrow]

/-- No two rows of a table share a name. -/
theorem WellFormed.key_eq_of_name (hts : ts.WellFormed) {table : Table}
    (hindex : table.hasNameIndex = true) {name k k' : String} {row row' : Row}
    (hrow : (ts table).get? k = some row) (hrow' : (ts table).get? k' = some row')
    (hname : row.name? = some name) (hname' : row'.name? = some name) : k = k' := by
  have hread := (hts.name?_eq_iff hindex hrow).mp hname
  rw [(hts.name?_eq_iff hindex hrow').mp hname'] at hread
  rw [← hts.uuid_eq hrow, ← hts.uuid_eq hrow', Option.some.inj hread]

theorem WellFormed.hasNamed_iff (hts : ts.WellFormed) {table : Table}
    (hindex : table.hasNameIndex = true) {name : String} :
    ts.HasNamed table name ↔ (ts.get? table (.name name)).isSome = true := by
  rw [Option.isSome_iff_exists]
  constructor
  · intro h
    rcases h with ⟨k, r, hr, hname⟩
    exact ⟨r, (hts.name?_eq_iff hindex hr).mp hname⟩
  · intro h
    rcases h with ⟨r, hr⟩
    rcases (hts.get?_name_iff hindex).mp hr with ⟨hrow, hname⟩
    exact ⟨r.uuid, r, hrow, hname⟩

/-- The deletion of a row that nothing can list. -/
theorem get?_delete_of_not_target (hts : ts.WellFormed) {table : Table} {lookup : Lookup}
    (htarget : ∀ (o : Table) (c : RefColumn), c.target? o ≠ some table)
    (hlookup : (∃ u, lookup = .uuid u) ∨ table.hasNameIndex = true) (t : Table) (k : String)
    (r : Row) : (ts.delete table lookup t).get? k = some r ↔
      (ts t).get? k = some r ∧ ¬ (t = table ∧ lookup.addresses r = true) := by
  have hkey : ∀ {k r}, (ts table).get? k = some r →
      (lookup.addresses r = true ↔ ts.findKey? table lookup = some k) := by
    intro k r hr
    constructor
    · intro haddresses
      have hget := hts.get?_of_addresses hr haddresses hlookup
      rw [(hts.get?_eq_some_iff.mp hget).1, hts.uuid_eq hr]
    · intro hfind
      rcases hts.get?_of_findKey? hfind with ⟨r', hr', haddresses⟩
      rw [hr] at hr'
      cases hr'
      exact haddresses
  unfold delete
  cases hfind : ts.findKey? table lookup with
  | none =>
      constructor
      · intro hr
        refine ⟨hr, fun hfound => ?_⟩
        rcases hfound with ⟨rfl, haddresses⟩
        rw [(hkey hr).mp haddresses] at hfind
        cases hfind
      · intro hr
        exact hr.1
  | some key =>
      have hsame : (ts.remove table key t).get? k =
          if t = table ∧ k = key then none else (ts t).get? k := by
        rw [get?_remove]
        split
        · rfl
        · cases hr : (ts t).get? k with
          | none =>
              rfl
          | some r =>
              rw [Option.map_some, dropReferences_of_not_refers]
              intro c
              exact htarget _ c
      simp only [hsame]
      by_cases htk : t = table ∧ k = key
      · rw [if_pos htk]
        constructor
        · intro hr
          cases hr
        · intro hr
          rcases htk with ⟨rfl, rfl⟩
          exact absurd ⟨rfl, (hkey hr.1).mpr hfind⟩ hr.2
      · rw [if_neg htk]
        constructor
        · intro hr
          refine ⟨hr, fun hfound => htk ?_⟩
          rcases hfound with ⟨rfl, haddresses⟩
          rw [(hkey hr).mp haddresses] at hfind
          exact ⟨rfl, Option.some.inj hfind⟩
        · intro hr
          exact hr.1

/-- The row of the name is changed, and nothing else is. -/
def ChangesNamed (table : Table) (name : String) (f : Row → Row) (ts us : Tables) : Prop :=
  ∀ t k, (us t).get? k =
    ((ts t).get? k).map fun r => if t = table ∧ r.name? = some name then f r else r

namespace ChangesNamed

variable {table : Table} {name : String} {f : Row → Row}

theorem get?_eq (h : ChangesNamed table name f ts us) {k : String} {r : Row}
    (hr : (ts table).get? k = some r) :
    (us table).get? k = some (if r.name? = some name then f r else r) := by
  rw [h, hr]
  simp

theorem exists_of_get? (h : ChangesNamed table name f ts us) {k : String} {s : Row}
    (hs : (us table).get? k = some s) :
    ∃ r, (ts table).get? k = some r ∧ s = if r.name? = some name then f r else r := by
  cases hr : (ts table).get? k with
  | none =>
      rw [h, hr] at hs
      cases hs
  | some r =>
      rw [h.get?_eq hr] at hs
      exact ⟨r, rfl, (Option.some.inj hs).symm⟩

theorem get?_of_ne (h : ChangesNamed table name f ts us) {t : Table} (ht : t ≠ table)
    (k : String) : (us t).get? k = (ts t).get? k := by
  rw [h]
  simp [ht]

end ChangesNamed

theorem changesNamed_of_setRow (hts : ts.WellFormed) {table : Table}
    (hindex : table.hasNameIndex = true) {name : String} {row : Row}
    (hget : ts.get? table (.name name) = some row) (f : Row → Row) :
    ChangesNamed table name f ts (ts.setRow table row.uuid (f row)) := by
  rcases (hts.get?_name_iff hindex).mp hget with ⟨hrow, hname⟩
  intro t k
  rw [get?_setRow]
  split
  · rename_i htk
    rw [htk.1, htk.2, hrow]
    simp [hname]
  · rename_i htk
    cases hr : (ts t).get? k with
    | none =>
        rfl
    | some r =>
        rw [Option.map_some, if_neg]
        intro hfound
        rcases hfound with ⟨rfl, hname'⟩
        have hsame := (hts.name?_eq_iff hindex hr).mp hname'
        rw [hget] at hsame
        cases hsame
        exact htk ⟨rfl, (hts.uuid_eq hr).symm⟩

/-- The row of the name, if there is one, would not change. -/
theorem changesNamed_of_fixed (hts : ts.WellFormed) {table : Table}
    (hindex : table.hasNameIndex = true) {name : String} {f : Row → Row}
    (hf : ∀ row, ts.get? table (.name name) = some row → f row = row) :
    ChangesNamed table name f ts ts := by
  intro t k
  cases hr : (ts t).get? k with
  | none =>
      rfl
  | some r =>
      rw [Option.map_some]
      split
      · rename_i hnamed
        rcases hnamed with ⟨rfl, hname⟩
        rw [hf r ((hts.name?_eq_iff hindex hr).mp hname)]
      · rfl

end Tables
end LogicalNet
