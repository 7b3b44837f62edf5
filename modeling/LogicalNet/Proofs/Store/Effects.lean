import LogicalNet.Proofs.Outcome
import LogicalNet.Proofs.Row.Change
import LogicalNet.Proofs.TextMap

/-!
# What an operation does

In well-formed tables every row stands in its own table under its own identifier,
and no two rows of a table with a name index share a name.  `Effect` says once when
an operation on such tables succeeds and which tables it leaves; what the operations
keep is proved by cases on it.
-/

namespace LogicalNet
namespace Tables

variable {ts us : Tables}

/-! ## Well-formed tables -/

structure WellFormed (ts : Tables) : Prop where
  table_eq : ∀ {t u r}, (ts t).get? u = some r → r.table = t
  uuid_eq : ∀ {t u r}, (ts t).get? u = some r → r.uuid = u
  unique : ∀ {t}, t.hasNameIndex = true → ∀ {u v r s}, (ts t).get? u = some r →
    (ts t).get? v = some s → r.name? = s.name? → u = v

theorem WellFormed.empty : WellFormed Tables.empty := by
  constructor <;> intros <;> simp_all

theorem get?_uuid (ts : Tables) (table : Table) (s : String) :
    ts.get? table (.uuid s) = (ts table).get? s := by
  unfold get? findKey?
  by_cases h : (ts table).contains s = true
  · simp [h]
  · simp only [h]
    exact (TextMap.contains_eq_false_iff.mp (by simpa using h)).symm

theorem eq_of_findKey?_uuid {ts : Tables} {table : Table} {s key : String}
    (h : ts.findKey? table (.uuid s) = some key) : key = s := by
  rw [findKey?] at h
  split at h
  · exact (Option.some.inj h).symm
  · cases h

theorem findKey?_name (ts : Tables) (table : Table) (s : String) :
    ts.findKey? table (.name s) =
      ((ts table).values.find? (Lookup.name s).addresses).map Row.uuid :=
  rfl

/-- The key that a lookup finds is that of a row it addresses. -/
theorem WellFormed.get?_of_findKey? (hts : ts.WellFormed) {table : Table} {lookup : Lookup}
    {key : String} (h : ts.findKey? table lookup = some key) :
    ∃ row, (ts table).get? key = some row ∧ lookup.addresses row = true := by
  cases lookup with
  | uuid s =>
      rw [findKey?] at h
      split at h
      · rename_i hs
        cases h
        rcases TextMap.contains_iff.mp hs with ⟨row, hrow⟩
        refine ⟨row, hrow, ?_⟩
        simp [Lookup.addresses, hts.uuid_eq hrow]
      · cases h
  | name s =>
      rw [findKey?] at h
      rcases Option.map_eq_some_iff.mp h with ⟨row, hfind, hkey⟩
      rcases TextMap.mem_values_iff.mp (List.mem_of_find?_eq_some hfind) with ⟨u, hu⟩
      have huuid := hts.uuid_eq hu
      rw [← hkey, huuid]
      exact ⟨row, hu, List.find?_some hfind⟩

theorem WellFormed.get?_eq_some_iff (hts : ts.WellFormed) {table : Table} {lookup : Lookup}
    {row : Row} : ts.get? table lookup = some row ↔
      ts.findKey? table lookup = some row.uuid ∧ (ts table).get? row.uuid = some row := by
  unfold get?
  cases hkey : ts.findKey? table lookup with
  | none =>
      simp
  | some key =>
      simp only [Option.some.injEq]
      constructor
      · intro h
        have huuid := hts.uuid_eq h
        exact ⟨huuid.symm, by rw [huuid]; exact h⟩
      · intro hfound
        rcases hfound with ⟨hk, h⟩
        rw [hk]
        exact h

/-- The one row of its name in a table with a name index is found by it. -/
theorem WellFormed.get?_of_addresses (hts : ts.WellFormed) {table : Table} {lookup : Lookup}
    {key : String} {row : Row} (hrow : (ts table).get? key = some row)
    (h : lookup.addresses row = true)
    (hlookup : (∃ s, lookup = .uuid s) ∨ table.hasNameIndex = true) :
    ts.get? table lookup = some row := by
  cases lookup with
  | uuid s =>
      have huuid : row.uuid = s := by
        simpa [Lookup.addresses] using h
      rw [get?_uuid, ← huuid, hts.uuid_eq hrow]
      exact hrow
  | name s =>
      have hindex : table.hasNameIndex = true := by
        rcases hlookup with ⟨u, hu⟩ | hindex
        · cases hu
        · exact hindex
      have hname : row.name? = some s := by
        simpa [Lookup.addresses] using h
      cases hfind : (ts table).values.find? (Lookup.name s).addresses with
      | none =>
          have hmem : row ∈ (ts table).values := TextMap.mem_values_iff.mpr ⟨key, hrow⟩
          exact absurd h (List.find?_eq_none.mp hfind row hmem)
      | some other =>
          rcases TextMap.mem_values_iff.mp (List.mem_of_find?_eq_some hfind) with ⟨u, hu⟩
          have hother : other.name? = some s := by
            simpa [Lookup.addresses] using List.find?_some hfind
          have hkey : u = key := hts.unique hindex hu hrow (hother.trans hname.symm)
          subst hkey
          rw [hrow] at hu
          cases hu
          have hkey : ts.findKey? table (.name s) = some row.uuid := by
            rw [findKey?_name, hfind]
            rfl
          refine hts.get?_eq_some_iff.mpr ⟨hkey, ?_⟩
          rw [hts.uuid_eq hrow]
          exact hrow

/-! ## One operation -/

inductive Effect (ts : Tables) : Operation → Tables → Prop where
  | insert {row : Row} (hfault : row.fault? = none)
      (hnew : (ts row.table).get? row.uuid = none) (hname : ts.isNameTaken row = false) :
      Effect ts (.insert row) (ts.put row)
  | update {row old : Row} (hfault : row.fault? = none)
      (hold : (ts row.table).get? row.uuid = some old) (hname : ts.isNameTaken row = false) :
      Effect ts (.update row) (ts.put row)
  | delete {table : Table} {lookup : Lookup} {key : String}
      (hkey : ts.findKey? table lookup = some key) :
      Effect ts (.delete table lookup) (ts.remove table key)
  | deleteNone {table : Table} {lookup : Lookup} (hkey : ts.findKey? table lookup = none) :
      Effect ts (.delete table lookup) ts
  | addRefs {table target : Table} {lookup : Lookup} {column : RefColumn} {uuids : List String}
      {key : String} {row : Row} (htarget : column.target? table = some target)
      (huuids : ∀ u ∈ uuids, (ts target).contains u = true)
      (hkey : ts.findKey? table lookup = some key) (hrow : (ts table).get? key = some row)
      (hcolumn : (row.references? column).isSome = true) :
      Effect ts (.addRefs table lookup column uuids)
        (ts.setRow table key (row.mapReferences (addMissing · uuids) column))
  | removeRefs {table : Table} {lookup : Lookup} {column : RefColumn} {uuids : List String}
      {key : String} {row : Row} (htarget : (column.target? table).isSome = true)
      (hkey : ts.findKey? table lookup = some key) (hrow : (ts table).get? key = some row) :
      Effect ts (.removeRefs table lookup column uuids)
        (ts.setRow table key (row.mapReferences (List.filter (· ∉ uuids)) column))
  | removeRefsNone {table : Table} {lookup : Lookup} {column : RefColumn} {uuids : List String}
      (htarget : (column.target? table).isSome = true)
      (hkey : ts.findKey? table lookup = none) :
      Effect ts (.removeRefs table lookup column uuids) ts
  | setKeys {table : Table} {lookup : Lookup} {column : MapColumn} {entries : TextMap String}
      {key : String} {row : Row} (hkey : ts.findKey? table lookup = some key)
      (hrow : (ts table).get? key = some row) (hcolumn : (row.map? column).isSome = true) :
      Effect ts (.setKeys table lookup column entries)
        (ts.setRow table key (row.mapKeys (·.insertAll entries.entries) column))

theorem effect_of_insert {row : Row} (h : ts.insert row = .ok us) :
    Effect ts (.insert row) us := by
  unfold insert at h
  split at h
  · cases h
  · rename_i hfault
    split at h
    · cases h
    · rename_i hnew
      split at h
      · cases h
      · rename_i hname
        cases h
        exact .insert hfault (TextMap.contains_eq_false_iff.mp (by simpa using hnew))
          (by simpa using hname)

theorem effect_of_update {row : Row} (h : ts.update row = .ok us) :
    Effect ts (.update row) us := by
  unfold update at h
  split at h
  · cases h
  · rename_i hfault
    split at h
    · cases h
    · rename_i hold
      split at h
      · cases h
      · rename_i hname
        cases h
        rcases TextMap.contains_iff.mp (by simpa using hold) with ⟨old, hold⟩
        exact .update hfault hold (by simpa using hname)

theorem effect_of_delete (table : Table) (lookup : Lookup) :
    Effect ts (.delete table lookup) (ts.delete table lookup) := by
  unfold delete
  split
  · rename_i key hkey
    exact .delete hkey
  · rename_i hkey
    exact .deleteNone hkey

theorem effect_of_addRefs {table : Table} {lookup : Lookup} {column : RefColumn}
    {uuids : List String} (h : ts.addRefs table lookup column uuids = .ok us) :
    Effect ts (.addRefs table lookup column uuids) us := by
  unfold addRefs at h
  split at h
  · cases h
  · rename_i target htarget
    split at h
    · cases h
    · rename_i hmissing
      split at h
      · cases h
      · rename_i key hkey
        split at h
        · cases h
        · rename_i row hrow
          split at h
          · cases h
          · rename_i hcolumn
            cases h
            exact .addRefs htarget (by simpa using hmissing) hkey hrow
              (by simpa [Option.isSome_iff_ne_none] using hcolumn)

theorem effect_of_removeRefs (hts : ts.WellFormed) {table : Table} {lookup : Lookup}
    {column : RefColumn} {uuids : List String}
    (h : ts.removeRefs table lookup column uuids = .ok us) :
    Effect ts (.removeRefs table lookup column uuids) us := by
  unfold removeRefs at h
  split at h
  · cases h
  · rename_i htarget
    split at h
    · rename_i hkey
      cases h
      exact .removeRefsNone (by simpa [Option.isSome_iff_ne_none] using htarget) hkey
    · rename_i key hkey
      rcases hts.get?_of_findKey? hkey with ⟨row, hrow, _⟩
      rw [hrow] at h
      cases h
      exact .removeRefs (by simpa [Option.isSome_iff_ne_none] using htarget) hkey hrow

theorem effect_of_setKeys {table : Table} {lookup : Lookup} {column : MapColumn}
    {entries : TextMap String} (h : ts.setKeys table lookup column entries = .ok us) :
    Effect ts (.setKeys table lookup column entries) us := by
  unfold setKeys at h
  split at h
  · cases h
  · rename_i key hkey
    split at h
    · cases h
    · rename_i row hrow
      split at h
      · cases h
      · rename_i hcolumn
        cases h
        exact .setKeys hkey hrow (by simpa [Option.isSome_iff_ne_none] using hcolumn)

/-- An operation on well-formed tables does one of these things, or it fails. -/
theorem effect_of_apply (hts : ts.WellFormed) {op : Operation} (h : ts.apply op = .ok us) :
    Effect ts op us := by
  cases op with
  | insert row =>
      exact effect_of_insert h
  | update row =>
      exact effect_of_update h
  | delete table lookup =>
      cases h
      exact effect_of_delete table lookup
  | addRefs table lookup column uuids =>
      exact effect_of_addRefs h
  | removeRefs table lookup column uuids =>
      exact effect_of_removeRefs hts h
  | setKeys table lookup column entries =>
      exact effect_of_setKeys h

/-! ## What every operation keeps -/

theorem get?_put (ts : Tables) (row : Row) (t : Table) (u : String) :
    (ts.put row t).get? u =
      if t = row.table ∧ u = row.uuid then some row else (ts t).get? u := by
  unfold put
  rw [rows_setTable]
  by_cases ht : t = row.table
  · subst ht
    rw [if_pos rfl, TextMap.get?_insert]
    by_cases hu : u = row.uuid
    · simp [hu]
    · simp [hu, Ne.symm hu]
  · simp [ht]

theorem get?_put_self (ts : Tables) (row : Row) :
    (ts.put row row.table).get? row.uuid = some row := by
  rw [get?_put, if_pos ⟨rfl, rfl⟩]

/-- A new row takes the place of no other. -/
theorem get?_put_of_new {ts : Tables} {row : Row}
    (hnew : (ts row.table).get? row.uuid = none) {t : Table} {u : String} {r : Row}
    (hr : (ts t).get? u = some r) : (ts.put row t).get? u = some r := by
  rw [get?_put, if_neg]
  · exact hr
  · intro hfound
    rcases hfound with ⟨rfl, rfl⟩
    rw [hnew] at hr
    cases hr

theorem get?_setRow (ts : Tables) (table : Table) (key : String) (row : Row) (t : Table)
    (u : String) :
    (ts.setRow table key row t).get? u =
      if t = table ∧ u = key then some row else (ts t).get? u := by
  unfold setRow
  rw [rows_setTable]
  by_cases ht : t = table
  · subst ht
    rw [if_pos rfl, TextMap.get?_insert]
    by_cases hu : u = key
    · simp [hu]
    · simp [hu, Ne.symm hu]
  · simp [ht]

theorem get?_remove (ts : Tables) (table : Table) (key : String) (t : Table) (u : String) :
    (ts.remove table key t).get? u =
      if t = table ∧ u = key then none else ((ts t).get? u).map (dropReferences table key) := by
  unfold remove
  rw [rows_mapRows, TextMap.get?_mapValues, rows_setTable]
  by_cases ht : t = table
  · subst ht
    rw [if_pos rfl, TextMap.get?_erase]
    by_cases hu : u = key
    · simp [hu]
    · simp [hu, Ne.symm hu]
  · simp [ht]

theorem ne_name_of_not_taken {row : Row} (h : ts.isNameTaken row = false)
    (hindex : row.table.hasNameIndex = true) {u : String} {r : Row} (hts : ts.WellFormed)
    (hr : (ts row.table).get? u = some r) (hu : u ≠ row.uuid) : r.name? ≠ row.name? := by
  intro hname
  rcases Row.isSome_name? hindex with ⟨name, hsome⟩
  have hmem : r ∈ ts.list row.table := TextMap.mem_values_iff.mpr ⟨u, hr⟩
  have huuid : r.uuid ≠ row.uuid := by
    rw [hts.uuid_eq hr]
    exact hu
  have htaken : ts.isNameTaken row = true := by
    simp only [isNameTaken, hindex, hsome, Option.isSome_some, Bool.and_self, Bool.true_and,
      List.any_eq_true]
    refine ⟨r, hmem, ?_⟩
    simp [huuid, hname, hsome]
  rw [h] at htaken
  cases htaken

namespace WellFormed

theorem put (hts : ts.WellFormed) {row : Row} (h : ts.isNameTaken row = false) :
    (ts.put row).WellFormed := by
  have hget : ∀ {t u r}, (ts.put row t).get? u = some r →
      (t = row.table ∧ u = row.uuid ∧ r = row) ∨
        ((t ≠ row.table ∨ u ≠ row.uuid) ∧ (ts t).get? u = some r) := by
    intro t u r hr
    rw [get?_put] at hr
    split at hr
    · rename_i htu
      cases hr
      exact .inl ⟨htu.1, htu.2, rfl⟩
    · rename_i htu
      exact .inr ⟨Decidable.not_and_iff_not_or_not.mp htu, hr⟩
  constructor
  · intro t u r hr
    rcases hget hr with ⟨rfl, _, rfl⟩ | ⟨_, hr⟩
    · rfl
    · exact hts.table_eq hr
  · intro t u r hr
    rcases hget hr with ⟨_, rfl, rfl⟩ | ⟨_, hr⟩
    · rfl
    · exact hts.uuid_eq hr
  · intro t hindex u v r s hr hs hname
    rcases hget hr with ⟨rfl, rfl, rfl⟩ | ⟨hu, hr⟩
    · rcases hget hs with ⟨_, rfl, _⟩ | ⟨hv, hs⟩
      · rfl
      · have hne : v ≠ r.uuid := by
          simpa using hv
        exact absurd hname.symm (ne_name_of_not_taken h hindex hts hs hne)
    · rcases hget hs with ⟨rfl, rfl, rfl⟩ | ⟨_, hs⟩
      · have hne : u ≠ s.uuid := by
          simpa using hu
        exact absurd hname (ne_name_of_not_taken h hindex hts hr hne)
      · exact hts.unique hindex hr hs hname

/-- It is enough that every row was there before with the same table, identifier and name. -/
theorem of_rows (hts : ts.WellFormed)
    (h : ∀ {t u r}, (us t).get? u = some r → ∃ r₀, (ts t).get? u = some r₀ ∧
      r.table = r₀.table ∧ r.uuid = r₀.uuid ∧ r.name? = r₀.name?) : us.WellFormed := by
  constructor
  · intro t u r hr
    rcases h hr with ⟨r₀, hr₀, htable, _, _⟩
    exact htable.trans (hts.table_eq hr₀)
  · intro t u r hr
    rcases h hr with ⟨r₀, hr₀, _, huuid, _⟩
    exact huuid.trans (hts.uuid_eq hr₀)
  · intro t hindex u v r s hr hs hname
    rcases h hr with ⟨r₀, hr₀, _, _, hr₀name⟩
    rcases h hs with ⟨s₀, hs₀, _, _, hs₀name⟩
    exact hts.unique hindex hr₀ hs₀ (hr₀name.symm.trans (hname.trans hs₀name))

theorem setRow (hts : ts.WellFormed) {table : Table} {key : String} {row row' : Row}
    (hrow : (ts table).get? key = some row) (htable : row'.table = row.table)
    (huuid : row'.uuid = row.uuid) (hname : row'.name? = row.name?) :
    (ts.setRow table key row').WellFormed := by
  apply hts.of_rows
  intro t u r hr
  rw [get?_setRow] at hr
  split at hr
  · rename_i htu
    cases hr
    rw [htu.1, htu.2]
    exact ⟨row, hrow, htable, huuid, hname⟩
  · exact ⟨r, hr, rfl, rfl, rfl⟩

theorem remove (hts : ts.WellFormed) (table : Table) (key : String) :
    (ts.remove table key).WellFormed := by
  apply hts.of_rows
  intro t u r hr
  rw [get?_remove] at hr
  split at hr
  · cases hr
  · rcases Option.map_eq_some_iff.mp hr with ⟨r₀, hr₀, rfl⟩
    exact ⟨r₀, hr₀, by simp, by simp, by simp⟩

theorem effect (hts : ts.WellFormed) {op : Operation} (h : Effect ts op us) :
    us.WellFormed := by
  cases h with
  | insert _ _ hname =>
      exact hts.put hname
  | update _ _ hname =>
      exact hts.put hname
  | delete _ =>
      exact hts.remove _ _
  | deleteNone _ =>
      exact hts
  | addRefs _ _ _ hrow _ =>
      exact hts.setRow hrow (by simp) (by simp) (by simp)
  | removeRefs _ _ hrow =>
      exact hts.setRow hrow (by simp) (by simp) (by simp)
  | removeRefsNone _ _ =>
      exact hts
  | setKeys _ hrow _ =>
      exact hts.setRow hrow (by simp) (by simp) (by simp)

theorem apply (hts : ts.WellFormed) {op : Operation} (h : ts.apply op = .ok us) :
    us.WellFormed :=
  hts.effect (effect_of_apply hts h)

end WellFormed

/-! ## Transactions -/

theorem applyAll_cons_eq_ok_iff {op : Operation} {ops : List Operation} :
    ts.applyAll (op :: ops) = .ok us ↔ ∃ vs, ts.apply op = .ok vs ∧ vs.applyAll ops = .ok us := by
  rw [applyAll]
  cases ts.apply op with
  | error e =>
      simp
  | ok vs =>
      simp

theorem WellFormed.applyAll (hts : ts.WellFormed) {ops : List Operation}
    (h : ts.applyAll ops = .ok us) : us.WellFormed := by
  induction ops generalizing ts with
  | nil =>
      cases h
      exact hts
  | cons op rest ih =>
      rcases applyAll_cons_eq_ok_iff.mp h with ⟨vs, hop, hrest⟩
      exact ih (hts.apply hop) hrest

end Tables
end LogicalNet
