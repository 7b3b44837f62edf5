import LogicalNet.Proofs.Store.Exactness
import LogicalNet.Proofs.Store.Provenance
import LogicalNet.Proofs.Store.Representation

/-!
# What an operation leaves as it is

An operation names a row, and some operations name one of its columns.  `Touches`
says what becomes of what is named and that everything else stays as it is, in terms
of single rows and of the columns that are written.  An operation that is made again
finds its work done, unless it inserts a row or deletes by a name that tells no rows
apart.
-/

namespace LogicalNet

/-! ## Rows that differ in some columns -/

namespace Row

variable {names names' : List String} {r s t : Row}

/-- The rows differ at most in the columns of these names. -/
structure SameBut (names : List String) (r s : Row) : Prop where
  table : s.table = r.table
  uuid : s.uuid = r.uuid
  columns : s.columns.filter (·.1 ∉ names) = r.columns.filter (·.1 ∉ names)

namespace SameBut

theorem refl (names : List String) (r : Row) : SameBut names r r :=
  ⟨rfl, rfl, rfl⟩

theorem trans (h : SameBut names r s) (h' : SameBut names s t) : SameBut names r t :=
  ⟨h'.table.trans h.table, h'.uuid.trans h.uuid, h'.columns.trans h.columns⟩

theorem mono (h : SameBut names r s) (hnames : names ⊆ names') : SameBut names' r s where
  table := h.table
  uuid := h.uuid
  columns := by
    have hfilter : ∀ columns : List (String × Value), columns.filter (·.1 ∉ names') =
        (columns.filter (·.1 ∉ names)).filter (·.1 ∉ names') := by
      intro columns
      rw [List.filter_filter]
      apply List.filter_congr
      intro column _
      by_cases hmem : column.1 ∈ names
      · simp [hnames hmem]
      · simp [hmem]
    rw [hfilter, h.columns, ← hfilter]

theorem mapReferences (f : List String → List String) (c : RefColumn) (r : Row) :
    SameBut [c.dbName] r (r.mapReferences f c) where
  table := table_mapReferences f c r
  uuid := uuid_mapReferences f c r
  columns := by
    cases c <;> cases r <;> rfl

theorem mapKeys (f : TextMap String → TextMap String) (c : MapColumn) (r : Row) :
    SameBut [c.dbName] r (r.mapKeys f c) where
  table := table_mapKeys f c r
  uuid := uuid_mapKeys f c r
  columns := by
    cases c <;> cases r <;> rfl

end SameBut

theorem map?_mapKeys (f : TextMap String → TextMap String) (c : MapColumn) (r : Row) :
    (r.mapKeys f c).map? c = (r.map? c).map f := by
  cases c <;> cases r <;> rfl

theorem mapKeys_eq_self {f : TextMap String → TextMap String} {c : MapColumn} {r : Row}
    (h : ∀ m, r.map? c = some m → f m = m) : r.mapKeys f c = r := by
  cases c <;> cases r <;> simp_all [mapKeys, map?, externalIds]

end Row

/-- The names of the columns of a table that refer to the other one. -/
def Table.referring (owner target : Table) : List String :=
  (RefColumn.all.filter fun c => c.target? owner = some target).map RefColumn.dbName

theorem Table.dbName_mem_referring {owner target : Table} {c : RefColumn}
    (h : c.target? owner = some target) : c.dbName ∈ owner.referring target :=
  List.mem_map.mpr ⟨c, List.mem_filter.mpr ⟨c.mem_all, by simpa using h⟩, rfl⟩

/-- The second row is the first without the identifier in its references to the table. -/
structure Row.Forgets (target : Table) (key : String) (r s : Row) : Prop where
  same : SameBut (r.table.referring target) r s
  references : ∀ c : RefColumn, c.target? r.table = some target →
    s.references? c = (r.references? c).map (List.filter (· ≠ key))

theorem Row.SameBut.dropReference (target : Table) (key : String) (r : Row) (c : RefColumn) :
    SameBut (r.table.referring target) r (Tables.dropReference target key r c) := by
  unfold Tables.dropReference
  split
  · rename_i htarget
    apply (SameBut.mapReferences _ c r).mono
    intro name hname
    rw [List.mem_singleton.mp hname]
    exact Table.dbName_mem_referring htarget
  · exact .refl _ r

theorem Row.SameBut.dropReferences (target : Table) (key : String) (r : Row) :
    SameBut (r.table.referring target) r (Tables.dropReferences target key r) := by
  rw [Tables.dropReferences_eq_foldl]
  generalize RefColumn.all = columns
  induction columns generalizing r with
  | nil =>
      exact .refl _ r
  | cons c rest ih =>
      have hrest := ih (Tables.dropReference target key r c)
      rw [Tables.table_dropReference] at hrest
      exact (SameBut.dropReference target key r c).trans hrest

theorem Row.Forgets.dropReferences (target : Table) (key : String) (r : Row) :
    Row.Forgets target key r (Tables.dropReferences target key r) where
  same := .dropReferences target key r
  references c htarget := by
    rw [Tables.references?_dropReferences, if_pos htarget]

/-! ## References and keys that are added -/

namespace TextMap

variable {β : Type}

/-- The keys that are set have their new values, all others keep theirs. -/
theorem get?_insertAll_entries_eq (m n : TextMap β) (key : String) :
    (m.insertAll n.entries).get? key = (n.get? key).or (m.get? key) := by
  cases h : n.get? key with
  | none =>
      exact get?_insertAll_entries h
  | some value =>
      exact get?_insertAll_of_mem n.nodup_keys (get?_eq_some_iff.mp h)

theorem insertAll_insertAll_entries (m n : TextMap β) :
    (m.insertAll n.entries).insertAll n.entries = m.insertAll n.entries := by
  apply ext_get?
  intro key
  rw [get?_insertAll_entries_eq, get?_insertAll_entries_eq]
  cases n.get? key <;> rfl

end TextMap

namespace Tables

variable {ts us : Tables}

/-- What is missing comes to the end, each identifier once and in the order given. -/
theorem addMissing_eq (refs uuids : List String) :
    addMissing refs uuids = refs ++ (uuids.filter (· ∉ refs)).eraseDups := by
  induction uuids generalizing refs with
  | nil =>
      simp [addMissing]
  | cons u rest ih =>
      have hstep : addMissing refs (u :: rest) =
          addMissing (if refs.contains u then refs else refs ++ [u]) rest := rfl
      by_cases hu : u ∈ refs
      · rw [hstep, if_pos (by simpa using hu), ih, List.filter_cons_of_neg (by simpa using hu)]
      · have hfilter : rest.filter (· ∉ refs ++ [u]) =
            (rest.filter (· ∉ refs)).filter (fun v => !(v == u)) := by
          rw [List.filter_filter]
          apply List.filter_congr
          intro v _
          by_cases hv : v = u <;> simp [hv]
        rw [hstep, if_neg (by simpa using hu), ih, hfilter,
          List.filter_cons_of_pos (by simpa using hu), List.eraseDups_cons, List.append_assoc]
        rfl

theorem subset_addMissing (refs uuids : List String) : uuids ⊆ addMissing refs uuids := by
  intro u hu
  rw [addMissing_eq, List.mem_append, List.mem_eraseDups, List.mem_filter]
  by_cases hmem : u ∈ refs
  · exact .inl hmem
  · exact .inr ⟨hu, by simpa using hmem⟩

theorem addMissing_eq_self {refs uuids : List String} (h : uuids ⊆ refs) :
    addMissing refs uuids = refs := by
  have hnone : uuids.filter (· ∉ refs) = [] := by
    apply List.filter_eq_nil_iff.mpr
    intro u hu
    simpa using h hu
  rw [addMissing_eq, hnone]
  simp

/-! ## The addressed row -/

/-- The row that a lookup leads to. -/
structure Addressed (ts : Tables) (table : Table) (lookup : Lookup) (row : Row) : Prop where
  get : ts.get? table lookup = some row
  stored : (ts table).get? row.uuid = some row
  addresses : lookup.addresses row = true

theorem WellFormed.addressed (hts : ts.WellFormed) {table : Table} {lookup : Lookup}
    {key : String} {row : Row} (hkey : ts.findKey? table lookup = some key)
    (hrow : (ts table).get? key = some row) : row.uuid = key ∧ ts.Addressed table lookup row := by
  have huuid := hts.uuid_eq hrow
  rw [← huuid] at hkey hrow
  obtain ⟨row', hrow', haddresses⟩ := hts.get?_of_findKey? hkey
  rw [hrow] at hrow'
  cases hrow'
  exact ⟨huuid, hts.get?_eq_some_iff.mpr ⟨hkey, hrow⟩, hrow, haddresses⟩

/-- A lookup that finds nothing addresses no row of the table. -/
theorem WellFormed.addresses_eq_false (hts : ts.WellFormed) {table : Table} {lookup : Lookup}
    (hkey : ts.findKey? table lookup = none) {k : String} {r : Row}
    (hr : (ts table).get? k = some r) : lookup.addresses r = false := by
  cases lookup with
  | uuid s =>
      have hs : (ts table).get? s = none := by
        rw [← get?_uuid, get?, hkey]
      have hne : r.uuid ≠ s := by
        intro huuid
        rw [← hts.uuid_eq hr, huuid, hs] at hr
        cases hr
      simpa [Lookup.addresses] using hne
  | name s =>
      rw [findKey?_name, Option.map_eq_none_iff] at hkey
      simpa using List.find?_eq_none.mp hkey r (TextMap.mem_values_iff.mpr ⟨k, hr⟩)

/-! ## What an operation touches -/

/-- Every row but the one under the key is as it was before. -/
def OnlyAt (table : Table) (key : String) (ts us : Tables) : Prop :=
  ∀ t k, ¬ (t = table ∧ k = key) → (us t).get? k = (ts t).get? k

/-- What becomes of the row that an operation names, and that nothing else changes. -/
inductive Touches (ts : Tables) : Tables → Operation → Prop where
  | insert {us : Tables} {row : Row} (hnew : (ts row.table).get? row.uuid = none)
      (hrow : (us row.table).get? row.uuid = some row)
      (hothers : OnlyAt row.table row.uuid ts us) : Touches ts us (.insert row)
  | update {us : Tables} {row old : Row} (hold : (ts row.table).get? row.uuid = some old)
      (hrow : (us row.table).get? row.uuid = some row)
      (hothers : OnlyAt row.table row.uuid ts us) : Touches ts us (.update row)
  | delete {us : Tables} {table : Table} {lookup : Lookup} {row : Row}
      (haddressed : ts.Addressed table lookup row) (hgone : (us table).get? row.uuid = none)
      (hothers : ∀ t k, ¬ (t = table ∧ k = row.uuid) →
        Option.Rel (Row.Forgets table row.uuid) ((ts t).get? k) ((us t).get? k)) :
      Touches ts us (.delete table lookup)
  | addRefs {us : Tables} {table : Table} {lookup : Lookup} {column : RefColumn}
      {uuids refs : List String} {row row' : Row} (haddressed : ts.Addressed table lookup row)
      (hrow : (us table).get? row.uuid = some row') (hothers : OnlyAt table row.uuid ts us)
      (hcolumns : Row.SameBut [column.dbName] row row')
      (hold : row.references? column = some refs)
      (hnew : row'.references? column =
        some (refs ++ (uuids.filter (· ∉ refs)).eraseDups)) :
      Touches ts us (.addRefs table lookup column uuids)
  | removeRefs {us : Tables} {table : Table} {lookup : Lookup} {column : RefColumn}
      {uuids refs : List String} {row row' : Row} (haddressed : ts.Addressed table lookup row)
      (hrow : (us table).get? row.uuid = some row') (hothers : OnlyAt table row.uuid ts us)
      (hcolumns : Row.SameBut [column.dbName] row row')
      (hold : row.references? column = some refs)
      (hnew : row'.references? column = some (refs.filter (· ∉ uuids))) :
      Touches ts us (.removeRefs table lookup column uuids)
  | setKeys {us : Tables} {table : Table} {lookup : Lookup} {column : MapColumn}
      {entries m m' : TextMap String} {row row' : Row}
      (haddressed : ts.Addressed table lookup row)
      (hrow : (us table).get? row.uuid = some row') (hothers : OnlyAt table row.uuid ts us)
      (hcolumns : Row.SameBut [column.dbName] row row') (hold : row.map? column = some m)
      (hnew : row'.map? column = some m')
      (hkeys : ∀ key, m'.get? key = (entries.get? key).or (m.get? key)) :
      Touches ts us (.setKeys table lookup column entries)
  | deleteNone {table : Table} {lookup : Lookup}
      (habsent : ∀ k r, (ts table).get? k = some r → lookup.addresses r = false) :
      Touches ts ts (.delete table lookup)
  | removeRefsNone {table : Table} {lookup : Lookup} {column : RefColumn} {uuids : List String}
      (habsent : ∀ k r, (ts table).get? k = some r → lookup.addresses r = false) :
      Touches ts ts (.removeRefs table lookup column uuids)

theorem onlyAt_put (ts : Tables) (row : Row) : OnlyAt row.table row.uuid ts (ts.put row) := by
  intro t k hne
  rw [get?_put, if_neg hne]

theorem onlyAt_setRow (ts : Tables) (table : Table) (key : String) (row : Row) :
    OnlyAt table key ts (ts.setRow table key row) := by
  intro t k hne
  rw [get?_setRow, if_neg hne]

theorem get?_setRow_self (ts : Tables) (table : Table) (key : String) (row : Row) :
    (ts.setRow table key row table).get? key = some row := by
  rw [get?_setRow, if_pos ⟨rfl, rfl⟩]

theorem forgets_remove (ts : Tables) (table : Table) (key : String) {t : Table} {k : String}
    (hne : ¬ (t = table ∧ k = key)) :
    Option.Rel (Row.Forgets table key) ((ts t).get? k) ((ts.remove table key t).get? k) := by
  rw [get?_remove, if_neg hne]
  cases (ts t).get? k with
  | none =>
      exact .none
  | some r =>
      exact .some (.dropReferences table key r)

theorem touches_of_effect (hts : ts.WellFormed) {op : Operation} (h : Effect ts op us) :
    Touches ts us op := by
  cases h with
  | @insert row _ hnew _ =>
      exact .insert hnew (get?_put_self ts row) (onlyAt_put ts row)
  | @update row _ _ hold _ =>
      exact .update hold (get?_put_self ts row) (onlyAt_put ts row)
  | @delete table lookup key hkey =>
      obtain ⟨row, hrow, _⟩ := hts.get?_of_findKey? hkey
      obtain ⟨rfl, haddressed⟩ := hts.addressed hkey hrow
      exact .delete haddressed (by rw [get?_remove, if_pos ⟨rfl, rfl⟩])
        fun t k hne => forgets_remove ts table row.uuid hne
  | deleteNone hkey =>
      exact .deleteNone fun k r hr => hts.addresses_eq_false hkey hr
  | @addRefs table _ lookup column uuids key row _ _ hkey hrow hcolumn =>
      obtain ⟨rfl, haddressed⟩ := hts.addressed hkey hrow
      obtain ⟨refs, hrefs⟩ := Option.isSome_iff_exists.mp hcolumn
      refine .addRefs haddressed (get?_setRow_self ts table _ _) (onlyAt_setRow ts table _ _)
        (.mapReferences _ column row) hrefs ?_
      rw [Row.references?_mapReferences, if_pos rfl, hrefs, Option.map_some, addMissing_eq]
  | @removeRefs table lookup column uuids key row htarget hkey hrow =>
      obtain ⟨rfl, haddressed⟩ := hts.addressed hkey hrow
      have hcolumn : (row.references? column).isSome = true := by
        rw [Row.isSome_references?_iff, hts.table_eq hrow]
        exact htarget
      obtain ⟨refs, hrefs⟩ := Option.isSome_iff_exists.mp hcolumn
      refine .removeRefs haddressed (get?_setRow_self ts table _ _) (onlyAt_setRow ts table _ _)
        (.mapReferences _ column row) hrefs ?_
      rw [Row.references?_mapReferences, if_pos rfl, hrefs, Option.map_some]
  | removeRefsNone _ hkey =>
      exact .removeRefsNone fun k r hr => hts.addresses_eq_false hkey hr
  | @setKeys table lookup column entries key row hkey hrow hcolumn =>
      obtain ⟨rfl, haddressed⟩ := hts.addressed hkey hrow
      obtain ⟨m, hm⟩ := Option.isSome_iff_exists.mp hcolumn
      have hnew : (row.mapKeys (·.insertAll entries.entries) column).map? column =
          some (m.insertAll entries.entries) := by
        rw [Row.map?_mapKeys, hm, Option.map_some]
      exact .setKeys haddressed (get?_setRow_self ts table _ _) (onlyAt_setRow ts table _ _)
        (.mapKeys _ column row) hm hnew (TextMap.get?_insertAll_entries_eq m entries)

/-! ## Operations that are made again -/

theorem map_uuid_find?_map {rows : List Row} {p : Row → Bool} {f : Row → Row}
    (h : ∀ r ∈ rows, (f r).uuid = r.uuid ∧ p (f r) = p r) :
    ((rows.map f).find? p).map Row.uuid = (rows.find? p).map Row.uuid := by
  induction rows with
  | nil =>
      rfl
  | cons r rest ih =>
      have hr := h r List.mem_cons_self
      rw [List.map_cons, List.find?_cons, List.find?_cons, hr.2]
      split
      · simp [hr.1]
      · exact ih fun r' hr' => h r' (List.mem_cons_of_mem r hr')

/-- In the listing of the table, the row under the key is replaced in its place. -/
theorem setRow_eq_mapValues (hts : ts.WellFormed) {table : Table} {key : String} {row : Row}
    (hrow : (ts table).get? key = some row) (row' : Row) :
    ts.setRow table key row' table =
      (ts table).mapValues fun r => if r.uuid = key then row' else r := by
  apply TextMap.ext_get?
  intro k
  rw [get?_setRow, TextMap.get?_mapValues]
  by_cases hk : k = key
  · rw [hk, if_pos ⟨rfl, rfl⟩, hrow, Option.map_some, if_pos (hts.uuid_eq hrow)]
  · rw [if_neg fun h => hk h.2]
    cases hr : (ts table).get? k with
    | none =>
        rfl
    | some r =>
        have hne : r.uuid ≠ key := by
          rw [hts.uuid_eq hr]
          exact hk
        rw [Option.map_some, if_neg hne]

/-- The row under a key is replaced by one that every lookup takes for it. -/
theorem findKey?_setRow (hts : ts.WellFormed) {table : Table} {key : String} {row row' : Row}
    (hrow : (ts table).get? key = some row) (huuid : row'.uuid = row.uuid)
    (haddresses : ∀ l : Lookup, l.addresses row' = l.addresses row) (lookup : Lookup) :
    (ts.setRow table key row').findKey? table lookup = ts.findKey? table lookup := by
  let f : Row → Row := fun r => if r.uuid = key then row' else r
  have hf : ∀ r ∈ (ts table).values, (f r).uuid = r.uuid ∧
      ∀ l : Lookup, l.addresses (f r) = l.addresses r := by
    intro r hr
    obtain ⟨k, hk⟩ := TextMap.mem_values_iff.mp hr
    by_cases hkey : r.uuid = key
    · rw [← hts.uuid_eq hk, hkey, hrow] at hk
      cases hk
      rw [show f row = row' from if_pos hkey]
      exact ⟨huuid, haddresses⟩
    · rw [show f r = r from if_neg hkey]
      exact ⟨rfl, fun _ => rfl⟩
  have hrows : ts.setRow table key row' table = (ts table).mapValues f :=
    setRow_eq_mapValues hts hrow row'
  cases lookup with
  | uuid s =>
      have hcontains : ((ts table).mapValues f).contains s = (ts table).contains s := by
        rw [TextMap.contains, TextMap.get?_mapValues, Option.isSome_map]
        rfl
      rw [findKey?, findKey?, hrows, hcontains]
  | name s =>
      have hvalues : ((ts table).mapValues f).values = (ts table).values.map f := by
        simp [TextMap.values, TextMap.mapValues]
      rw [findKey?_name, findKey?_name, hrows, hvalues]
      exact map_uuid_find?_map fun r hr => ⟨(hf r hr).1, (hf r hr).2 _⟩

theorem setRow_setRow (ts : Tables) (table : Table) (key : String) (row : Row) :
    (ts.setRow table key row).setRow table key row = ts.setRow table key row := by
  apply ext_get?
  intro t k
  rw [get?_setRow]
  split
  · rename_i htk
    rw [htk.1, htk.2, get?_setRow_self]
  · rfl

/-- The name that the row keeps for itself is not taken from it by another row. -/
theorem WellFormed.not_taken_of_get? (hts : ts.WellFormed) {row : Row}
    (hrow : (ts row.table).get? row.uuid = some row) : ts.isNameTaken row = false := by
  cases hindex : row.table.hasNameIndex with
  | false =>
      simp [isNameTaken, hindex]
  | true =>
      have hnone : ((ts.list row.table).any fun r => r.uuid != row.uuid && r.name? == row.name?) =
          false := by
        rw [List.any_eq_false]
        intro r hr
        obtain ⟨k, hk⟩ := TextMap.mem_values_iff.mp hr
        by_cases hname : r.name? = row.name?
        · have huuid : r.uuid = row.uuid := by
            rw [hts.uuid_eq hk]
            exact hts.unique hindex hk hrow hname
          simp [huuid]
        · simp [hname]
      rw [isNameTaken, hnone, Bool.and_false]

theorem put_put_self (ts : Tables) (row : Row) : (ts.put row).put row = ts.put row :=
  setRow_setRow ts row.table row.uuid row

section Again

variable {table : Table} {lookup : Lookup}

theorem delete_eq_self (h : us.findKey? table lookup = none) : us.delete table lookup = us := by
  rw [delete, h]

/-- A deleted row is not found by what told it from all others. -/
theorem WellFormed.findKey?_remove (hts : ts.WellFormed) {key : String}
    (hunique : (∃ u, lookup = .uuid u) ∨ table.hasNameIndex = true)
    (hkey : ts.findKey? table lookup = some key) :
    (ts.remove table key).findKey? table lookup = none := by
  obtain ⟨row, hrow, haddresses⟩ := hts.get?_of_findKey? hkey
  cases hagain : (ts.remove table key).findKey? table lookup with
  | none =>
      rfl
  | some key' =>
      obtain ⟨s, hs, haddresses'⟩ := (hts.remove table key).get?_of_findKey? hagain
      rw [get?_remove] at hs
      split at hs
      · cases hs
      · rename_i hne
        obtain ⟨r, hr, rfl⟩ := Option.map_eq_some_iff.mp hs
        rw [(Row.Alike.dropReferences table key r).addresses] at haddresses'
        have hread := hts.get?_of_addresses hr haddresses' hunique
        rw [hts.get?_of_addresses hrow haddresses hunique] at hread
        cases hread
        exact absurd ⟨rfl, (hts.uuid_eq hr).symm.trans (hts.uuid_eq hrow)⟩ hne

/-- The row that replaces another is read in its place. -/
theorem WellFormed.read_setRow (hts : ts.WellFormed) {key : String} {row row' : Row}
    (hus : us = ts.setRow table key row') (hkey : ts.findKey? table lookup = some key)
    (hrow : (ts table).get? key = some row) (huuid : row'.uuid = row.uuid)
    (haddresses : ∀ l : Lookup, l.addresses row' = l.addresses row) :
    us.findKey? table lookup = some key ∧ (us table).get? key = some row' := by
  rw [hus, findKey?_setRow hts hrow huuid haddresses]
  exact ⟨hkey, get?_setRow_self ts table key row'⟩

theorem contains_setRow (ts : Tables) (table : Table) (key : String) (row : Row) {t : Table}
    {u : String} (h : (ts t).contains u = true) :
    (ts.setRow table key row t).contains u = true := by
  obtain ⟨r, hr⟩ := TextMap.contains_iff.mp h
  rw [TextMap.contains, get?_setRow]
  split
  · rfl
  · rw [hr]
    rfl

theorem addRefs_again (hts : ts.WellFormed) {target : Table} {column : RefColumn}
    {uuids : List String} {key : String} {row : Row} (htarget : column.target? table = some target)
    (huuids : ∀ u ∈ uuids, (ts target).contains u = true)
    (hkey : ts.findKey? table lookup = some key) (hrow : (ts table).get? key = some row)
    (hcolumn : (row.references? column).isSome = true)
    (hus : us = ts.setRow table key (row.mapReferences (addMissing · uuids) column)) :
    us.addRefs table lookup column uuids = .ok us := by
  obtain ⟨hkey', hrow'⟩ := hts.read_setRow hus hkey hrow (by simp)
    fun l => addresses_mapReferences l _ _ _
  have hthere : (uuids.find? fun u => !(us target).contains u) = none := by
    apply List.find?_eq_none.mpr
    intro u hu
    have hcontains : (us target).contains u = true := by
      rw [hus]
      exact contains_setRow ts table key _ (huuids u hu)
    simp [hcontains]
  have hsame : (row.mapReferences (addMissing · uuids) column).mapReferences (addMissing · uuids)
      column = row.mapReferences (addMissing · uuids) column := by
    apply Row.mapReferences_eq_self
    have hrefs := Row.refs_mapReferences (addMissing · uuids)
      ((Row.isSome_references?_iff column row).mp hcolumn) column
    rw [hrefs, if_pos rfl]
    exact addMissing_eq_self (subset_addMissing _ uuids)
  have hsome : ((row.mapReferences (addMissing · uuids) column).references? column).isNone =
      false := by
    rw [Row.references?_mapReferences, if_pos rfl, Option.isNone_map]
    simpa using hcolumn
  rw [addRefs, htarget]
  simp only [hthere, hkey', hrow', hsome, hsame]
  rw [if_neg Bool.false_ne_true, hus, setRow_setRow]

theorem removeRefs_again (hts : ts.WellFormed) {column : RefColumn} {uuids : List String}
    {key : String} {row : Row} (htarget : (column.target? table).isSome = true)
    (hkey : ts.findKey? table lookup = some key) (hrow : (ts table).get? key = some row)
    (hus : us = ts.setRow table key (row.mapReferences (List.filter (· ∉ uuids)) column)) :
    us.removeRefs table lookup column uuids = .ok us := by
  obtain ⟨hkey', hrow'⟩ := hts.read_setRow hus hkey hrow (by simp)
    fun l => addresses_mapReferences l _ _ _
  have hsame : (row.mapReferences (List.filter (· ∉ uuids)) column).mapReferences
      (List.filter (· ∉ uuids)) column = row.mapReferences (List.filter (· ∉ uuids)) column := by
    apply Row.mapReferences_eq_self
    rw [Row.refs_mapReferences_filter, if_pos rfl, List.filter_filter]
    simp
  have hnone : (column.target? table).isNone = false := by
    simpa using htarget
  rw [removeRefs, hnone]
  simp only [hkey', hrow', hsame]
  rw [if_neg Bool.false_ne_true, hus, setRow_setRow]

theorem setKeys_again (hts : ts.WellFormed) {column : MapColumn} {entries : TextMap String}
    {key : String} {row : Row} (hkey : ts.findKey? table lookup = some key)
    (hrow : (ts table).get? key = some row) (hcolumn : (row.map? column).isSome = true)
    (hus : us = ts.setRow table key (row.mapKeys (·.insertAll entries.entries) column)) :
    us.setKeys table lookup column entries = .ok us := by
  obtain ⟨hkey', hrow'⟩ := hts.read_setRow hus hkey hrow (by simp)
    fun l => addresses_mapKeys l _ _ _
  have hsame : (row.mapKeys (·.insertAll entries.entries) column).mapKeys
      (·.insertAll entries.entries) column =
        row.mapKeys (·.insertAll entries.entries) column := by
    apply Row.mapKeys_eq_self
    intro m hm
    rw [Row.map?_mapKeys] at hm
    obtain ⟨m₀, _, rfl⟩ := Option.map_eq_some_iff.mp hm
    exact TextMap.insertAll_insertAll_entries m₀ entries
  have hsome : ((row.mapKeys (·.insertAll entries.entries) column).map? column).isNone =
      false := by
    rw [Row.map?_mapKeys, Option.isNone_map]
    simpa using hcolumn
  rw [setKeys]
  simp only [hkey', hrow', hsome, hsame]
  rw [if_neg Bool.false_ne_true, hus, setRow_setRow]

theorem update_again (hts : ts.WellFormed) {row : Row} (hfault : row.fault? = none)
    (hname : ts.isNameTaken row = false) (hus : us = ts.put row) : us.update row = .ok us := by
  have hrow : (us row.table).get? row.uuid = some row := by
    rw [hus, get?_put_self]
  have hwf : us.WellFormed := by
    rw [hus]
    exact hts.put hname
  have hcontains : (us row.table).contains row.uuid = true := TextMap.contains_iff.mpr ⟨row, hrow⟩
  rw [update, hfault]
  simp only [hcontains, hwf.not_taken_of_get? hrow]
  rw [if_neg (by simp), if_neg (by simp), hus, put_put_self]

end Again

/-- The operation asks for nothing that it cannot find done: no row is new a second time, and the
second row of a name is not the first. -/
def Lasts : Operation → Prop
  | .insert _ => False
  | .delete _ (.uuid _) => True
  | .delete table (.name _) => table.hasNameIndex = true
  | _ => True

theorem unique_of_lasts {table : Table} {lookup : Lookup} (h : Lasts (.delete table lookup)) :
    (∃ u, lookup = .uuid u) ∨ table.hasNameIndex = true := by
  cases lookup with
  | uuid u =>
      exact .inl ⟨u, rfl⟩
  | name s =>
      exact .inr h

/-- An operation that lasts changes nothing when it is made again. -/
theorem apply_again_of_effect (hts : ts.WellFormed) {op : Operation} (hlasts : Lasts op)
    (h : Effect ts op us) : us.apply op = .ok us := by
  cases h with
  | insert _ _ _ =>
      exact hlasts.elim
  | update hfault _ hname =>
      exact update_again hts hfault hname rfl
  | delete hkey =>
      exact congrArg Except.ok
        (delete_eq_self (hts.findKey?_remove (unique_of_lasts hlasts) hkey))
  | deleteNone hkey =>
      exact congrArg Except.ok (delete_eq_self hkey)
  | addRefs htarget huuids hkey hrow hcolumn =>
      exact addRefs_again hts htarget huuids hkey hrow hcolumn rfl
  | removeRefs htarget hkey hrow =>
      exact removeRefs_again hts htarget hkey hrow rfl
  | removeRefsNone htarget hkey =>
      simp only [apply, removeRefs, hkey]
      rw [if_neg]
      simpa [Option.isSome_iff_ne_none] using htarget
  | setKeys hkey hrow hcolumn =>
      exact setKeys_again hts hkey hrow hcolumn rfl

/-- What is deleted by what tells it from all others is not found any more. -/
theorem get?_eq_none_of_effect (hts : ts.WellFormed) {table : Table} {lookup : Lookup}
    (hlasts : Lasts (.delete table lookup)) (h : Effect ts (.delete table lookup) us) :
    us.get? table lookup = none := by
  cases h with
  | delete hkey =>
      rw [get?, hts.findKey?_remove (unique_of_lasts hlasts) hkey]
  | deleteNone hkey =>
      rw [get?, hkey]

end Tables

/-! ## In a store -/

namespace Memory

/-- In whatever state transactions have left the store, an operation that succeeds changes what it
names and nothing else.  It then finds its work done, if it is no insertion and no deletion by a
name that tells no rows apart, and what it deletes is not found. -/
theorem operation_touches (transactions : List (List Operation)) {op : Operation} {us : Tables}
    (hop : (history transactions).tables.apply op = .ok us) :
    Tables.Touches (history transactions).tables us op ∧
      (Tables.Lasts op → us.apply op = .ok us ∧
        ∀ table lookup, op = .delete table lookup → us.get? table lookup = none) := by
  have hts := wellFormed_history transactions
  have heffect := Tables.effect_of_apply hts hop
  refine ⟨Tables.touches_of_effect hts heffect, fun hlasts =>
    ⟨Tables.apply_again_of_effect hts hlasts heffect, ?_⟩⟩
  intro table lookup hdelete
  subst hdelete
  exact Tables.get?_eq_none_of_effect hts hlasts heffect

/-- A port that a switch and a group list, each beside another port. -/
def portListedTwice : List (List Operation) := [
  [.insert (.switchPort { uuid := "p", name := "web" }),
    .insert (.switchPort { uuid := "q", name := "mail" }),
    .insert (.switch { uuid := "s", name := "net", ports := ["q", "p"] }),
    .insert (.portGroup { uuid := "g", name := "servers", ports := ["p", "q"] })]]

theorem operation_touches_portListedTwice :
    let ts := (history portListedTwice).tables
    let deletion := Operation.delete .switchPort (.name "web")
    let us := ts.delete .switchPort (.name "web")
    (ts.get? .switchPort (.name "web")).isSome = true ∧ ts.apply deletion = .ok us ∧
      Tables.Touches ts us deletion ∧
        (Tables.Lasts deletion → us.apply deletion = .ok us ∧
          ∀ table lookup, deletion = .delete table lookup → us.get? table lookup = none) :=
  ⟨by decide +kernel, rfl, operation_touches portListedTwice rfl⟩

end Memory
end LogicalNet
