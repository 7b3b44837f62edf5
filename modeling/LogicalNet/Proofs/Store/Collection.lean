import LogicalNet.Proofs.Store.Removal

/-!
# Garbage collection

The real database is never told to delete a row of a table that is no root: it drops
such a row by itself, once no reference to it is left.  Here a transaction is given
to the tables without those deletions, and what is not referenced is dropped at the
end.  The result is the one that the store in memory comes to, if the transaction
takes away every reference to the rows that it deletes, and leaves every other row
with its owner.
-/

namespace LogicalNet

/-! ## Collecting -/

namespace TextMap

variable {β : Type}

/-- The entries with keys of the given kind. -/
def restrict (p : String → Bool) (m : TextMap β) : TextMap β where
  entries := m.entries.filter fun e => p e.1
  sorted := m.sorted.filter _

theorem findEntry_filter (p : String → Bool) (key : String) (entries : List (String × β)) :
    findEntry key (entries.filter fun e => p e.1) =
      if p key = true then findEntry key entries else none := by
  induction entries with
  | nil =>
      simp [findEntry]
  | cons head rest ih =>
      obtain ⟨k, v⟩ := head
      by_cases hk : k = key
      · subst hk
        by_cases hp : p k = true
        · simp [findEntry, hp]
        · simp [hp, ih]
      · by_cases hp : p k = true
        · simp [findEntry, hp, hk, ih]
        · simp [findEntry, hp, hk, ih]

theorem get?_restrict (p : String → Bool) (m : TextMap β) (key : String) :
    (m.restrict p).get? key = if p key = true then m.get? key else none :=
  findEntry_filter p key m.entries

end TextMap

/-- Whether the database has to be told of the operation. -/
def Operation.isTold : Operation → Bool
  | delete table _ => table.isRoot
  | _ => true

namespace Tables

/-- Whether a row lists the identifier in a column that refers to the table. -/
def isReferenced (ts : Tables) (table : Table) (uuid : String) : Bool :=
  Table.all.any fun o => (ts.list o).any fun row => RefColumn.all.any fun c =>
    c.target? o == some table && (row.refs c).contains uuid

/-- The tables without the rows that would have to be referenced and are not. -/
def collect (ts : Tables) : Tables :=
  ofRows fun t => if t.isRoot = true then ts t else (ts t).restrict (ts.isReferenced t)

/-- The store in memory and a database that collects garbage come to the same tables. -/
structure Agrees (ts : Tables) (ops : List Operation) : Prop where
  tables : ts.applyAll ops = (ts.applyAll (ops.filter Operation.isTold)).map collect
  inserted : ∀ us, ts.applyAll (ops.filter Operation.isTold) = .ok us → ∀ row,
    .insert row ∈ ops → row.table.isRoot = false → us.isReferenced row.table row.uuid = true
  deleted : ∀ us, ts.applyAll (ops.filter Operation.isTold) = .ok us → ∀ t lookup,
    .delete t lookup ∈ ops → t.isRoot = false → ∃ u, lookup = .uuid u ∧ us.isReferenced t u = false

variable {B : Bond} {loose : Table → String → Prop} {ts us vs : Tables}

theorem isReferenced_iff {t : Table} {u : String} : ts.isReferenced t u = true ↔
    ∃ o k row c, (ts o).get? k = some row ∧ RefColumn.target? c o = some t ∧ u ∈ row.refs c := by
  simp only [isReferenced, List.any_eq_true, Bool.and_eq_true, beq_iff_eq, List.contains_iff_mem]
  constructor
  · intro hfound
    rcases hfound with ⟨o, _, row, hrow, c, _, ht, hu⟩
    rcases TextMap.mem_values_iff.mp hrow with ⟨k, hk⟩
    exact ⟨o, k, row, c, hk, ht, hu⟩
  · intro hfound
    rcases hfound with ⟨o, k, row, c, hk, ht, hu⟩
    exact ⟨o, Table.mem_all o, row, TextMap.mem_values_iff.mpr ⟨k, hk⟩, c, RefColumn.mem_all c,
      ht, hu⟩

theorem get?_collect (ts : Tables) (t : Table) (u : String) :
    (ts.collect t).get? u =
      if t.isRoot = true ∨ ts.isReferenced t u = true then (ts t).get? u else none := by
  unfold collect
  rw [rows_ofRows]
  by_cases ht : t.isRoot = true
  · simp [ht]
  · rw [if_neg ht, TextMap.get?_restrict]
    simp [ht]

/-! ## Detaching -/

/-- The operation takes the reference out of the row, or takes the row. -/
inductive Detaches (table : Table) (row : Row) (c : RefColumn) (u : String) : Operation → Prop where
  | removeRefs {lookup : Lookup} {uuids : List String} (h : lookup.addresses row = true)
      (hu : u ∈ uuids) : Detaches table row c u (.removeRefs table lookup c uuids)
  | delete {lookup : Lookup} (h : lookup.addresses row = true) :
      Detaches table row c u (.delete table lookup)

theorem Detaches.of_alike {table : Table} {r s : Row} {c : RefColumn} {u : String}
    {op : Operation} (h : Detaches table r c u op) (halike : r.Alike s) :
    Detaches table s c u op := by
  cases h with
  | removeRefs h hu =>
      exact .removeRefs (by rw [halike.addresses, h]) hu
  | delete h =>
      exact .delete (by rw [halike.addresses, h])

theorem WellFormed.findKey?_of_addresses (hts : ts.WellFormed) {table : Table} {lookup : Lookup}
    {key : String} {row : Row} (hrow : (ts table).get? key = some row)
    (h : lookup.addresses row = true) (hindex : table.hasNameIndex = true) :
    ts.findKey? table lookup = some key := by
  have hget := hts.get?_of_addresses hrow h (.inr hindex)
  rw [(hts.get?_eq_some_iff.mp hget).1, hts.uuid_eq hrow]

namespace Detaches

variable {o table : Table} {k u : String} {r : Row} {c column : RefColumn} {lookup : Lookup}

/-- The operation finds the row that it deletes. -/
theorem of_delete (hts : ts.WellFormed) (hr : (ts o).get? k = some r)
    (hindex : o.hasNameIndex = true) (h : Detaches o r c u (.delete table lookup)) :
    o = table ∧ ts.findKey? table lookup = some k := by
  cases h with
  | delete haddresses =>
      exact ⟨rfl, hts.findKey?_of_addresses hr haddresses hindex⟩

/-- The operation finds the row that it takes the reference out of. -/
theorem of_removeRefs (hts : ts.WellFormed) (hr : (ts o).get? k = some r)
    (hindex : o.hasNameIndex = true) {uuids : List String}
    (h : Detaches o r c u (.removeRefs table lookup column uuids)) :
    (o = table ∧ ts.findKey? table lookup = some k) ∧ c = column ∧ u ∈ uuids := by
  cases h with
  | removeRefs haddresses hin =>
      exact ⟨⟨rfl, hts.findKey?_of_addresses hr haddresses hindex⟩, rfl, hin⟩

end Detaches

/-- A reference that is left after a neutral operation was there before, and the operation did not
detach it. -/
theorem not_detaches_of_effect (hts : ts.WellFormed) {t : Table} {u : String} {op : Operation}
    (hneutral : Neutral t u op) (hop : Effect ts op us) {o : Table} {k : String} {s : Row}
    {c : RefColumn} (hs : (us o).get? k = some s) (ht : c.target? o = some t)
    (hu : u ∈ s.refs c) :
    ∃ r, (ts o).get? k = some r ∧ r.Alike s ∧ u ∈ r.refs c ∧ ¬ Detaches o r c u op := by
  have hindex := (RefColumn.owner_of_target? ht).2
  cases hneutral with
  | @insert row hne hname hrefs =>
      cases hop with
      | insert _ _ _ =>
          rw [get?_put] at hs
          split at hs
          · rename_i hok
            cases hs
            rw [hok.1] at ht
            exact absurd hu (hrefs c ht)
          · refine ⟨s, hs, .refl s, hu, ?_⟩
            intro hdetach
            cases hdetach
  | @delete table lookup hroot =>
      cases hop with
      | delete hkey =>
          rw [get?_remove] at hs
          split at hs
          · cases hs
          · rename_i hok
            rcases Option.map_eq_some_iff.mp hs with ⟨r, hr, rfl⟩
            refine ⟨r, hr, .dropReferences _ _ _, ?_, ?_⟩
            · rw [refs_dropReferences] at hu
              split at hu
              · exact (List.mem_filter.mp hu).1
              · exact hu
            · intro hdetach
              rcases hdetach.of_delete hts hr hindex with ⟨htable, hkey'⟩
              rw [hkey] at hkey'
              exact hok ⟨htable, (Option.some.inj hkey').symm⟩
      | deleteNone hkey =>
          refine ⟨s, hs, .refl s, hu, ?_⟩
          intro hdetach
          rw [(hdetach.of_delete hts hs hindex).2] at hkey
          cases hkey
  | @removeRefs table lookup column uuids =>
      cases hop with
      | @removeRefs _ _ _ _ key row htarget hkey hrow =>
          rw [get?_setRow] at hs
          split at hs
          · rename_i hok
            cases hs
            rw [hok.1, hok.2]
            have hold : u ∈ row.refs c ∧ ¬ (c = column ∧ u ∈ uuids) := by
              rw [Row.refs_mapReferences_filter] at hu
              split at hu
              · rename_i hc
                have hmem := List.mem_filter.mp hu
                exact ⟨hmem.1, by simpa [hc] using hmem.2⟩
              · rename_i hc
                exact ⟨hu, fun hin => hc hin.1⟩
            refine ⟨row, hrow, .mapReferences _ _ _, hold.1, ?_⟩
            intro hdetach
            rw [hok.1] at hindex
            exact hold.2 (hdetach.of_removeRefs hts hrow hindex).2
          · rename_i hok
            refine ⟨s, hs, .refl s, hu, ?_⟩
            intro hdetach
            rcases (hdetach.of_removeRefs hts hs hindex).1 with ⟨htable, hkey'⟩
            rw [hkey] at hkey'
            exact hok ⟨htable, (Option.some.inj hkey').symm⟩
      | removeRefsNone _ hkey =>
          refine ⟨s, hs, .refl s, hu, ?_⟩
          intro hdetach
          rw [(hdetach.of_removeRefs hts hs hindex).1.2] at hkey
          cases hkey

theorem not_detaches_of_applyAll (hts : ts.WellFormed) {t : Table} {u : String}
    {ops : List Operation} (hneutral : ∀ op ∈ ops, Neutral t u op)
    (hops : ts.applyAll ops = .ok us) {o : Table} {k : String} {s : Row} {c : RefColumn}
    (hs : (us o).get? k = some s) (ht : c.target? o = some t) (hu : u ∈ s.refs c) :
    ∃ r, (ts o).get? k = some r ∧ r.Alike s ∧ u ∈ r.refs c ∧
      ∀ op ∈ ops, ¬ Detaches o r c u op := by
  induction ops generalizing ts with
  | nil =>
      cases hops
      exact ⟨s, hs, .refl s, hu, by simp⟩
  | cons op rest ih =>
      rcases applyAll_cons_eq_ok_iff.mp hops with ⟨vs, hop, hrest⟩
      rcases ih (hts.apply hop) (fun op' hop' => hneutral op' (by simp [hop'])) hrest with
        ⟨r, hr, halike, hur, hnot⟩
      rcases not_detaches_of_effect hts (hneutral op (by simp)) (effect_of_apply hts hop) hr ht
        hur with ⟨q, hq, halike', huq, hnot'⟩
      refine ⟨q, hq, halike'.trans halike, huq, fun op' hop' => ?_⟩
      rcases List.mem_cons.mp hop' with rfl | hop'
      · exact hnot'
      · exact fun hdetach => hnot op' hop' (hdetach.of_alike halike')

/-! ## The deletions at the end -/

/-- The row that the operation deletes by its identifier, if the database is not told. -/
def dropped? : Operation → Option (Table × String)
  | .delete t (.uuid u) => if t.isRoot = true then none else some (t, u)
  | _ => none

theorem dropped?_eq_some_iff {op : Operation} {t : Table} {u : String} :
    dropped? op = some (t, u) ↔ op = .delete t (.uuid u) ∧ t.isRoot = false := by
  unfold dropped?
  split
  · rename_i t' u'
    by_cases ht : t'.isRoot = true
    · rw [if_pos ht]
      constructor
      · intro h
        cases h
      · intro hfound
        rcases hfound with ⟨h, hroot⟩
        cases h
        rw [ht] at hroot
        cases hroot
    · rw [if_neg ht]
      constructor
      · intro h
        cases h
        exact ⟨rfl, by simpa using ht⟩
      · intro hfound
        rcases hfound with ⟨h, _⟩
        cases h
        rfl
  · rename_i hne
    constructor
    · intro h
      cases h
    · intro hfound
      rcases hfound with ⟨h, _⟩
      exact absurd h (hne t u)

def deleteAll (ts : Tables) (rows : List (Table × String)) : Tables :=
  rows.foldl (fun ts p => ts.delete p.1 (.uuid p.2)) ts

/-- Deletions that the database is not told of name their row, which the other operations have
nothing to do with. -/
def Separate (ops : List Operation) : Prop :=
  ∀ t lookup, .delete t lookup ∈ ops → t.isRoot = false → ∃ u, lookup = .uuid u ∧
    ∀ op ∈ ops, op.isTold = true → Neutral t u op

theorem applyAll_told (hts : ts.WellFormed) {ops : List Operation} (h : Separate ops) :
    ts.applyAll ops =
      (ts.applyAll (ops.filter Operation.isTold)).map (deleteAll · (ops.filterMap dropped?)) := by
  induction ops generalizing ts with
  | nil =>
      rfl
  | cons op rest ih =>
      have hrest : Separate rest := by
        intro t lookup hmem ht
        rcases h t lookup (by simp [hmem]) ht with ⟨u, hu, hneutral⟩
        exact ⟨u, hu, fun op' hop' => hneutral op' (by simp [hop'])⟩
      by_cases htold : op.isTold = true
      · have hnone : dropped? op = none := by
          cases hd : dropped? op with
          | none =>
              rfl
          | some p =>
              rcases dropped?_eq_some_iff.mp hd with ⟨rfl, ht⟩
              rw [Operation.isTold, ht] at htold
              cases htold
        rw [List.filter_cons_of_pos htold, List.filterMap_cons_none hnone, applyAll, applyAll]
        cases hop : ts.apply op with
        | error e =>
            rfl
        | ok us =>
            exact ih (hts.apply hop) hrest
      · rw [List.filter_cons_of_neg htold]
        cases op with
        | delete t lookup =>
            have ht : t.isRoot = false := by
              simpa [Operation.isTold] using htold
            rcases h t lookup (by simp) ht with ⟨u, rfl, hneutral⟩
            have hsome : dropped? (.delete t (.uuid u)) = some (t, u) :=
              dropped?_eq_some_iff.mpr ⟨rfl, ht⟩
            have hneutral' : ∀ op ∈ rest.filter Operation.isTold, Neutral t u op := by
              intro op hop
              rcases List.mem_filter.mp hop with ⟨hmem, hop⟩
              exact hneutral op (by simp [hmem]) hop
            have hdelete : (ts.delete t (.uuid u)).WellFormed :=
              hts.effect (effect_of_delete t (.uuid u))
            rw [List.filterMap_cons_some hsome]
            show (ts.delete t (.uuid u)).applyAll rest = _
            rw [ih hdelete hrest, applyAll_delete hts ht hneutral']
            cases ts.applyAll (rest.filter Operation.isTold) <;> rfl
        | _ =>
            exact absurd rfl htold

/-- The deletion of a row that is not referenced changes no other row. -/
theorem get?_delete_of_not_referenced (hts : ts.WellFormed) {t : Table} {u : String}
    (h : ts.isReferenced t u = false) (t' : Table) (u' : String) :
    (ts.delete t (.uuid u) t').get? u' = if t' = t ∧ u' = u then none else (ts t').get? u' := by
  have hremove : (ts.remove t u t').get? u' =
      if t' = t ∧ u' = u then none else (ts t').get? u' := by
    rw [get?_remove]
    split
    · rfl
    · cases hrow : (ts t').get? u' with
      | none =>
          rfl
      | some row =>
          rw [Option.map_some, dropReferences_eq_self]
          intro c ht hu
          rw [hts.table_eq hrow] at ht
          rw [isReferenced_iff.mpr ⟨t', u', row, c, hrow, ht, hu⟩] at h
          cases h
  rw [delete_uuid]
  split
  · exact hremove
  · rename_i hcontains
    split
    · rename_i htu
      rw [htu.1, htu.2]
      exact TextMap.contains_eq_false_iff.mp (by simpa using hcontains)
    · rfl

theorem get?_deleteAll (hts : ts.WellFormed) {rows : List (Table × String)}
    (h : ∀ p ∈ rows, ts.isReferenced p.1 p.2 = false) (t : Table) (u : String) :
    (ts.deleteAll rows t).get? u = if (t, u) ∈ rows then none else (ts t).get? u := by
  induction rows generalizing ts with
  | nil =>
      simp [deleteAll]
  | cons p rest ih =>
      have hget := get?_delete_of_not_referenced hts (h p (by simp))
      have hrest : ∀ q ∈ rest, (ts.delete p.1 (.uuid p.2)).isReferenced q.1 q.2 = false := by
        intro q hq
        cases href : (ts.delete p.1 (.uuid p.2)).isReferenced q.1 q.2 with
        | false =>
            rfl
        | true =>
            rcases isReferenced_iff.mp href with ⟨o, k, row, c, hrow, ht, hu⟩
            rw [hget] at hrow
            split at hrow
            · cases hrow
            · rw [← h q (by simp [hq])]
              exact (isReferenced_iff.mpr ⟨o, k, row, c, hrow, ht, hu⟩).symm
      have hdelete := hts.effect (effect_of_delete p.1 (.uuid p.2))
      show ((ts.delete p.1 (.uuid p.2)).deleteAll rest t).get? u = _
      rw [ih hdelete hrest, hget]
      obtain ⟨t', u'⟩ := p
      by_cases hp : t = t' ∧ u = u'
      · simp [hp]
      · have hne : (t, u) ≠ (t', u') := by
          simpa using hp
        simp [hne, hp]

/-! ## Agreement -/

/-- Told operations leave the rows of tables that are no roots where they are. -/
theorem contains_of_told {t : Table} (ht : t.isRoot = false) {op : Operation}
    (htold : op.isTold = true) (hop : Effect ts op us) {u : String}
    (hu : (ts t).contains u = true) : (us t).contains u = true := by
  rcases TextMap.contains_iff.mp hu with ⟨r, hr⟩
  have hput : ∀ row : Row, ((ts.put row) t).contains u = true := by
    intro row
    apply TextMap.contains_iff.mpr
    rw [get?_put]
    split
    · exact ⟨row, rfl⟩
    · exact ⟨r, hr⟩
  have hset : ∀ table key row, ((ts.setRow table key row) t).contains u = true := by
    intro table key row
    apply TextMap.contains_iff.mpr
    rw [get?_setRow]
    split
    · exact ⟨row, rfl⟩
    · exact ⟨r, hr⟩
  cases hop with
  | insert _ _ _ =>
      exact hput _
  | update _ _ _ =>
      exact hput _
  | @delete table lookup key _ =>
      rw [contains_remove]
      · exact hu
      · intro hfound
        rcases hfound with ⟨rfl, _⟩
        rw [Operation.isTold, ht] at htold
        cases htold
  | deleteNone _ =>
      exact hu
  | removeRefsNone _ _ =>
      exact hu
  | _ =>
      exact hset _ _ _

theorem contains_of_inserted (hts : ts.WellFormed) {ops : List Operation}
    (htold : ∀ op ∈ ops, op.isTold = true) (hops : ts.applyAll ops = .ok us) {t : Table}
    (ht : t.isRoot = false) {u : String}
    (hu : (ts t).contains u = true ∨ ∃ row, .insert row ∈ ops ∧ row.table = t ∧ row.uuid = u) :
    (us t).contains u = true := by
  induction ops generalizing ts with
  | nil =>
      cases hops
      rcases hu with hu | ⟨row, hrow, _⟩
      · exact hu
      · cases hrow
  | cons op rest ih =>
      rcases applyAll_cons_eq_ok_iff.mp hops with ⟨vs, hop, hrest⟩
      have heffect := effect_of_apply hts hop
      refine ih (hts.apply hop) (fun op' hop' => htold op' (by simp [hop'])) hrest ?_
      rcases hu with hu | ⟨row, hrow, htable, huuid⟩
      · exact .inl (contains_of_told ht (htold op (by simp)) heffect hu)
      · rcases List.mem_cons.mp hrow with rfl | hrow
        · left
          cases heffect with
          | insert _ _ _ =>
              refine TextMap.contains_iff.mpr ⟨row, ?_⟩
              rw [get?_put, if_pos ⟨htable.symm, huuid.symm⟩]
        · exact .inr ⟨row, hrow, htable, huuid⟩

theorem mem_filterMap_dropped? {ops : List Operation} {t : Table} {u : String} :
    (t, u) ∈ ops.filterMap dropped? ↔ .delete t (.uuid u) ∈ ops ∧ t.isRoot = false := by
  rw [List.mem_filterMap]
  constructor
  · intro hfound
    rcases hfound with ⟨op, hop, hdropped⟩
    rcases dropped?_eq_some_iff.mp hdropped with ⟨rfl, ht⟩
    exact ⟨hop, ht⟩
  · intro h
    exact ⟨_, h.1, dropped?_eq_some_iff.mpr ⟨rfl, h.2⟩⟩

/-- Every reference to a row that the transaction deletes without telling the database is detached
by the transaction. -/
def Detached (ts : Tables) (ops : List Operation) : Prop :=
  ∀ t u, .delete t (.uuid u) ∈ ops → t.isRoot = false → ∀ o k row c,
    (ts o).get? k = some row → RefColumn.target? c o = some t → u ∈ row.refs c →
      ∃ op ∈ ops, Detaches o row c u op

section Told

variable {ops : List Operation} {t : Table} {u : String} {r : Row}

/-- What is not told is not referenced when the rest is done. -/
theorem isReferenced_eq_false_of_detached (hts : ts.WellFormed) (h : Separate ops)
    (hdetached : Detached ts ops) (hus : ts.applyAll (ops.filter Operation.isTold) = .ok us)
    (hdelete : .delete t (.uuid u) ∈ ops) (ht : t.isRoot = false) :
    us.isReferenced t u = false := by
  cases href : us.isReferenced t u with
  | false =>
      rfl
  | true =>
      rcases isReferenced_iff.mp href with ⟨o, k, s, c, hs, htarget, hu⟩
      rcases h t (.uuid u) hdelete ht with ⟨u', heq, hneutral⟩
      cases heq
      have hneutral' : ∀ op ∈ ops.filter Operation.isTold, Neutral t u op := by
        intro op hop
        rcases List.mem_filter.mp hop with ⟨hmem, htold⟩
        exact hneutral op hmem htold
      rcases not_detaches_of_applyAll hts hneutral' hus hs htarget hu with
        ⟨r, hr, _, hur, hnot⟩
      rcases hdetached t u hdelete ht o k r c hr htarget hur with ⟨op, hop, hdetaches⟩
      have htold : op.isTold = true := by
        cases hdetaches with
        | removeRefs _ _ =>
            rfl
        | delete _ =>
            exact (RefColumn.owner_of_target? htarget).1
      exact absurd hdetaches (hnot op (List.mem_filter.mpr ⟨hop, htold⟩))

/-- The deletions that are not told take their rows and nothing else. -/
theorem get?_deleteAll_dropped (hts : ts.WellFormed) (h : Separate ops)
    (hdetached : Detached ts ops) (hus : ts.applyAll (ops.filter Operation.isTold) = .ok us)
    (t : Table) (u : String) :
    (us.deleteAll (ops.filterMap dropped?) t).get? u =
      if .delete t (.uuid u) ∈ ops ∧ t.isRoot = false then none else (us t).get? u := by
  rw [get?_deleteAll (hts.applyAll hus)]
  · simp only [mem_filterMap_dropped?]
  · intro p hp
    rcases mem_filterMap_dropped?.mp hp with ⟨hdelete, ht⟩
    exact isReferenced_eq_false_of_detached hts h hdetached hus hdelete ht

/-- A row that is not deleted is referenced before the deletions that are not told: afterwards it
has an owner, which was there already. -/
theorem isReferenced_of_owned (hts : ts.WellFormed) (h : Separate ops)
    (hdetached : Detached ts ops) (howned : ∀ us, ts.applyAll ops = .ok us → us.Owned)
    (hus : ts.applyAll (ops.filter Operation.isTold) = .ok us) (hr : (us t).get? u = some r)
    (ht : t.isRoot = false) (hnot : .delete t (.uuid u) ∉ ops) : us.isReferenced t u = true := by
  have hget := get?_deleteAll_dropped hts h hdetached hus
  have hall := applyAll_told hts h
  rw [hus] at hall
  have hkept : (us.deleteAll (ops.filterMap dropped?) t).get? u = some r := by
    rw [hget, if_neg fun hdelete => hnot hdelete.1]
    exact hr
  cases howner : t.owner? with
  | none =>
      rw [Table.owner?_eq_none_iff.mp howner] at ht
      cases ht
  | some oc =>
      obtain ⟨o, c⟩ := oc
      rcases (howned _ hall).one_owner howner hkept with ⟨k, ⟨row, hrow, hu⟩, _⟩
      rw [hget] at hrow
      split at hrow
      · cases hrow
      · exact isReferenced_iff.mpr ⟨o, k, row, c, hrow, Table.target?_of_owner? howner, hu⟩

/-- A row that the transaction inserts is still there after what is told, and is not deleted. -/
theorem get?_of_inserted (hts : ts.WellFormed) (h : Separate ops)
    (hus : ts.applyAll (ops.filter Operation.isTold) = .ok us) {row : Row}
    (hrow : .insert row ∈ ops) (ht : row.table.isRoot = false) :
    (∃ r, (us row.table).get? row.uuid = some r) ∧
      .delete row.table (.uuid row.uuid) ∉ ops := by
  constructor
  · have htold : ∀ op ∈ ops.filter Operation.isTold, op.isTold = true := by
      intro op hop
      exact (List.mem_filter.mp hop).2
    have hmem : .insert row ∈ ops.filter Operation.isTold := List.mem_filter.mpr ⟨hrow, rfl⟩
    exact TextMap.contains_iff.mp
      (contains_of_inserted hts htold hus ht (.inr ⟨row, hmem, rfl, rfl⟩))
  · intro hdelete
    rcases h row.table (.uuid row.uuid) hdelete ht with ⟨u, heq, hneutral⟩
    cases heq
    cases hneutral (.insert row) hrow rfl with
    | insert hne _ _ =>
        exact hne ⟨rfl, rfl⟩

/-- What the database collects is what it is not told to delete. -/
theorem collect_eq_deleteAll (hts : ts.WellFormed) (h : Separate ops)
    (hdetached : Detached ts ops) (howned : ∀ us, ts.applyAll ops = .ok us → us.Owned)
    (hus : ts.applyAll (ops.filter Operation.isTold) = .ok us) :
    us.deleteAll (ops.filterMap dropped?) = us.collect := by
  apply ext_get?
  intro t u
  rw [get?_deleteAll_dropped hts h hdetached hus, get?_collect]
  by_cases hroot : t.isRoot = true
  · simp [hroot]
  · have ht : t.isRoot = false := by
      simpa using hroot
    by_cases hdelete : .delete t (.uuid u) ∈ ops
    · have href := isReferenced_eq_false_of_detached hts h hdetached hus hdelete ht
      simp [hdelete, ht, href]
    · rw [if_neg fun hd => hdelete hd.1]
      cases hr : (us t).get? u with
      | none =>
          simp
      | some r =>
          rw [if_pos (.inr (isReferenced_of_owned hts h hdetached howned hus hr ht hdelete))]

end Told

/-- The two agree on a transaction that detaches the rows it deletes and leaves the others owned. -/
theorem agrees_of_separate (hts : ts.WellFormed) {ops : List Operation} (h : Separate ops)
    (hdetached : Detached ts ops) (howned : ∀ us, ts.applyAll ops = .ok us → us.Owned) :
    Agrees ts ops := by
  constructor
  · rw [applyAll_told hts h]
    cases hus : ts.applyAll (ops.filter Operation.isTold) with
    | error e =>
        rfl
    | ok us =>
        exact congrArg Except.ok (collect_eq_deleteAll hts h hdetached howned hus)
  · intro us hus row hrow ht
    rcases get?_of_inserted hts h hus hrow ht with ⟨⟨r, hr⟩, hnot⟩
    exact isReferenced_of_owned hts h hdetached howned hus hr ht hnot
  · intro us hus t lookup hdelete ht
    rcases h t lookup hdelete ht with ⟨u, rfl, _⟩
    exact ⟨u, rfl, isReferenced_eq_false_of_detached hts h hdetached hus hdelete ht⟩

/-! ## Transactions that take away -/

/-- An operation of a transaction that deletes by its identifier what it takes from its owner. -/
inductive Withdraws (ts : Tables) (ops : List Operation) : Operation → Prop where
  | reference {table : Table} {lookup : Lookup} {c : RefColumn} {u : String}
      (h : ∀ t : Table, t.owner? = some (table, c) → .delete t (.uuid u) ∈ ops) :
      Withdraws ts ops (.removeRefs table lookup c [u])
  | owned {table : Table} {u : String} (hroot : table.isRoot = false) :
      Withdraws ts ops (.delete table (.uuid u))
  | owner {table : Table} {lookup : Lookup} (hroot : table.isRoot = true)
      (h : ∀ (t : Table) c, t.owner? = some (table, c) → ∀ k row, (ts table).get? k = some row →
        lookup.addresses row = true → ∀ u ∈ row.refs c, .delete t (.uuid u) ∈ ops) :
      Withdraws ts ops (.delete table lookup)

namespace Withdraws

variable {ops : List Operation} {op : Operation} {t : Table}

theorem takesAway (h : Withdraws ts ops op) : TakesAway (Deleted ops) ts op := by
  cases h with
  | reference h =>
      refine .removeRefs fun t howner v hv => ?_
      rw [List.mem_singleton.mp hv]
      exact h t howner
  | owned hroot =>
      exact .of_isRoot_eq_false hroot _
  | owner _ h =>
      exact .delete h

theorem neutral (h : Withdraws ts ops op) (htold : op.isTold = true) (u : String) :
    Neutral t u op := by
  cases h with
  | reference _ =>
      exact .removeRefs
  | owned _ =>
      exact .delete htold
  | owner hroot _ =>
      exact .delete hroot

theorem lookup_eq {lookup : Lookup} (h : Withdraws ts ops (.delete t lookup))
    (ht : t.isRoot = false) : ∃ u, lookup = .uuid u := by
  cases h with
  | owned _ =>
      exact ⟨_, rfl⟩
  | owner hroot _ =>
      rw [ht] at hroot
      cases hroot

end Withdraws

theorem agrees_of_withdraws (hts : ts.WellFormed) {ops : List Operation}
    (h : ∀ op ∈ ops, Withdraws ts ops op) (hdetached : Detached ts ops)
    (howned : ∀ us, ts.applyAll ops = .ok us → us.Owned) : Agrees ts ops := by
  refine agrees_of_separate hts ?_ hdetached howned
  intro t lookup hop ht
  rcases (h _ hop).lookup_eq ht with ⟨u, rfl⟩
  exact ⟨u, rfl, fun op' hop' htold => (h op' hop').neutral htold u⟩

end Tables
end LogicalNet
