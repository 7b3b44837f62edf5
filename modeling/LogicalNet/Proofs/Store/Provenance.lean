import LogicalNet.Proofs.Store.Addition

/-!
# Where rows come from

Every row after a transaction was there before it or is one that the transaction
writes as a whole, and has been changed since by nothing but operations on its
references and its maps.  In the other direction, a row that no operation deletes is
still there.
-/

namespace LogicalNet
namespace Tables

variable {ts us : Tables} {ops ops' : List Operation} {r s s' : Row}

/-! ## Revised rows -/

/-- The transaction writes the row as a whole. -/
def Puts (ops : List Operation) (row : Row) : Prop :=
  .insert row ∈ ops ∨ .update row ∈ ops

/-- The second row is the first after changes that the transaction makes to the columns of rows;
references may also go by a deletion. -/
inductive Revised (ops : List Operation) (r : Row) : Row → Prop where
  | refl : Revised ops r r
  | drop {s : Row} (h : Revised ops r s) (p : String → Bool) (c : RefColumn) :
      Revised ops r (s.mapReferences (List.filter p) c)
  | add {s : Row} {l : Lookup} {c : RefColumn} {uuids : List String} (h : Revised ops r s)
      (hop : .addRefs s.table l c uuids ∈ ops) (haddresses : l.addresses s = true) :
      Revised ops r (s.mapReferences (addMissing · uuids) c)
  | keys {s : Row} {l : Lookup} {c : MapColumn} {entries : TextMap String} (h : Revised ops r s)
      (hop : .setKeys s.table l c entries ∈ ops) (haddresses : l.addresses s = true) :
      Revised ops r (s.mapKeys (·.insertAll entries.entries) c)

theorem Puts.mono {row : Row} (h : Puts ops row) (hsub : ops ⊆ ops') : Puts ops' row :=
  h.imp (@hsub _) (@hsub _)

theorem addresses_mapReferences (l : Lookup) (f : List String → List String) (c : RefColumn)
    (r : Row) : l.addresses (r.mapReferences f c) = l.addresses r := by
  cases l <;> simp [Lookup.addresses]

theorem addresses_mapKeys (l : Lookup) (f : TextMap String → TextMap String) (c : MapColumn)
    (r : Row) : l.addresses (r.mapKeys f c) = l.addresses r := by
  cases l <;> simp [Lookup.addresses]

theorem mem_or_mem_of_mem_addMissing {refs uuids : List String} {u : String}
    (h : u ∈ addMissing refs uuids) : u ∈ refs ∨ u ∈ uuids := by
  induction uuids generalizing refs with
  | nil =>
      exact .inl h
  | cons v rest ih =>
      rcases @ih (addMissing refs [v]) h with hrefs | hrest
      · rcases (mem_addMissing refs v u).mp hrefs with hold | rfl
        · exact .inl hold
        · exact .inr List.mem_cons_self
      · exact .inr (List.mem_cons_of_mem v hrest)

namespace Revised

theorem mono (h : Revised ops r s) (hsub : ops ⊆ ops') : Revised ops' r s := by
  induction h with
  | refl =>
      exact .refl
  | drop _ p c ih =>
      exact ih.drop p c
  | add _ hop haddresses ih =>
      exact ih.add (hsub hop) haddresses
  | keys _ hop haddresses ih =>
      exact ih.keys (hsub hop) haddresses

theorem trans (h : Revised ops r s) (h' : Revised ops s s') : Revised ops r s' := by
  induction h' with
  | refl =>
      exact h
  | drop _ p c ih =>
      exact ih.drop p c
  | add _ hop haddresses ih =>
      exact ih.add hop haddresses
  | keys _ hop haddresses ih =>
      exact ih.keys hop haddresses

theorem dropReferences (ops : List Operation) (target : Table) (key : String) (r : Row) :
    Revised ops r (dropReferences target key r) := by
  have hfold : ∀ (columns : List RefColumn) (s : Row), Revised ops r s →
      Revised ops r (columns.foldl (dropReference target key) s) := by
    intro columns
    induction columns with
    | nil =>
        exact fun _ h => h
    | cons c rest ih =>
        intro s h
        refine ih _ ?_
        unfold dropReference
        split
        · exact h.drop _ c
        · exact h
  rw [dropReferences_eq_foldl]
  exact hfold RefColumn.all r .refl

/-! ### What a revision leaves as it is -/

theorem table (h : Revised ops r s) : s.table = r.table := by
  induction h with
  | refl =>
      rfl
  | _ =>
      simpa

theorem uuid (h : Revised ops r s) : s.uuid = r.uuid := by
  induction h with
  | refl =>
      rfl
  | _ =>
      simpa

theorem name? (h : Revised ops r s) : s.name? = r.name? := by
  induction h with
  | refl =>
      rfl
  | _ =>
      simpa

theorem addresses (h : Revised ops r s) (l : Lookup) : l.addresses s = l.addresses r := by
  cases l with
  | uuid u => simp only [Lookup.addresses, h.uuid]
  | name n => simp only [Lookup.addresses, h.name?]

theorem externalIds (h : Revised ops r s)
    (hkeys : ∀ l c entries, .setKeys r.table l c entries ∉ ops) :
    s.externalIds = r.externalIds := by
  induction h with
  | refl =>
      rfl
  | keys h hop _ _ =>
      rw [h.table] at hop
      exact absurd hop (hkeys _ _ _)
  | _ =>
      simpa

/-- What is listed was listed before, or has been added. -/
theorem mem_refs (h : Revised ops r s) {c : RefColumn} {u : String} (hu : u ∈ s.refs c) :
    u ∈ r.refs c ∨ ∃ l uuids, .addRefs s.table l c uuids ∈ ops ∧ l.addresses s = true ∧
      u ∈ uuids := by
  induction h with
  | refl =>
      exact .inl hu
  | drop _ p c' ih =>
      rw [Row.table_mapReferences]
      simp only [addresses_mapReferences]
      rw [Row.refs_mapReferences_filter] at hu
      refine ih ?_
      split at hu
      · exact (List.mem_filter.mp hu).1
      · exact hu
  | @add s l c' uuids _ hop haddresses ih =>
      rw [Row.table_mapReferences]
      simp only [addresses_mapReferences]
      by_cases hc : c = c'
      · subst hc
        cases htarget : c.target? s.table with
        | none =>
            rw [Row.refs_eq_nil (by simpa using htarget)] at hu
            cases hu
        | some t =>
            rw [Row.refs_mapReferences _ (by simp [htarget]), if_pos rfl] at hu
            rcases mem_or_mem_of_mem_addMissing hu with hold | hnew
            · exact ih hold
            · exact .inr ⟨l, uuids, hop, haddresses, hnew⟩
      · rw [Row.refs_mapReferences_of_ne _ hc] at hu
        exact ih hu
  | keys _ _ _ ih =>
      rw [Row.table_mapKeys]
      simp only [addresses_mapKeys]
      rw [Row.refs_mapKeys] at hu
      exact ih hu

end Revised

/-! ## Rows after a transaction -/

theorem exists_revised_of_effect {op : Operation} (hts : ts.WellFormed) (hop : Effect ts op us)
    {t : Table} {k : String} (hs : (us t).get? k = some s) :
    ∃ r, ((ts t).get? k = some r ∨ (Puts [op] r ∧ r.table = t ∧ r.uuid = k)) ∧
      Revised [op] r s := by
  have hput : ∀ {row : Row}, Puts [op] row → (ts.put row t).get? k = some s →
      ∃ r, ((ts t).get? k = some r ∨ (Puts [op] r ∧ r.table = t ∧ r.uuid = k)) ∧
        Revised [op] r s := by
    intro row hputs hget
    rw [get?_put] at hget
    split at hget
    · rename_i htk
      cases hget
      exact ⟨_, .inr ⟨hputs, htk.1.symm, htk.2.symm⟩, .refl⟩
    · exact ⟨s, .inl hget, .refl⟩
  have hset : ∀ {table : Table} {key : String} {row row' : Row},
      (ts table).get? key = some row → Revised [op] row row' →
      (ts.setRow table key row' t).get? k = some s →
      ∃ r, ((ts t).get? k = some r ∨ (Puts [op] r ∧ r.table = t ∧ r.uuid = k)) ∧
        Revised [op] r s := by
    intro table key row row' hrow hrevised hget
    rw [get?_setRow] at hget
    split at hget
    · rename_i htk
      cases hget
      rw [htk.1, htk.2]
      exact ⟨row, .inl hrow, hrevised⟩
    · exact ⟨s, .inl hget, .refl⟩
  have haddresses : ∀ {table : Table} {l : Lookup} {key : String} {row : Row},
      ts.findKey? table l = some key → (ts table).get? key = some row →
      l.addresses row = true := by
    intro table l key row hkey hrow
    rcases hts.get?_of_findKey? hkey with ⟨row', hrow', hfound⟩
    rw [hrow] at hrow'
    cases hrow'
    exact hfound
  cases hop with
  | insert _ _ _ =>
      exact hput (.inl (by simp)) hs
  | update _ _ _ =>
      exact hput (.inr (by simp)) hs
  | @delete table lookup key _ =>
      rw [get?_remove] at hs
      split at hs
      · cases hs
      · rcases Option.map_eq_some_iff.mp hs with ⟨r, hr, rfl⟩
        exact ⟨r, .inl hr, .dropReferences _ table key r⟩
  | addRefs _ _ hkey hrow _ =>
      refine hset hrow (Revised.refl.add ?_ (haddresses hkey hrow)) hs
      rw [hts.table_eq hrow]
      exact List.mem_singleton_self _
  | removeRefs _ _ hrow =>
      exact hset hrow (Revised.refl.drop _ _) hs
  | setKeys hkey hrow _ =>
      refine hset hrow (Revised.refl.keys ?_ (haddresses hkey hrow)) hs
      rw [hts.table_eq hrow]
      exact List.mem_singleton_self _
  | deleteNone _ =>
      exact ⟨s, .inl hs, .refl⟩
  | removeRefsNone _ _ =>
      exact ⟨s, .inl hs, .refl⟩

theorem exists_revised_of_applyAll (hts : ts.WellFormed) (hops : ts.applyAll ops = .ok us)
    {t : Table} {k : String} (hs : (us t).get? k = some s) :
    ∃ r, ((ts t).get? k = some r ∨ (Puts ops r ∧ r.table = t ∧ r.uuid = k)) ∧
      Revised ops r s := by
  induction ops generalizing ts with
  | nil =>
      cases hops
      exact ⟨s, .inl hs, .refl⟩
  | cons op rest ih =>
      rcases applyAll_cons_eq_ok_iff.mp hops with ⟨vs, hop, hrest⟩
      have hhead : [op] ⊆ op :: rest := by
        simp
      have htail : rest ⊆ op :: rest := List.subset_cons_self op rest
      rcases ih (hts.apply hop) hrest with ⟨r', hr' | ⟨hputs, hplace⟩, hrevised'⟩
      · rcases exists_revised_of_effect hts (effect_of_apply hts hop) hr' with
          ⟨r, hr | ⟨hputs, hplace⟩, hrevised⟩
        · exact ⟨r, .inl hr, (hrevised.mono hhead).trans (hrevised'.mono htail)⟩
        · exact ⟨r, .inr ⟨hputs.mono hhead, hplace⟩,
            (hrevised.mono hhead).trans (hrevised'.mono htail)⟩
      · exact ⟨r', .inr ⟨hputs.mono htail, hplace⟩, hrevised'.mono htail⟩

/-! ## Rows that are not deleted -/

/-- The transaction deletes rows of the table by identifiers, and others than the given one. -/
def Leaves (ops : List Operation) (t : Table) (k : String) : Prop :=
  ∀ l, .delete t l ∈ ops → ∃ u, l = .uuid u ∧ u ≠ k

theorem exists_of_effect {op : Operation} (hop : Effect ts op us) {t : Table} {k : String}
    (hr : (ts t).get? k = some r) (hleaves : Leaves [op] t k) : ∃ s, (us t).get? k = some s := by
  have hput : ∀ row : Row, ∃ s, (ts.put row t).get? k = some s := by
    intro row
    rw [get?_put]
    split
    · exact ⟨row, rfl⟩
    · exact ⟨r, hr⟩
  have hset : ∀ table key (row : Row), ∃ s, (ts.setRow table key row t).get? k = some s := by
    intro table key row
    rw [get?_setRow]
    split
    · exact ⟨row, rfl⟩
    · exact ⟨r, hr⟩
  cases hop with
  | insert _ _ _ =>
      exact hput _
  | update _ _ _ =>
      exact hput _
  | @delete table lookup key hkey =>
      rw [get?_remove, if_neg]
      · exact ⟨_, Option.map_eq_some_iff.mpr ⟨r, hr, rfl⟩⟩
      · intro htk
        rcases htk with ⟨rfl, rfl⟩
        rcases hleaves lookup (by simp) with ⟨u, rfl, hne⟩
        exact hne (eq_of_findKey?_uuid hkey).symm
  | addRefs _ _ _ _ _ =>
      exact hset _ _ _
  | removeRefs _ _ _ =>
      exact hset _ _ _
  | setKeys _ _ _ =>
      exact hset _ _ _
  | deleteNone _ =>
      exact ⟨r, hr⟩
  | removeRefsNone _ _ =>
      exact ⟨r, hr⟩

theorem exists_of_applyAll (hts : ts.WellFormed) (hops : ts.applyAll ops = .ok us) {t : Table}
    {k : String} (hr : (ts t).get? k = some r) (hleaves : Leaves ops t k) :
    ∃ s, (us t).get? k = some s := by
  induction ops generalizing ts r with
  | nil =>
      cases hops
      exact ⟨r, hr⟩
  | cons op rest ih =>
      rcases applyAll_cons_eq_ok_iff.mp hops with ⟨vs, hop, hrest⟩
      rcases exists_of_effect (effect_of_apply hts hop) hr fun l hl =>
        hleaves l (by simp [List.mem_singleton.mp hl]) with ⟨r', hr'⟩
      exact ih (hts.apply hop) hrest hr' fun l hl => hleaves l (List.mem_cons_of_mem op hl)

/-- A row can only be inserted where none was before, unless one has been deleted there. -/
theorem get?_eq_none_of_insert (hts : ts.WellFormed) (hops : ts.applyAll ops = .ok us) {row : Row}
    (hmem : .insert row ∈ ops) (hleaves : Leaves ops row.table row.uuid) :
    (ts row.table).get? row.uuid = none := by
  rcases List.append_of_mem hmem with ⟨front, rest, rfl⟩
  rcases applyAll_append_eq_ok_iff.mp hops with ⟨vs, hfront, hrest⟩
  rcases applyAll_cons_eq_ok_iff.mp hrest with ⟨ws, hinsert, _⟩
  cases hr : (ts row.table).get? row.uuid with
  | none =>
      rfl
  | some r =>
      rcases exists_of_applyAll hts hfront hr fun l hl =>
        hleaves l (List.mem_append_left _ hl) with ⟨s, hs⟩
      cases effect_of_apply (hts.applyAll hfront) hinsert with
      | insert _ hnew _ =>
          rw [hs] at hnew
          cases hnew

/-- A row that is inserted and not deleted again is there. -/
theorem exists_of_insert (hts : ts.WellFormed) (hops : ts.applyAll ops = .ok us) {row : Row}
    (hmem : .insert row ∈ ops) (hleaves : Leaves ops row.table row.uuid) :
    ∃ s, (us row.table).get? row.uuid = some s := by
  rcases List.append_of_mem hmem with ⟨front, rest, rfl⟩
  rcases applyAll_append_eq_ok_iff.mp hops with ⟨vs, hfront, hrest⟩
  rcases applyAll_cons_eq_ok_iff.mp hrest with ⟨ws, hinsert, hrest⟩
  have hvs := hts.applyAll hfront
  have hput : (ws row.table).get? row.uuid = some row := by
    cases effect_of_apply hvs hinsert with
    | insert _ _ _ =>
        exact get?_put_self vs row
  exact exists_of_applyAll (hvs.apply hinsert) hrest hput fun l hl => hleaves l (by simp [hl])

/-- What stands in the place of a row that is inserted is that row, if none is written anew. -/
theorem revised_of_insert (hts : ts.WellFormed) (hops : ts.applyAll ops = .ok us) {row : Row}
    (hmem : .insert row ∈ ops) (hleaves : Leaves ops row.table row.uuid)
    (hupdate : ∀ row', .update row' ∈ ops → row'.table ≠ row.table)
    (hs : (us row.table).get? row.uuid = some s) : Revised ops row s := by
  rcases List.append_of_mem hmem with ⟨front, rest, rfl⟩
  rcases applyAll_append_eq_ok_iff.mp hops with ⟨vs, hfront, hrest⟩
  rcases applyAll_cons_eq_ok_iff.mp hrest with ⟨ws, hinsert, hrest⟩
  have hvs := hts.applyAll hfront
  have hws := hvs.apply hinsert
  have hput : (ws row.table).get? row.uuid = some row := by
    cases effect_of_apply hvs hinsert with
    | insert _ _ _ =>
        exact get?_put_self vs row
  have hsub : rest ⊆ front ++ .insert row :: rest := by
    intro op hop
    simp [hop]
  rcases exists_revised_of_applyAll hws hrest hs with
    ⟨r, hold | ⟨hinserted | hupdated, htable, huuid⟩, hrevised⟩
  · rw [hput] at hold
    cases hold
    exact hrevised.mono hsub
  · have hnone := get?_eq_none_of_insert hws hrest hinserted fun l hl => by
      rw [htable] at hl
      rw [huuid]
      exact hleaves l (hsub hl)
    rw [htable, huuid, hput] at hnone
    cases hnone
  · exact absurd htable (hupdate r (hsub hupdated))

end Tables
end LogicalNet
