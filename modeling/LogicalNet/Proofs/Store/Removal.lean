import LogicalNet.Proofs.Store.Ownership

/-!
# Transactions that take away

A transaction of deletions and of removals of references keeps every row owned, if
whatever it takes from its owner it deletes as well.  That is seen from the
operations and the tables at the start.

The deletion of a row of a table that is no root may be put off to the end of a
transaction, past operations that have nothing to do with the row.
-/

namespace LogicalNet
namespace Tables

variable {B : Bond} {loose : Table → String → Prop} {ts us vs : Tables}

/-! ## Keeping every row owned -/

/-- The operation takes from owners nothing but named rows. -/
inductive TakesAway (loose : Table → String → Prop) (ts : Tables) : Operation → Prop where
  | removeRefs {table : Table} {lookup : Lookup} {column : RefColumn} {uuids : List String}
      (h : ∀ t : Table, t.owner? = some (table, column) → ∀ u ∈ uuids, loose t u) :
      TakesAway loose ts (.removeRefs table lookup column uuids)
  | delete {table : Table} {lookup : Lookup}
      (h : ∀ (t : Table) c, t.owner? = some (table, c) → ∀ k row, (ts table).get? k = some row →
        lookup.addresses row = true → ∀ u ∈ row.refs c, loose t u) :
      TakesAway loose ts (.delete table lookup)

theorem TakesAway.of_isRoot_eq_false {table : Table} (h : table.isRoot = false)
    (lookup : Lookup) : TakesAway loose ts (.delete table lookup) := by
  refine .delete fun t c howner => ?_
  have hroot := (RefColumn.owner_of_target? (Table.target?_of_owner? howner)).1
  rw [h] at hroot
  cases hroot

theorem TakesAway.shrinks {op : Operation} (h : TakesAway loose ts op)
    (hs : Shrinks loose ts us) : TakesAway loose us op := by
  cases h with
  | removeRefs h =>
      exact .removeRefs h
  | delete h =>
      refine .delete fun t c howner k row hrow haddresses u hu => ?_
      rcases hs.row hrow with ⟨r, hr, halike, hrefs⟩
      rw [halike.addresses] at haddresses
      exact h t c howner k r hr haddresses u ((hrefs c).subset hu)

theorem Shrinks.effect (hts : ts.WellFormed) {op : Operation} (hop : Effect ts op us)
    (h : TakesAway loose ts op) : Shrinks loose ts us := by
  cases h with
  | @removeRefs table lookup column uuids h =>
      cases hop with
      | removeRefs htarget hkey hrow =>
          refine .setRow hrow (.mapReferences _ _ _) ?_ ?_
          · intro c
            rw [Row.refs_mapReferences_filter]
            split
            · exact List.filter_sublist
            · exact .refl _
          · intro t c howner u hu hnot
            rw [Row.refs_mapReferences_filter]
            split
            · rename_i hc
              subst hc
              have hu' : u ∉ uuids := fun hmem => hnot (h t howner u hmem)
              simpa [hu'] using hu
            · exact hu
      | removeRefsNone htarget hkey =>
          exact .refl _ _
  | delete h =>
      cases hop with
      | delete hkey =>
          rcases hts.get?_of_findKey? hkey with ⟨row, hrow, haddresses⟩
          refine .remove (fun t c howner old hold u hu => ?_) hts
          rw [hrow] at hold
          cases hold
          exact h t c howner _ row hrow haddresses u hu
      | deleteNone hkey =>
          exact .refl _ _

theorem Shrinks.get?_eq_none (h : Shrinks loose ts us) {t : Table} {u : String}
    (hu : (ts t).get? u = none) : (us t).get? u = none := by
  cases hs : (us t).get? u with
  | none =>
      rfl
  | some s =>
      rcases h.row hs with ⟨r, hr, _⟩
      rw [hu] at hr
      cases hr

theorem get?_of_delete_effect {t : Table} {u : String}
    (hop : Effect ts (.delete t (.uuid u)) us) : (us t).get? u = none := by
  cases hop with
  | @delete _ _ key hkey =>
      cases eq_of_findKey?_uuid hkey
      rw [get?_remove, if_pos ⟨rfl, rfl⟩]
  | deleteNone hkey =>
      cases hget : (ts t).get? u with
      | none =>
          rfl
      | some r =>
          have hcontains := TextMap.contains_iff.mpr ⟨r, hget⟩
          rw [findKey?, if_pos hcontains] at hkey
          cases hkey

/-- A row that is deleted by its identifier is gone at the end. -/
theorem get?_of_deleted {ops : List Operation} (hts : ts.WellFormed)
    (h : ∀ op ∈ ops, TakesAway loose ts op) (hops : ts.applyAll ops = .ok us) {t : Table}
    {u : String} (hu : .delete t (.uuid u) ∈ ops ∨ (ts t).get? u = none) :
    (us t).get? u = none := by
  induction ops generalizing ts with
  | nil =>
      cases hops
      rcases hu with hu | hu
      · cases hu
      · exact hu
  | cons op rest ih =>
      rcases applyAll_cons_eq_ok_iff.mp hops with ⟨vs, hop, hrest⟩
      have heffect := effect_of_apply hts hop
      have hshrinks := Shrinks.effect hts heffect (h op (by simp))
      refine ih (hts.apply hop) (fun op' hop' => (h op' (by simp [hop'])).shrinks hshrinks)
        hrest ?_
      rcases hu with hu | hu
      · rcases List.mem_cons.mp hu with rfl | hu
        · exact .inr (get?_of_delete_effect heffect)
        · exact .inl hu
      · exact .inr (hshrinks.get?_eq_none hu)

theorem Sound.takeAway_loose {ops : List Operation} (h : Sound B loose ts)
    (hops : ∀ op ∈ ops, TakesAway loose ts op) (hall : ts.applyAll ops = .ok us) :
    Sound B loose us := by
  induction ops generalizing ts with
  | nil =>
      cases hall
      exact h
  | cons op rest ih =>
      rcases applyAll_cons_eq_ok_iff.mp hall with ⟨vs, hop, hrest⟩
      have hshrinks := Shrinks.effect h.wellFormed (effect_of_apply h.wellFormed hop)
        (hops op (by simp))
      exact ih (h.shrinks hshrinks) (fun op' hop' => (hops op' (by simp [hop'])).shrinks hshrinks)
        hrest

/-- The rows that the operations delete by their identifiers. -/
def Deleted (ops : List Operation) (t : Table) (u : String) : Prop :=
  .delete t (.uuid u) ∈ ops

/-- Whatever is taken from its owner is deleted. -/
theorem Sound.takeAway {ops : List Operation} (h : Sound B nothing ts)
    (hops : ∀ op ∈ ops, TakesAway (Deleted ops) ts op) (hall : ts.applyAll ops = .ok us) :
    Sound B nothing us := by
  have hloose : Sound B (Deleted ops) ts := h.mono fun t u hnothing => hnothing.elim
  refine (hloose.takeAway_loose hops hall).tighten fun t u hu _ => ?_
  exact get?_of_deleted h.wellFormed hops hall (.inl hu)

/-! ## Putting deletions off -/

theorem ext_get? (h : ∀ t k, (ts t).get? k = (us t).get? k) : ts = us :=
  ext_rows fun t => TextMap.ext_get? (h t)

/-- The operation has nothing to do with the row, which it neither makes nor lists. -/
inductive Neutral (t : Table) (u : String) : Operation → Prop where
  | insert {row : Row} (hne : ¬ (row.table = t ∧ row.uuid = u))
      (hname : row.table = t → t.hasNameIndex = false)
      (hrefs : ∀ c : RefColumn, c.target? row.table = some t → u ∉ row.refs c) :
      Neutral t u (.insert row)
  | delete {table : Table} {lookup : Lookup} (h : table.isRoot = true) :
      Neutral t u (.delete table lookup)
  | removeRefs {table : Table} {lookup : Lookup} {column : RefColumn} {uuids : List String} :
      Neutral t u (.removeRefs table lookup column uuids)

section Remove

variable {t : Table} {u : String}

theorem rows_remove_of_ne {table : Table} (h : table ≠ t) :
    ts.remove t u table = (ts table).mapValues (dropReferences t u) := by
  rw [remove, rows_mapRows, rows_setTable, if_neg h]

theorem contains_remove {table : Table} {key : String} (h : ¬ (table = t ∧ key = u)) :
    (ts.remove t u table).contains key = (ts table).contains key := by
  unfold TextMap.contains
  rw [get?_remove, if_neg h, Option.isSome_map]

theorem list_remove {table : Table} (h : table ≠ t) :
    (ts.remove t u).list table = (ts.list table).map (dropReferences t u) := by
  unfold list TextMap.values
  rw [rows_remove_of_ne h]
  simp [TextMap.mapValues]

theorem findKey?_remove {table : Table} (h : table ≠ t) (lookup : Lookup) :
    (ts.remove t u).findKey? table lookup = ts.findKey? table lookup := by
  cases lookup with
  | uuid s =>
      simp only [findKey?, contains_remove fun hs => h hs.1]
  | name s =>
      have hlist : (ts.remove t u).list table = _ := list_remove h
      unfold list at hlist
      have haddresses : (Lookup.name s).addresses ∘ dropReferences t u =
          (Lookup.name s).addresses := by
        funext row
        exact (Row.Alike.dropReferences t u row).addresses _
      rw [findKey?_name, findKey?_name, hlist, List.find?_map, haddresses, Option.map_map]
      congr 1
      funext row
      exact uuid_dropReferences t u row

theorem isNameTaken_remove {row : Row} (h : row.table = t → t.hasNameIndex = false) :
    (ts.remove t u).isNameTaken row = ts.isNameTaken row := by
  unfold isNameTaken
  by_cases ht : row.table = t
  · have hindex : row.table.hasNameIndex = false := by
      rw [ht]
      exact h ht
    simp [hindex]
  · rw [list_remove ht, List.any_map]
    congr 2
    funext r
    simp

theorem put_remove {row : Row} (hne : ¬ (row.table = t ∧ row.uuid = u))
    (hrefs : ∀ c : RefColumn, c.target? row.table = some t → u ∉ row.refs c) :
    (ts.remove t u).put row = (ts.put row).remove t u := by
  refine ext_get? fun table key => ?_
  rw [get?_put, get?_remove, get?_remove, get?_put]
  by_cases hrow : table = row.table ∧ key = row.uuid
  · rw [if_pos hrow, if_pos hrow, if_neg]
    · rw [Option.map_some, dropReferences_eq_self t u row hrefs]
    · intro hfound
      rcases hfound with ⟨htable, hkey⟩
      exact hne ⟨hrow.1.symm.trans htable, hrow.2.symm.trans hkey⟩
  · rw [if_neg hrow, if_neg hrow]

theorem remove_remove (table : Table) (key : String) :
    (ts.remove t u).remove table key = (ts.remove table key).remove t u := by
  refine ext_get? fun table' key' => ?_
  rw [get?_remove, get?_remove, get?_remove, get?_remove]
  by_cases htable : table' = table ∧ key' = key
  · rw [if_pos htable, if_pos htable]
    split <;> rfl
  · rw [if_neg htable, if_neg htable]
    by_cases ht : table' = t ∧ key' = u
    · rw [if_pos ht, if_pos ht]
      rfl
    · rw [if_neg ht, if_neg ht, Option.map_map, Option.map_map]
      congr 1
      funext row
      exact dropReferences_comm table key row t u

theorem setRow_remove {table : Table} (h : table ≠ t) (key : String) (row : Row) :
    (ts.remove t u).setRow table key (dropReferences t u row) =
      (ts.setRow table key row).remove t u := by
  refine ext_get? fun table' key' => ?_
  rw [get?_setRow, get?_remove, get?_remove, get?_setRow]
  by_cases htable : table' = table ∧ key' = key
  · rw [if_pos htable, if_pos htable, if_neg]
    · rfl
    · intro hfound
      rcases hfound with ⟨ht, _⟩
      exact h (htable.1.symm.trans ht)
  · rw [if_neg htable, if_neg htable]

theorem insert_remove {row : Row} (hne : ¬ (row.table = t ∧ row.uuid = u))
    (hname : row.table = t → t.hasNameIndex = false)
    (hrefs : ∀ c : RefColumn, c.target? row.table = some t → u ∉ row.refs c) :
    (ts.remove t u).insert row = (ts.insert row).map (·.remove t u) := by
  unfold insert
  rw [contains_remove hne, isNameTaken_remove hname, put_remove hne hrefs]
  cases row.fault? with
  | some fault =>
      rfl
  | none =>
      by_cases hcontains : (ts row.table).contains row.uuid = true
      · simp only [hcontains, if_true]
        rfl
      · by_cases htaken : ts.isNameTaken row = true
        · simp only [hcontains, htaken, if_true]
          rfl
        · simp only [hcontains, htaken]
          rfl

theorem delete_remove {table : Table} (h : table ≠ t) (lookup : Lookup) :
    (ts.remove t u).delete table lookup = (ts.delete table lookup).remove t u := by
  unfold delete
  rw [findKey?_remove h]
  cases ts.findKey? table lookup with
  | none =>
      rfl
  | some key =>
      exact remove_remove table key

theorem removeRefs_remove (ht : t.isRoot = false) (table : Table) (lookup : Lookup)
    (column : RefColumn) (uuids : List String) :
    (ts.remove t u).removeRefs table lookup column uuids =
      (ts.removeRefs table lookup column uuids).map (·.remove t u) := by
  unfold removeRefs
  cases htarget : column.target? table with
  | none =>
      rfl
  | some target =>
      have hne : table ≠ t := by
        intro hsame
        rcases hsame with rfl
        have hroot := (RefColumn.owner_of_target? htarget).1
        rw [ht] at hroot
        cases hroot
      rw [findKey?_remove hne]
      cases ts.findKey? table lookup with
      | none =>
          rfl
      | some key =>
          have hget : (ts.remove t u table).get? key =
              ((ts table).get? key).map (dropReferences t u) := by
            rw [get?_remove, if_neg fun hk => hne hk.1]
          simp only [hget]
          cases (ts table).get? key with
          | none =>
              rfl
          | some row =>
              simp only [Option.map_some]
              rw [← dropReferences_mapReferences]
              exact congrArg Except.ok (setRow_remove hne key _)

theorem apply_remove (ht : t.isRoot = false) {op : Operation} (h : Neutral t u op) :
    (ts.remove t u).apply op = (ts.apply op).map (·.remove t u) := by
  cases h with
  | insert hne hname hrefs =>
      exact insert_remove hne hname hrefs
  | @delete table lookup hroot =>
      have hne : table ≠ t := by
        intro hsame
        rcases hsame with rfl
        rw [ht] at hroot
        cases hroot
      exact congrArg Except.ok (delete_remove hne lookup)
  | removeRefs =>
      exact removeRefs_remove ht _ _ _ _

end Remove

/-- A neutral operation neither makes nor takes the row. -/
theorem contains_of_neutral {t : Table} {u : String} (ht : t.isRoot = false)
    {op : Operation} (h : Neutral t u op) (hop : Effect ts op us) :
    (us t).contains u = (ts t).contains u := by
  unfold TextMap.contains
  cases h with
  | insert hne _ _ =>
      cases hop with
      | insert _ _ _ =>
          rw [get?_put, if_neg]
          intro hfound
          rcases hfound with ⟨rfl, rfl⟩
          exact hne ⟨rfl, rfl⟩
  | @delete table lookup hroot =>
      cases hop with
      | delete _ =>
          rw [get?_remove, if_neg, Option.isSome_map]
          intro hfound
          rcases hfound with ⟨rfl, _⟩
          rw [ht] at hroot
          cases hroot
      | deleteNone _ =>
          rfl
  | removeRefs =>
      cases hop with
      | removeRefs _ _ hrow =>
          rw [get?_setRow]
          split
          · rename_i htk
            rw [htk.1, htk.2, hrow]
            rfl
          · rfl
      | removeRefsNone _ _ =>
          rfl

theorem delete_uuid (ts : Tables) (t : Table) (u : String) :
    ts.delete t (.uuid u) = if (ts t).contains u = true then ts.remove t u else ts := by
  simp only [delete, findKey?]
  by_cases h : (ts t).contains u = true
  · simp [h]
  · simp [h]

/-- A deletion by identifier may be made after a neutral operation. -/
theorem apply_delete (hts : ts.WellFormed) {t : Table} {u : String} (ht : t.isRoot = false)
    {op : Operation} (h : Neutral t u op) :
    (ts.delete t (.uuid u)).apply op = (ts.apply op).map (·.delete t (.uuid u)) := by
  by_cases hcontains : (ts t).contains u = true
  · rw [delete_uuid ts, if_pos hcontains, apply_remove ht h]
    cases hop : ts.apply op with
    | error e =>
        rfl
    | ok us =>
        have hus := contains_of_neutral ht h (effect_of_apply hts hop)
        rw [hcontains] at hus
        simp only [Except.map]
        rw [delete_uuid us, if_pos hus]
  · rw [delete_uuid ts, if_neg hcontains]
    cases hop : ts.apply op with
    | error e =>
        rfl
    | ok us =>
        have hus := contains_of_neutral ht h (effect_of_apply hts hop)
        simp only [Except.map]
        rw [delete_uuid us, if_neg]
        rw [hus]
        exact hcontains

theorem applyAll_delete (hts : ts.WellFormed) {t : Table} {u : String} (ht : t.isRoot = false)
    {ops : List Operation} (h : ∀ op ∈ ops, Neutral t u op) :
    (ts.delete t (.uuid u)).applyAll ops = (ts.applyAll ops).map (·.delete t (.uuid u)) := by
  induction ops generalizing ts with
  | nil =>
      rfl
  | cons op rest ih =>
      have hhead := apply_delete hts ht (h op (by simp))
      rw [applyAll, applyAll, hhead]
      cases hop : ts.apply op with
      | error e =>
          rfl
      | ok us =>
          exact ih (hts.apply hop) fun op' hop' => h op' (by simp [hop'])

end Tables
end LogicalNet
