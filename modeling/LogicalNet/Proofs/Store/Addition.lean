import LogicalNet.Proofs.Store.Ownership

/-!
# Transactions that add

A new row is attached to its owner in the transaction that makes it, or a list of
new rows gets its owner as the last of them.
-/

namespace LogicalNet
namespace Tables

variable {B : Bond} {loose loose' : Table → String → Prop} {ts us vs : Tables}

theorem applyAll_append_eq_ok_iff {ops ops' : List Operation} :
    ts.applyAll (ops ++ ops') = .ok us ↔
      ∃ vs, ts.applyAll ops = .ok vs ∧ vs.applyAll ops' = .ok us := by
  induction ops generalizing ts with
  | nil =>
      simp [applyAll]
  | cons op rest ih =>
      rw [List.cons_append, applyAll_cons_eq_ok_iff]
      constructor
      · intro hfound
        rcases hfound with ⟨vs, hop, hrest⟩
        rcases ih.mp hrest with ⟨ws, hws, hops'⟩
        exact ⟨ws, applyAll_cons_eq_ok_iff.mpr ⟨vs, hop, hws⟩, hops'⟩
      · intro hfound
        rcases hfound with ⟨ws, hws, hops'⟩
        rcases applyAll_cons_eq_ok_iff.mp hws with ⟨vs, hop, hrest⟩
        exact ⟨vs, hop, ih.mpr ⟨ws, hrest, hops'⟩⟩

/-! ## Rows that stay -/

/-- The operation leaves the rows of the table where they are, under their names. -/
def Keeps (t : Table) : Operation → Prop
  | .insert _ => True
  | .addRefs _ _ _ _ => True
  | .removeRefs _ _ _ _ => True
  | op => op.table ≠ t

theorem alike_of_effect {op : Operation} (hop : Effect ts op us) {t : Table} {k : String}
    {r : Row} (hkeeps : Keeps t op) (hr : (ts t).get? k = some r) :
    ∃ r', (us t).get? k = some r' ∧ r.Alike r' := by
  have hset : ∀ {table key row row'}, (ts table).get? key = some row → row.Alike row' →
      ∃ r', (ts.setRow table key row' t).get? k = some r' ∧ r.Alike r' := by
    intro table key row row' hrow halike
    rw [get?_setRow]
    split
    · rename_i htk
      rw [htk.1, htk.2, hrow] at hr
      cases hr
      exact ⟨row', rfl, halike⟩
    · exact ⟨r, hr, .refl r⟩
  cases hop with
  | @insert row _ hnew _ =>
      exact ⟨r, get?_put_of_new hnew hr, .refl r⟩
  | update _ _ _ =>
      rw [get?_put, if_neg fun htk => hkeeps htk.1.symm]
      exact ⟨r, hr, .refl r⟩
  | delete _ =>
      rw [get?_remove, if_neg fun htk => hkeeps htk.1.symm, hr]
      exact ⟨_, rfl, .dropReferences _ _ r⟩
  | addRefs _ _ _ hrow _ =>
      exact hset hrow (.mapReferences _ _ _)
  | removeRefs _ _ hrow =>
      exact hset hrow (.mapReferences _ _ _)
  | setKeys _ _ _ =>
      rw [get?_setRow, if_neg fun htk => hkeeps htk.1.symm]
      exact ⟨r, hr, .refl r⟩
  | deleteNone _ =>
      exact ⟨r, hr, .refl r⟩
  | removeRefsNone _ _ =>
      exact ⟨r, hr, .refl r⟩

theorem alike_of_applyAll (hts : ts.WellFormed) {ops : List Operation}
    (hops : ts.applyAll ops = .ok us) {t : Table} {k : String} {r : Row}
    (hkeeps : ∀ op ∈ ops, Keeps t op) (hr : (ts t).get? k = some r) :
    ∃ r', (us t).get? k = some r' ∧ r.Alike r' := by
  induction ops generalizing ts r with
  | nil =>
      cases hops
      exact ⟨r, hr, .refl r⟩
  | cons op rest ih =>
      rcases applyAll_cons_eq_ok_iff.mp hops with ⟨vs, hop, hrest⟩
      rcases alike_of_effect (effect_of_apply hts hop) (hkeeps op (by simp)) hr with
        ⟨s, hs, halike⟩
      rcases ih (hts.apply hop) hrest (fun op' hop' => hkeeps op' (by simp [hop'])) hs with
        ⟨r', hr', halike'⟩
      exact ⟨r', hr', halike.trans halike'⟩

/-! ## One row with its owner -/

/-- Makes the row and lists it in the column of its owner. -/
def attachment (row : Row) (owner : Table) (key : String) (c : RefColumn) : List Operation :=
  [.insert row, .addRefs owner (.uuid key) c [row.uuid]]

theorem Sound.attach (h : Sound B nothing ts) {row o : Row} {owner : Table} {key : String}
    {c : RefColumn} (hbare : ∀ c, row.refs c = []) (howner : row.table.owner? = some (owner, c))
    (ho : (ts owner).get? key = some o) (hholds : B.Holds o c row)
    (hops : ts.applyAll (attachment row owner key c) = .ok us) : Sound B nothing us := by
  rcases applyAll_cons_eq_ok_iff.mp hops with ⟨vs, hinsert, hrest⟩
  rcases applyAll_cons_eq_ok_iff.mp hrest with ⟨ws, hadd, hdone⟩
  cases hdone
  have htarget := Table.target?_of_owner? howner
  have hne : owner ≠ row.table := by
    intro heq
    have hroot := (RefColumn.owner_of_target? htarget).1
    rw [heq, Table.owner?_eq_none_iff.mpr] at howner
    · cases howner
    · rw [← heq]
      exact hroot
  cases effect_of_apply h.wellFormed hinsert with
  | insert _ hnew hname =>
      have hput : Sound B (fun t u => t = row.table ∧ u = row.uuid) (ts.put row) :=
        h.putBare hnew hname hbare (fun t u hnothing => hnothing.elim) (.inr ⟨rfl, rfl⟩)
      have hget : ∀ k, (ts.put row owner).get? k = (ts owner).get? k := by
        intro k
        rw [get?_put, if_neg fun hok => hne hok.1]
      cases effect_of_apply hput.wellFormed hadd with
      | @addRefs _ _ _ _ _ key' row' _ _ hkey hrow' _ =>
          cases eq_of_findKey?_uuid hkey
          rw [hget, ho] at hrow'
          cases hrow'
          refine hput.addRef (r := row) (by rw [hget]; exact ho) htarget ?_ hholds ?_ ?_
          · exact get?_put_self ts row
          · intro _ k' other hother hmem
            rw [hget] at hother
            exact absurd hmem (h.not_mem_of_get?_eq_none hother htarget hnew)
          · intro t u hfound
            rcases hfound with ⟨rfl, rfl⟩
            exact .inr ⟨howner, rfl⟩

/-! ## Many rows -/

/-- New rows are all there at the end beside the old ones, and no two of them are the same. -/
structure Inserted (ts us : Tables) (rows : List Row) : Prop where
  fresh : ∀ row ∈ rows, (ts row.table).get? row.uuid = none
  distinct : rows.Pairwise fun r s => ¬ (r.table = s.table ∧ r.uuid = s.uuid)
  made : ∀ row ∈ rows, (us row.table).get? row.uuid = some row
  kept : ∀ {t k r}, (ts t).get? k = some r → (us t).get? k = some r
  old : ∀ {t k r}, (us t).get? k = some r → (ts t).get? k = some r ∨ (r ∈ rows ∧ r.table = t)

theorem inserted_of_applyAll (hts : ts.WellFormed) {rows : List Row}
    (hops : ts.applyAll (rows.map .insert) = .ok us) : Inserted ts us rows := by
  induction rows generalizing ts with
  | nil =>
      cases hops
      exact ⟨by simp, .nil, by simp, id, .inl⟩
  | cons row rest ih =>
      rcases applyAll_cons_eq_ok_iff.mp hops with ⟨vs, hop, hrest⟩
      cases effect_of_apply hts hop with
      | insert hfault hnew hname =>
          have hlater := ih (hts.apply hop) hrest
          have hself := get?_put_self ts row
          constructor
          · intro r hr
            rcases List.mem_cons.mp hr with rfl | hr
            · exact hnew
            · cases hget : (ts r.table).get? r.uuid with
              | none =>
                  rfl
              | some s =>
                  have hnone := hlater.fresh r hr
                  rw [get?_put_of_new hnew hget] at hnone
                  cases hnone
          · refine .cons (fun r hr hsame => ?_) hlater.distinct
            have hnone := hlater.fresh r hr
            rw [← hsame.1, ← hsame.2, hself] at hnone
            cases hnone
          · intro r hr
            rcases List.mem_cons.mp hr with rfl | hr
            · exact hlater.kept hself
            · exact hlater.made r hr
          · exact fun hr => hlater.kept (get?_put_of_new hnew hr)
          · intro t k r hr
            rcases hlater.old hr with hr | ⟨hmem, htable⟩
            · rw [get?_put] at hr
              split at hr
              · rename_i htk
                cases hr
                exact .inr ⟨by simp, htk.1.symm⟩
              · exact .inl hr
            · exact .inr ⟨by simp [hmem], htable⟩

/-- The new rows list nothing; those of tables that are no roots are named, as nothing owns them. -/
theorem Sound.insertAll (h : Sound B loose ts) {rows : List Row}
    (hbare : ∀ row ∈ rows, ∀ c, row.refs c = [])
    (hops : ts.applyAll (rows.map .insert) = .ok us) :
    Sound B (fun t u => loose t u ∨
      ∃ row ∈ rows, row.table.isRoot = false ∧ row.table = t ∧ row.uuid = u) us := by
  induction rows generalizing ts loose with
  | nil =>
      cases hops
      exact h.mono fun t u hl => .inl hl
  | cons row rest ih =>
      rcases applyAll_cons_eq_ok_iff.mp hops with ⟨vs, hop, hrest⟩
      cases effect_of_apply h.wellFormed hop with
      | insert _ hnew hname =>
          have hput : Sound B (fun t u => loose t u ∨
              (row.table.isRoot = false ∧ row.table = t ∧ row.uuid = u)) (ts.put row) := by
            refine h.putBare hnew hname (hbare row (by simp)) (fun t u hl => .inl hl) ?_
            cases hroot : row.table.isRoot with
            | true =>
                exact .inl rfl
            | false =>
                exact .inr (.inr ⟨rfl, rfl, rfl⟩)
          refine (ih hput (fun r hr => hbare r (by simp [hr])) hrest).mono ?_
          intro t u hcases
          rcases hcases with (hl | hrow) | ⟨r, hr, hsame⟩
          · exact .inl hl
          · exact .inr ⟨row, by simp, hrow⟩
          · exact .inr ⟨r, by simp [hr], hsame⟩

end Tables
end LogicalNet
