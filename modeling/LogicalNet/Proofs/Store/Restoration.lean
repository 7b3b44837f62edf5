import LogicalNet.Proofs.Store.Frame

/-!
# Rows that come and go

Rows are made and put on their owners, and later they are taken away again.  Beside
the rows and the references to them the tables are the same at every moment.  So when
the rows are gone and nothing refers to what is not there, the tables are those from
before the rows were made, with every list in its old order.
-/

namespace LogicalNet

open Tables

/-! ## References beside some rows -/

namespace Row

/-- Where the row stands. -/
def place (r : Row) : Table × String :=
  (r.table, r.uuid)

def withRefs (refs : RefColumn → List String) (r : Row) : Row :=
  RefColumn.all.foldl (fun s c => s.mapReferences (fun _ => refs c) c) r

theorem withRefs_refs (r : Row) : r.withRefs r.refs = r := by
  cases r <;> rfl

theorem withRefs_mapReferences (refs : RefColumn → List String) (f : List String → List String)
    (c : RefColumn) (r : Row) : (r.mapReferences f c).withRefs refs = r.withRefs refs := by
  cases c <;> cases r <;> rfl

variable {gone : List (Table × String)} {r : Row}

/-- The references to rows in other places. -/
def refsBeside (gone : List (Table × String)) (r : Row) (c : RefColumn) : List String :=
  match c.target? r.table with
  | some t => (r.refs c).filter fun u => (t, u) ∉ gone
  | none => r.refs c

/-- The row without references to the places. -/
def without (gone : List (Table × String)) (r : Row) : Row :=
  r.withRefs (r.refsBeside gone)

@[simp]
theorem table_without (gone : List (Table × String)) (r : Row) :
    (r.without gone).table = r.table := by
  cases r <;> rfl

@[simp]
theorem name?_without (gone : List (Table × String)) (r : Row) :
    (r.without gone).name? = r.name? := by
  cases r <;> rfl

@[simp]
theorem externalIds_without (gone : List (Table × String)) (r : Row) :
    (r.without gone).externalIds = r.externalIds := by
  cases r <;> rfl

@[simp]
theorem refs_without (gone : List (Table × String)) (r : Row) (c : RefColumn) :
    (r.without gone).refs c = r.refsBeside gone c := by
  cases c <;> cases r <;> rfl

theorem mem_refsBeside_iff {c : RefColumn} {t : Table} {u : String}
    (htarget : c.target? r.table = some t) (hu : (t, u) ∉ gone) :
    u ∈ r.refsBeside gone c ↔ u ∈ r.refs c := by
  simp [refsBeside, htarget, hu]

theorem without_eq_self
    (h : ∀ c t, c.target? r.table = some t → ∀ u ∈ r.refs c, (t, u) ∉ gone) :
    r.without gone = r := by
  have hrefs : r.refsBeside gone = r.refs := by
    funext c
    unfold refsBeside
    split
    · rename_i t htarget
      apply List.filter_eq_self.mpr
      intro u hu
      simpa using h c t htarget u hu
    · rfl
  rw [without, hrefs, withRefs_refs]

theorem without_of_bare (h : ∀ c : RefColumn, c.target? r.table = none) : r.without gone = r := by
  apply without_eq_self
  intro c t htarget
  rw [h c] at htarget
  cases htarget

/-- A change that keeps the references to rows in other places. -/
theorem without_mapReferences {f : List String → List String} {c : RefColumn}
    (h : ∀ t, c.target? r.table = some t → ∀ l : List String,
      (f l).filter (fun u => (t, u) ∉ gone) = l.filter fun u => (t, u) ∉ gone) :
    (r.mapReferences f c).without gone = r.without gone := by
  have hrefs : (r.mapReferences f c).refsBeside gone = r.refsBeside gone := by
    funext c'
    unfold refsBeside
    rw [table_mapReferences]
    by_cases hc : c' = c
    · subst hc
      cases htarget : c'.target? r.table with
      | none =>
          have htarget' : c'.target? (r.mapReferences f c').table = none := by
            rw [table_mapReferences, htarget]
          simp only [refs_eq_nil htarget, refs_eq_nil htarget']
      | some t =>
          have hrefs := refs_mapReferences f (Option.isSome_of_mem htarget) c'
          rw [if_pos rfl] at hrefs
          simp only [hrefs, h t htarget]
    · rw [refs_mapReferences_of_ne f hc]
  rw [without, withRefs_mapReferences, hrefs, without]

theorem without_dropReferences {target : Table} {key : String} (h : (target, key) ∈ gone) :
    (dropReferences target key r).without gone = r.without gone := by
  have hone : ∀ (r : Row) (c : RefColumn),
      (dropReference target key r c).without gone = r.without gone := by
    intro r c
    unfold dropReference
    split
    · rename_i htarget
      apply without_mapReferences
      intro t ht l
      rw [htarget] at ht
      cases ht
      rw [List.filter_filter]
      apply List.filter_congr
      intro u _
      by_cases hu : u = key
      · simp [hu, h]
      · simp [hu]
    · rfl
  rw [dropReferences_eq_foldl]
  generalize RefColumn.all = columns
  induction columns generalizing r with
  | nil =>
      rfl
  | cons c rest ih =>
      rw [List.foldl_cons, ih, hone]

end Row

namespace Tables

variable {gone : List (Table × String)} {ts us vs : Tables} {ops ops' : List Operation}

/-! ## Tables beside some rows -/

/-- The tables are the same beside the places, but for references to these. -/
def Beside (gone : List (Table × String)) (ts us : Tables) : Prop :=
  ∀ t k, (t, k) ∉ gone →
    ((us t).get? k).map (Row.without gone) = ((ts t).get? k).map (Row.without gone)

namespace Beside

theorem refl (gone : List (Table × String)) (ts : Tables) : Beside gone ts ts :=
  fun _ _ _ => rfl

theorem trans (h : Beside gone ts us) (h' : Beside gone us vs) : Beside gone ts vs :=
  fun t k hnot => (h' t k hnot).trans (h t k hnot)

theorem exists_row (h : Beside gone ts us) {t : Table} {k : String} {s : Row}
    (hnot : (t, k) ∉ gone) (hs : (us t).get? k = some s) :
    ∃ r, (ts t).get? k = some r ∧ r.without gone = s.without gone := by
  have hsame := h t k hnot
  rw [hs, Option.map_some] at hsame
  exact Option.map_eq_some_iff.mp hsame.symm

/-- A row without columns of references is as it was. -/
theorem get?_of_bare (h : Beside gone ts us) (hts : ts.WellFormed) (hus : us.WellFormed) {t : Table}
    (hbare : ∀ c : RefColumn, c.target? t = none) {k : String} {s : Row} (hnot : (t, k) ∉ gone)
    (hs : (us t).get? k = some s) : (ts t).get? k = some s := by
  obtain ⟨r, hr, hsame⟩ := h.exists_row hnot hs
  have hr' : ∀ c : RefColumn, c.target? r.table = none := by
    rw [hts.table_eq hr]
    exact hbare
  have hs' : ∀ c : RefColumn, c.target? s.table = none := by
    rw [hus.table_eq hs]
    exact hbare
  rw [Row.without_of_bare hr', Row.without_of_bare hs'] at hsame
  rw [← hsame]
  exact hr

theorem put {row : Row} (h : row.place ∈ gone) : Beside gone ts (ts.put row) := by
  intro t k hnot
  rw [get?_put, if_neg]
  intro hplace
  apply hnot
  rw [hplace.1, hplace.2]
  exact h

theorem setRow {table : Table} {key : String} {row row' : Row}
    (hrow : (ts table).get? key = some row) (hsame : row'.without gone = row.without gone) :
    Beside gone ts (ts.setRow table key row') := by
  intro t k _
  rw [get?_setRow]
  split
  · rename_i hplace
    rw [hplace.1, hplace.2, hrow, Option.map_some, Option.map_some, hsame]
  · rfl

theorem remove {table : Table} {key : String} (h : (table, key) ∈ gone) :
    Beside gone ts (ts.remove table key) := by
  intro t k hnot
  rw [get?_remove, if_neg, Option.map_map]
  · congr 1
    funext r
    exact Row.without_dropReferences h
  · intro hplace
    apply hnot
    rw [hplace.1, hplace.2]
    exact h

/-- When nothing stands in the places and nothing refers to them, there is no difference left. -/
theorem eq {B : Bond} {loose : Table → String → Prop} (h : Beside gone ts us)
    (hts : Sound B loose ts) (hus : Sound B loose us)
    (hbefore : ∀ p ∈ gone, (ts p.1).get? p.2 = none)
    (hafter : ∀ p ∈ gone, (us p.1).get? p.2 = none) : us = ts := by
  have hself : ∀ {vs : Tables}, Sound B loose vs → (∀ p ∈ gone, (vs p.1).get? p.2 = none) →
      ∀ t k, ((vs t).get? k).map (Row.without gone) = (vs t).get? k := by
    intro vs hvs hnone t k
    cases hrow : (vs t).get? k with
    | none =>
        rfl
    | some row =>
        rw [Option.map_some, Row.without_eq_self]
        intro c t' htarget u hu hgone
        rw [hvs.wellFormed.table_eq hrow] at htarget
        exact hvs.not_mem_of_get?_eq_none hrow htarget (hnone _ hgone) hu
  apply ext_get?
  intro t k
  by_cases hgone : (t, k) ∈ gone
  · rw [hbefore _ hgone, hafter _ hgone]
  · have hsame := h t k hgone
    rw [hself hus hafter, hself hts hbefore] at hsame
    exact hsame

end Beside

/-! ## Making rows -/

/-- The operation makes one of the rows, or puts one on a row of another table. -/
inductive Makes (rows : List Row) : Operation → Prop where
  | insert {row : Row} (h : row ∈ rows) : Makes rows (.insert row)
  | list {row : Row} {table : Table} {lookup : Lookup} {c : RefColumn} (h : row ∈ rows)
      (htarget : c.target? table = some row.table) (hother : ∀ r ∈ rows, r.table ≠ table) :
      Makes rows (.addRefs table lookup c [row.uuid])

theorem place_mem_iff {rows : List Row} {t : Table} {u : String} :
    (t, u) ∈ rows.map Row.place ↔ ∃ row ∈ rows, row.table = t ∧ row.uuid = u := by
  simp [Row.place]

theorem beside_of_makes {rows : List Row} {op : Operation} (h : Makes rows op)
    (hop : Effect ts op us) (hts : ts.WellFormed) : Beside (rows.map Row.place) ts us := by
  cases h with
  | insert hmem =>
      cases hop with
      | insert _ _ _ =>
          exact .put (List.mem_map_of_mem hmem)
  | @list row _ _ _ hmem htarget _ =>
      generalize hadded : [row.uuid] = uuids at hop
      cases hop with
      | addRefs _ _ _ hrow _ =>
          apply Beside.setRow hrow
          apply Row.without_mapReferences
          intro t ht l
          rw [hts.table_eq hrow, htarget] at ht
          cases ht
          rw [addMissing_eq, List.filter_append, ← hadded]
          have hnone : ([row.uuid].filter (· ∉ l)).eraseDups.filter
              (fun u => (row.table, u) ∉ rows.map Row.place) = [] := by
            apply List.filter_eq_nil_iff.mpr
            intro u hu
            rw [List.mem_eraseDups] at hu
            rw [List.mem_singleton.mp (List.mem_filter.mp hu).1]
            simpa using ⟨row, hmem, rfl⟩
          rw [hnone, List.append_nil]

/-- A row of the tables that the new rows go to stays as it is while they are made. -/
theorem get?_of_makes {rows : List Row} {op : Operation} (h : Makes rows op)
    (hop : Effect ts op us) {row : Row} (hmem : row ∈ rows) {k : String} {r : Row}
    (hr : (ts row.table).get? k = some r) : (us row.table).get? k = some r := by
  cases h with
  | insert _ =>
      cases hop with
      | insert _ hnew _ =>
          exact get?_put_of_new hnew hr
  | @list row' _ _ _ _ _ hother =>
      generalize [row'.uuid] = uuids at hop
      cases hop with
      | addRefs _ _ _ _ _ =>
          rw [get?_setRow, if_neg]
          · exact hr
          · intro hplace
            exact hother row hmem hplace.1

/-- The rows are new in the second tables, which are otherwise the first but for references to
them. -/
structure Created (rows : List Row) (ts us : Tables) : Prop where
  before : ∀ row ∈ rows, (ts row.table).get? row.uuid = none
  stored : ∀ row ∈ rows, (us row.table).get? row.uuid = some row
  beside : Beside (rows.map Row.place) ts us

/-- Operations that make rows leave every row beside these, and what the tables of the new rows
hold already. -/
theorem beside_of_makes_all (hts : ts.WellFormed) {rows : List Row}
    (hmakes : ∀ op ∈ ops, Makes rows op) (hops : ts.applyAll ops = .ok us) :
    Beside (rows.map Row.place) ts us ∧ ∀ row ∈ rows, ∀ k r,
      (ts row.table).get? k = some r → (us row.table).get? k = some r := by
  induction ops generalizing ts with
  | nil =>
      cases hops
      exact ⟨.refl _ _, fun _ _ _ _ hr => hr⟩
  | cons op rest ih =>
      obtain ⟨vs, hop, hrest⟩ := applyAll_cons_eq_ok_iff.mp hops
      have heffect := effect_of_apply hts hop
      have hmakesOp := hmakes op (by simp)
      obtain ⟨hbeside, hrows⟩ :=
        ih (hts.apply hop) (fun op' hop' => hmakes op' (by simp [hop'])) hrest
      refine ⟨(beside_of_makes hmakesOp heffect hts).trans hbeside, fun row hmem k r hr => ?_⟩
      exact hrows row hmem k r (get?_of_makes hmakesOp heffect hmem hr)

theorem created_of_makes (hts : ts.WellFormed) {rows : List Row}
    (hmakes : ∀ op ∈ ops, Makes rows op) (hinserts : ∀ row ∈ rows, .insert row ∈ ops)
    (hops : ts.applyAll ops = .ok us) : Created rows ts us := by
  -- a row is new when its insertion succeeds, so it was new before
  have hsplit : ∀ row ∈ rows, (ts row.table).get? row.uuid = none ∧
      (us row.table).get? row.uuid = some row := by
    intro row hmem
    obtain ⟨front, rest, rfl⟩ := List.append_of_mem (hinserts row hmem)
    obtain ⟨vs, hfront, hrest⟩ := applyAll_append_eq_ok_iff.mp hops
    obtain ⟨ws, hinsert, hrest⟩ := applyAll_cons_eq_ok_iff.mp hrest
    have hvs := hts.applyAll hfront
    have hbefore := (beside_of_makes_all hts (fun op hop => hmakes op (by simp [hop])) hfront).2
    have hafter := (beside_of_makes_all (hvs.apply hinsert)
      (fun op hop => hmakes op (by simp [hop])) hrest).2
    cases effect_of_apply hvs hinsert with
    | insert _ hnew _ =>
        refine ⟨?_, hafter row hmem _ _ (get?_put_self vs row)⟩
        cases hr : (ts row.table).get? row.uuid with
        | none =>
            rfl
        | some r =>
            rw [hbefore row hmem _ _ hr] at hnew
            cases hnew
  exact ⟨fun row hmem => (hsplit row hmem).1, fun row hmem => (hsplit row hmem).2,
    (beside_of_makes_all hts hmakes hops).1⟩

/-! ## Taking rows away -/

/-- The operation takes nothing but rows in the places, and references to these. -/
inductive Clears (gone : List (Table × String)) (ts : Tables) : Operation → Prop where
  | removeRefs {table : Table} {lookup : Lookup} {c : RefColumn} {uuids : List String}
      (h : ∀ t, c.target? table = some t → ∀ u ∈ uuids, (t, u) ∈ gone) :
      Clears gone ts (.removeRefs table lookup c uuids)
  | delete {table : Table} {lookup : Lookup}
      (h : ∀ k r, (ts table).get? k = some r → lookup.addresses r = true → (table, k) ∈ gone) :
      Clears gone ts (.delete table lookup)

theorem Clears.delete_uuid (hts : ts.WellFormed) {table : Table} {u : String}
    (h : (table, u) ∈ gone) : Clears gone ts (.delete table (.uuid u)) := by
  apply Clears.delete
  intro k r hr haddresses
  have huuid : r.uuid = u := by
    simpa [Lookup.addresses] using haddresses
  rw [← hts.uuid_eq hr, huuid]
  exact h

theorem Clears.mono {op : Operation} (h : Clears gone ts op)
    (hrows : ∀ {t k s}, (us t).get? k = some s → ∃ r, (ts t).get? k = some r ∧
      ∀ l : Lookup, l.addresses s = l.addresses r) : Clears gone us op := by
  cases h with
  | removeRefs h =>
      exact .removeRefs h
  | delete h =>
      apply Clears.delete
      intro k s hs haddresses
      obtain ⟨r, hr, hsame⟩ := hrows hs
      rw [hsame] at haddresses
      exact h k r hr haddresses

theorem beside_of_clears {op : Operation} (h : Clears gone ts op) (hop : Effect ts op us)
    (hts : ts.WellFormed) : Beside gone ts us := by
  cases h with
  | @removeRefs table lookup c uuids h =>
      cases hop with
      | removeRefs _ _ hrow =>
          apply Beside.setRow hrow
          apply Row.without_mapReferences
          intro t htarget l
          rw [hts.table_eq hrow] at htarget
          rw [List.filter_filter]
          apply List.filter_congr
          intro u _
          by_cases hu : (t, u) ∈ gone
          · simp [hu]
          · have hnot : u ∉ uuids := fun hmem => hu (h t htarget u hmem)
            simp [hu, hnot]
      | removeRefsNone _ _ =>
          exact .refl _ _
  | delete h =>
      cases hop with
      | delete hkey =>
          obtain ⟨row, hrow, haddresses⟩ := hts.get?_of_findKey? hkey
          exact .remove (h _ row hrow haddresses)
      | deleteNone _ =>
          exact .refl _ _

/-- An operation that takes away leaves rows under their names. -/
theorem Clears.exists_row {op : Operation} (h : Clears gone ts op) (hop : Effect ts op us)
    (hts : ts.WellFormed) {t : Table} {k : String} {s : Row} (hs : (us t).get? k = some s) :
    ∃ r, (ts t).get? k = some r ∧ ∀ l : Lookup, l.addresses s = l.addresses r := by
  obtain ⟨r, hr | ⟨hputs, _⟩, hrevised⟩ := exists_revised_of_effect hts hop hs
  · exact ⟨r, hr, hrevised.addresses⟩
  · cases h <;> simp [Puts] at hputs

theorem beside_of_clears_all (hts : ts.WellFormed) (h : ∀ op ∈ ops, Clears gone ts op)
    (hops : ts.applyAll ops = .ok us) : Beside gone ts us := by
  induction ops generalizing ts with
  | nil =>
      cases hops
      exact .refl _ _
  | cons op rest ih =>
      obtain ⟨vs, hop, hrest⟩ := applyAll_cons_eq_ok_iff.mp hops
      have heffect := effect_of_apply hts hop
      have hclears := h op (by simp)
      have hbeside := ih (hts.apply hop) (fun op' hop' => (h op' (by simp [hop'])).mono
        fun hs => hclears.exists_row heffect hts hs) hrest
      exact (beside_of_clears hclears heffect hts).trans hbeside

/-! ## Back to where it began -/

/-- What was made and is taken away again leaves no trace. -/
theorem Created.undone {B : Bond} {loose : Table → String → Prop} {rows : List Row}
    (h : Created rows ts us) (hts : Sound B loose ts) (hus : us.WellFormed)
    (hvs : Sound B loose vs) (hclears : ∀ op ∈ ops, Clears (rows.map Row.place) us op)
    (hops : us.applyAll ops = .ok vs)
    (hgone : ∀ row ∈ rows, (vs row.table).get? row.uuid = none) : vs = ts := by
  have hbeside := h.beside.trans (beside_of_clears_all hus hclears hops)
  apply hbeside.eq hts hvs
  · intro p hp
    obtain ⟨row, hmem, htable, huuid⟩ := place_mem_iff.mp hp
    rw [← htable, ← huuid]
    exact h.before row hmem
  · intro p hp
    obtain ⟨row, hmem, htable, huuid⟩ := place_mem_iff.mp hp
    rw [← htable, ← huuid]
    exact hgone row hmem

end Tables
end LogicalNet
