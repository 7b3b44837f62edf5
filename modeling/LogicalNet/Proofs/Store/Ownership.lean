import Mathlib.Logic.ExistsUnique
import LogicalNet.Proofs.Row.References
import LogicalNet.Proofs.Store.Effects

/-!
# Ownership

Every reference is to a row that is there, and every row of a table that is no root
is listed by one row of another table, its owner.  In the middle of a transaction
some rows have lost their owner or have not got it yet; `Sound` names them.  Beside
that it says what holds between a row and each row that it lists, which is up to the
caller.

Operations that only take rows and references away are treated together: they keep
`Sound` as long as the rows that lose their owner are among the named ones.
-/

namespace LogicalNet

/-! ## Owners -/

/-- The table of the owners of the rows of a table that is no root, and their column for them. -/
def Table.owner? : Table → Option (Table × RefColumn)
  | switchPort => some (switch, .ports)
  | routerPort => some (router, .ports)
  | staticRoute => some (router, .staticRoutes)
  | nat => some (router, .nat)
  | acl => some (portGroup, .acls)
  | _ => none

theorem Table.target?_of_owner? {t o : Table} {c : RefColumn} (h : t.owner? = some (o, c)) :
    c.target? o = some t := by
  cases t <;> cases h <;> rfl

theorem Table.owner?_eq_none_iff {t : Table} : t.owner? = none ↔ t.isRoot = true := by
  cases t <;> simp [owner?, isRoot]

theorem RefColumn.owner_of_target? {o t : Table} {c : RefColumn} (h : c.target? o = some t) :
    o.isRoot = true ∧ o.hasNameIndex = true := by
  cases c <;> cases o <;> first | exact ⟨rfl, rfl⟩ | cases h

/-- Besides its owner, a port of a switch may be listed by port groups, and an access control list
by switches. -/
theorem RefColumn.lister_of_target? {o t : Table} {c : RefColumn} (h : c.target? o = some t)
    (ht : t.isRoot = false) : t.owner? = some (o, c) ∨
      (t = .switchPort ∧ o = .portGroup ∧ c = .ports) ∨
      (t = .acl ∧ o = .switch ∧ c = .acls) := by
  cases c <;> cases o <;> cases h <;> simp_all [Table.owner?, Table.isRoot]

/-- Rows of the other tables are listed by their owner alone. -/
theorem RefColumn.owner?_of_target? {o t : Table} {c : RefColumn} (h : c.target? o = some t)
    (ht : t.isRoot = false) (hport : t ≠ .switchPort) (hacl : t ≠ .acl) :
    t.owner? = some (o, c) := by
  rcases RefColumn.lister_of_target? h ht with howner | ⟨hswitchPort, _⟩ | ⟨heq, _⟩
  · exact howner
  · exact absurd hswitchPort hport
  · exact absurd heq hacl

/-- Every reference names a row and stands once in its list, and every row of a table that is no
root has exactly one owner. -/
structure Tables.Owned (ts : Tables) : Prop where
  exists_row : ∀ {o k row c t}, (ts o).get? k = some row → c.target? o = some t →
    ∀ u ∈ row.refs c, ∃ r, (ts t).get? u = some r
  nodup : ∀ {o k row c}, (ts o).get? k = some row → (row.refs c).Nodup
  one_owner : ∀ {t o : Table} {c : RefColumn}, t.owner? = some (o, c) → ∀ {u r},
    (ts t).get? u = some r → ∃! k, ∃ row, (ts o).get? k = some row ∧ u ∈ row.refs c

/-- A relation between rows and the rows that they list, which goes by what no change of references
touches. -/
structure Bond where
  Holds : Row → RefColumn → Row → Prop
  alike : ∀ {o o' r r' : Row} {c : RefColumn}, o.Alike o' → r.Alike r' → Holds o c r →
    Holds o' c r'

namespace Tables

/-- The tables are owned, but for the named rows, which may be without an owner. -/
structure Sound (B : Bond) (loose : Table → String → Prop) (ts : Tables) : Prop where
  wellFormed : ts.WellFormed
  bond : ∀ {o k row c t}, (ts o).get? k = some row → c.target? o = some t →
    ∀ u ∈ row.refs c, ∃ r, (ts t).get? u = some r ∧ B.Holds row c r
  nodup : ∀ {o k row c}, (ts o).get? k = some row → (row.refs c).Nodup
  one : ∀ {t o : Table} {c : RefColumn}, t.owner? = some (o, c) → ∀ {u k k' row row'},
    (ts o).get? k = some row → (ts o).get? k' = some row' → u ∈ row.refs c → u ∈ row'.refs c →
    k = k'
  listed : ∀ {t o : Table} {c : RefColumn}, t.owner? = some (o, c) → ∀ {u r},
    (ts t).get? u = some r → ¬ loose t u → ∃ k row, (ts o).get? k = some row ∧ u ∈ row.refs c

/-- No row is named. -/
def nothing : Table → String → Prop :=
  fun _ _ => False

variable {B : Bond} {loose loose' : Table → String → Prop} {ts us : Tables}

namespace Sound

theorem empty : Sound B nothing Tables.empty := by
  constructor
  · exact .empty
  all_goals intros; simp_all

theorem owned (h : Sound B nothing ts) : ts.Owned := by
  refine ⟨?_, fun hrow => h.nodup hrow, ?_⟩
  · intro o k row c t hrow ht u hu
    rcases h.bond hrow ht u hu with ⟨r, hr, _⟩
    exact ⟨r, hr⟩
  · intro t o c howner u r hr
    rcases h.listed howner hr id with ⟨k, row, hrow, hu⟩
    refine ⟨k, ⟨row, hrow, hu⟩, ?_⟩
    intro k' hfound
    rcases hfound with ⟨row', hrow', hu'⟩
    exact h.one howner hrow' hrow hu' hu

theorem mono (h : Sound B loose ts) (hloose : ∀ t u, loose t u → loose' t u) :
    Sound B loose' ts :=
  ⟨h.wellFormed, h.bond, h.nodup, h.one,
    fun howner _ _ hr hnot => h.listed howner hr fun hl => hnot (hloose _ _ hl)⟩

/-- Rows that are gone need no owner. -/
theorem tighten (h : Sound B loose ts)
    (hgone : ∀ t u, loose t u → ¬ loose' t u → (ts t).get? u = none) : Sound B loose' ts := by
  refine ⟨h.wellFormed, h.bond, h.nodup, h.one, ?_⟩
  intro t o c howner u r hr hnot
  refine h.listed howner hr fun hl => ?_
  rw [hgone t u hl hnot] at hr
  cases hr

/-- What is not there is not listed. -/
theorem not_mem_of_get?_eq_none (h : Sound B loose ts) {o t : Table} {k u : String} {row : Row}
    {c : RefColumn} (hrow : (ts o).get? k = some row) (ht : c.target? o = some t)
    (hu : (ts t).get? u = none) : u ∉ row.refs c := by
  intro hmem
  rcases h.bond hrow ht u hmem with ⟨r, hr, _⟩
  rw [hu] at hr
  cases hr

end Sound

/-! ## Taking away -/

/-- Rows and references go, and nothing else happens; only named rows lose their owner. -/
structure Shrinks (loose : Table → String → Prop) (ts us : Tables) : Prop where
  row : ∀ {t k s}, (us t).get? k = some s → ∃ r, (ts t).get? k = some r ∧ r.Alike s ∧
    ∀ c, (s.refs c).Sublist (r.refs c)
  bond : ∀ {o k s c t u r}, (us o).get? k = some s → c.target? o = some t → u ∈ s.refs c →
    (ts t).get? u = some r → ∃ r', (us t).get? u = some r'
  listed : ∀ {t o : Table} {c : RefColumn}, t.owner? = some (o, c) → ∀ {u s k row},
    (us t).get? u = some s → ¬ loose t u → (ts o).get? k = some row → u ∈ row.refs c →
    ∃ row', (us o).get? k = some row' ∧ u ∈ row'.refs c

theorem Sound.shrinks (h : Sound B loose ts) (hs : Shrinks loose ts us) : Sound B loose us := by
  constructor
  · refine h.wellFormed.of_rows fun hrow => ?_
    rcases hs.row hrow with ⟨r, hr, halike, _⟩
    exact ⟨r, hr, halike.table, halike.uuid, halike.name?⟩
  · intro o k row c t hrow ht u hu
    rcases hs.row hrow with ⟨old, hold, halike, hrefs⟩
    rcases h.bond hold ht u ((hrefs c).subset hu) with ⟨r, hr, hbond⟩
    rcases hs.bond hrow ht hu hr with ⟨r', hr'⟩
    rcases hs.row hr' with ⟨r₀, hr₀, halike', _⟩
    rw [hr] at hr₀
    cases hr₀
    exact ⟨r', hr', B.alike halike halike' hbond⟩
  · intro o k row c hrow
    rcases hs.row hrow with ⟨old, hold, _, hrefs⟩
    exact (h.nodup hold).sublist (hrefs c)
  · intro t o c howner u k k' row row' hrow hrow' hu hu'
    rcases hs.row hrow with ⟨old, hold, _, hrefs⟩
    rcases hs.row hrow' with ⟨old', hold', _, hrefs'⟩
    exact h.one howner hold hold' ((hrefs c).subset hu) ((hrefs' c).subset hu')
  · intro t o c howner u s hs' hnot
    rcases hs.row hs' with ⟨r, hr, _, _⟩
    rcases h.listed howner hr hnot with ⟨k, row, hrow, hu⟩
    rcases hs.listed howner hs' hnot hrow hu with ⟨row', hrow', hu'⟩
    exact ⟨k, row', hrow', hu'⟩

theorem Shrinks.refl (loose : Table → String → Prop) (ts : Tables) : Shrinks loose ts ts :=
  ⟨fun hrow => ⟨_, hrow, .refl _, fun _ => .refl _⟩, fun _ _ _ hr => ⟨_, hr⟩,
    fun _ _ _ _ _ _ _ hrow hu => ⟨_, hrow, hu⟩⟩

/-- A row that keeps the references to rows that are not named. -/
theorem Shrinks.setRow {table : Table} {key : String} {row row' : Row}
    (hrow : (ts table).get? key = some row) (halike : row.Alike row')
    (hrefs : ∀ c, (row'.refs c).Sublist (row.refs c))
    (hkeep : ∀ t c, t.owner? = some (table, c) → ∀ u ∈ row.refs c, ¬ loose t u →
      u ∈ row'.refs c) : Shrinks loose ts (ts.setRow table key row') := by
  constructor
  · intro t k s hs
    rw [get?_setRow] at hs
    split at hs
    · rename_i htk
      cases hs
      rw [htk.1, htk.2]
      exact ⟨row, hrow, halike, hrefs⟩
    · exact ⟨s, hs, .refl s, fun _ => .refl _⟩
  · intro o k s c t u r _ _ _ hr
    rw [get?_setRow]
    split
    · exact ⟨row', rfl⟩
    · exact ⟨r, hr⟩
  · intro t o c howner u s k old _ hnot hold hu
    rw [get?_setRow]
    split
    · rename_i hok
      rw [hok.1] at howner
      rw [hok.1, hok.2, hrow] at hold
      cases hold
      exact ⟨row', rfl, hkeep t c howner u hu hnot⟩
    · exact ⟨old, hold, hu⟩

/-- A row that lists only named rows. -/
theorem Shrinks.remove {table : Table} {key : String}
    (hloose : ∀ t c, t.owner? = some (table, c) → ∀ row, (ts table).get? key = some row →
      ∀ u ∈ row.refs c, loose t u) (hts : ts.WellFormed) :
    Shrinks loose ts (ts.remove table key) := by
  have hrefs : ∀ r c, ((dropReferences table key r).refs c).Sublist (r.refs c) := by
    intro r c
    rw [refs_dropReferences]
    split
    · exact List.filter_sublist
    · exact .refl _
  constructor
  · intro t k s hs
    rw [get?_remove] at hs
    split at hs
    · cases hs
    · rcases Option.map_eq_some_iff.mp hs with ⟨r, hr, rfl⟩
      exact ⟨r, hr, .dropReferences table key r, hrefs r⟩
  · intro o k s c t u r hs ht hu hr
    rw [get?_remove] at hs
    split at hs
    · cases hs
    · rcases Option.map_eq_some_iff.mp hs with ⟨old, hold, rfl⟩
      rw [get?_remove]
      split
      · rename_i htu
        rw [refs_dropReferences, hts.table_eq hold, ht, htu.1, if_pos rfl, htu.2] at hu
        simp at hu
      · exact ⟨_, Option.map_eq_some_iff.mpr ⟨r, hr, rfl⟩⟩
  · intro t o c howner u s k row hs hnot hrow hu
    rw [get?_remove] at hs ⊢
    split
    · rename_i hok
      rw [hok.1] at howner hrow
      rw [hok.2] at hrow
      exact absurd (hloose t c howner row hrow u hu) hnot
    · refine ⟨_, Option.map_eq_some_iff.mpr ⟨row, hrow, rfl⟩, ?_⟩
      rw [refs_dropReferences]
      split
      · rename_i htarget
        rw [hts.table_eq hrow, Table.target?_of_owner? howner] at htarget
        cases htarget
        have hne : u ≠ key := by
          intro hsame
          rcases hsame with rfl
          rw [if_pos ⟨rfl, rfl⟩] at hs
          cases hs
        simpa [hne] using hu
      · exact hu

/-! ## Adding -/

namespace Sound

/-- A new row; the rows that it lists have no other owner, and it needs an owner itself unless it is
named. -/
theorem putNew (h : Sound B loose ts) {row : Row}
    (hnew : (ts row.table).get? row.uuid = none) (hname : ts.isNameTaken row = false)
    (hbond : ∀ c t, c.target? row.table = some t → ∀ u ∈ row.refs c,
      ∃ r, (ts t).get? u = some r ∧ B.Holds row c r)
    (hnodup : ∀ c, (row.refs c).Nodup)
    (hone : ∀ (t : Table) c, t.owner? = some (row.table, c) → ∀ u ∈ row.refs c, ∀ k old,
      (ts row.table).get? k = some old → u ∉ old.refs c)
    (hloose : ∀ t u, loose t u → loose' t u ∨
      ∃ c, t.owner? = some (row.table, c) ∧ u ∈ row.refs c)
    (hself : row.table.isRoot = true ∨ loose' row.table row.uuid) :
    Sound B loose' (ts.put row) := by
  have hget : ∀ {t u r}, (ts.put row t).get? u = some r →
      (t = row.table ∧ u = row.uuid ∧ r = row) ∨ (ts t).get? u = some r := by
    intro t u r hr
    rw [get?_put] at hr
    split at hr
    · rename_i htu
      cases hr
      exact .inl ⟨htu.1, htu.2, rfl⟩
    · exact .inr hr
  constructor
  · exact h.wellFormed.put hname
  · intro o k s c t hs ht u hu
    rcases hget hs with ⟨rfl, rfl, rfl⟩ | hs
    · rcases hbond c t ht u hu with ⟨r, hr, hholds⟩
      exact ⟨r, get?_put_of_new hnew hr, hholds⟩
    · rcases h.bond hs ht u hu with ⟨r, hr, hholds⟩
      exact ⟨r, get?_put_of_new hnew hr, hholds⟩
  · intro o k s c hs
    rcases hget hs with ⟨rfl, rfl, rfl⟩ | hs
    · exact hnodup c
    · exact h.nodup hs
  · intro t o c howner u k k' s s' hs hs' hu hu'
    rcases hget hs with ⟨rfl, rfl, rfl⟩ | hs
    · rcases hget hs' with ⟨_, rfl, _⟩ | hs'
      · rfl
      · exact absurd hu' (hone t c howner u hu k' s' hs')
    · rcases hget hs' with ⟨rfl, rfl, rfl⟩ | hs'
      · exact absurd hu (hone t c howner u hu' k s hs)
      · exact h.one howner hs hs' hu hu'
  · intro t o c howner u r hr hnot
    rcases hget hr with ⟨rfl, rfl, rfl⟩ | hr
    · rcases hself with hroot | hself
      · rw [Table.owner?_eq_none_iff.mpr hroot] at howner
        cases howner
      · exact absurd hself hnot
    · by_cases hl : loose t u
      · rcases hloose t u hl with hl' | ⟨c', howner', hu⟩
        · exact absurd hl' hnot
        · rw [howner] at howner'
          cases howner'
          exact ⟨row.uuid, row, get?_put_self ts row, hu⟩
      · rcases h.listed howner hr hl with ⟨k, s, hs, hu⟩
        exact ⟨k, s, get?_put_of_new hnew hs, hu⟩

/-- A new row that lists nothing. -/
theorem putBare (h : Sound B loose ts) {row : Row}
    (hnew : (ts row.table).get? row.uuid = none) (hname : ts.isNameTaken row = false)
    (hbare : ∀ c, row.refs c = []) (hloose : ∀ t u, loose t u → loose' t u)
    (hself : row.table.isRoot = true ∨ loose' row.table row.uuid) :
    Sound B loose' (ts.put row) := by
  refine h.putNew hnew hname ?_ ?_ ?_ (fun t u hl => .inl (hloose t u hl)) hself
  · intro c t _ u hu
    rw [hbare] at hu
    cases hu
  · intro c
    rw [hbare]
    exact .nil
  · intro t c _ u hu
    rw [hbare] at hu
    cases hu

/-- Another row in the place of one; neither is of a table of owners or of one with owners. -/
theorem putOld (h : Sound B loose ts) {row : Row} (hname : ts.isNameTaken row = false)
    (hroot : row.table.isRoot = true) (htarget : ∀ c : RefColumn, c.target? row.table = none)
    (hbond : ∀ o c, c.target? o.table = some row.table → B.Holds o c row) :
    Sound B loose (ts.put row) := by
  have hget : ∀ {o k s c u}, (ts.put row o).get? k = some s → u ∈ s.refs c →
      (ts o).get? k = some s := by
    intro o k s c u hs hu
    rw [get?_put] at hs
    split at hs
    · cases hs
      rw [Row.refs_eq_nil (htarget c)] at hu
      cases hu
    · exact hs
  have hkeep : ∀ {t u r}, (ts t).get? u = some r → t ≠ row.table →
      (ts.put row t).get? u = some r := by
    intro t u r hr ht
    rw [get?_put, if_neg]
    · exact hr
    · intro hfound
      rcases hfound with ⟨rfl, _⟩
      exact ht rfl
  constructor
  · exact h.wellFormed.put hname
  · intro o k s c t hs ht u hu
    rcases h.bond (hget hs hu) ht u hu with ⟨r, hr, hholds⟩
    by_cases htu : t = row.table ∧ u = row.uuid
    · refine ⟨row, ?_, hbond s c ?_⟩
      · rw [get?_put, if_pos htu]
      · rw [h.wellFormed.table_eq (hget hs hu), ht, htu.1]
    · refine ⟨r, ?_, hholds⟩
      rw [get?_put, if_neg htu]
      exact hr
  · intro o k s c hs
    rw [get?_put] at hs
    split at hs
    · cases hs
      rw [Row.refs_eq_nil (htarget c)]
      exact .nil
    · exact h.nodup hs
  · intro t o c howner u k k' s s' hs hs' hu hu'
    exact h.one howner (hget hs hu) (hget hs' hu') hu hu'
  · intro t o c howner u r hr hnot
    have ht : t ≠ row.table := by
      intro hsame
      rcases hsame with rfl
      rw [Table.owner?_eq_none_iff.mpr hroot] at howner
      cases howner
    rw [get?_put, if_neg (fun htu => ht htu.1)] at hr
    rcases h.listed howner hr hnot with ⟨k, s, hs, hu⟩
    refine ⟨k, s, hkeep hs ?_, hu⟩
    intro hsame
    rcases hsame with rfl
    have htarget' := Table.target?_of_owner? howner
    rw [htarget c] at htarget'
    cases htarget'

end Sound

theorem mem_addMissing (refs : List String) (u v : String) :
    v ∈ addMissing refs [u] ↔ v ∈ refs ∨ v = u := by
  simp only [addMissing, List.foldl_cons, List.foldl_nil]
  split
  · rename_i hu
    have hmem : u ∈ refs := by
      simpa using hu
    constructor
    · exact .inl
    · intro hcases
      rcases hcases with h | rfl
      · exact h
      · exact hmem
  · simp

theorem nodup_addMissing {refs : List String} (h : refs.Nodup) (u : String) :
    (addMissing refs [u]).Nodup := by
  simp only [addMissing, List.foldl_cons, List.foldl_nil]
  split
  · exact h
  · rename_i hu
    have hnot : u ∉ refs := by
      simpa using hu
    refine List.nodup_append.mpr ⟨h, by simp, ?_⟩
    intro v hv w hw
    rcases List.mem_singleton.mp hw with rfl
    intro hsame
    rcases hsame with rfl
    exact hnot hv

/-- One row lists one more row, and nothing else happens. -/
structure Gains (o : Table) (k : String) (c : RefColumn) (u : String) (ts us : Tables) : Prop where
  row : ∀ {t k' s}, (us t).get? k' = some s → ∃ r, (ts t).get? k' = some r ∧ r.Alike s ∧
    ∀ c', s.refs c' = r.refs c' ∨
      (t = o ∧ k' = k ∧ c' = c ∧ s.refs c' = addMissing (r.refs c') [u])
  kept : ∀ {t k' r}, (ts t).get? k' = some r → ∃ s, (us t).get? k' = some s ∧ r.Alike s ∧
    ∀ c', r.refs c' ⊆ s.refs c'
  added : ∃ s, (us o).get? k = some s ∧ u ∈ s.refs c

namespace Gains

variable {o t : Table} {k u : String} {c : RefColumn}

theorem setRow {row : Row} (hrow : (ts o).get? k = some row)
    (hcolumn : (c.target? row.table).isSome = true) :
    Gains o k c u ts (ts.setRow o k (row.mapReferences (addMissing · [u]) c)) := by
  have halike := Row.Alike.mapReferences (addMissing · [u]) c row
  constructor
  · intro t k' s hs
    rw [get?_setRow] at hs
    split at hs
    · rename_i hok
      cases hs
      rw [hok.1, hok.2]
      refine ⟨row, hrow, halike, fun c' => ?_⟩
      rw [Row.refs_mapReferences _ hcolumn]
      by_cases hc : c' = c
      · rw [if_pos hc]
        exact .inr ⟨rfl, rfl, hc, rfl⟩
      · rw [if_neg hc]
        exact .inl rfl
    · exact ⟨s, hs, .refl s, fun c' => .inl rfl⟩
  · intro t k' r hr
    rw [get?_setRow]
    split
    · rename_i hok
      rw [hok.1, hok.2, hrow] at hr
      cases hr
      refine ⟨_, rfl, halike, fun c' v hv => ?_⟩
      rw [Row.refs_mapReferences _ hcolumn]
      split
      · exact (mem_addMissing _ _ _).mpr (.inl hv)
      · exact hv
    · exact ⟨r, hr, .refl r, fun c' => List.Subset.refl _⟩
  · refine ⟨_, by rw [get?_setRow, if_pos ⟨rfl, rfl⟩], ?_⟩
    rw [Row.refs_mapReferences _ hcolumn, if_pos rfl]
    exact (mem_addMissing _ _ _).mpr (.inr rfl)

/-- A row that is listed was listed before by the same row, or has just been added to it. -/
theorem lister (h : Gains o k c u ts us) {o' : Table} {k' v : String} {s : Row} {c' : RefColumn}
    (hs : (us o').get? k' = some s) (hv : v ∈ s.refs c') :
    ∃ r, (ts o').get? k' = some r ∧ r.Alike s ∧
      (v ∈ r.refs c' ∨ (o' = o ∧ c' = c ∧ v = u ∧ k' = k)) := by
  rcases h.row hs with ⟨r, hr, halike, hrefs⟩
  refine ⟨r, hr, halike, ?_⟩
  rcases hrefs c' with hsame | ⟨ho, hk, hc, hmore⟩
  · rw [hsame] at hv
    exact .inl hv
  · rw [hmore] at hv
    rcases (mem_addMissing _ _ _).mp hv with hv | hv
    · exact .inl hv
    · exact .inr ⟨ho, hc, hv, hk⟩

end Gains

/-- One more reference; a row that gets an owner by it has no other. -/
theorem Sound.gains (h : Sound B loose ts) {o t : Table} {k u : String} {row r : Row}
    {c : RefColumn} (hgains : Gains o k c u ts us) (hrow : (ts o).get? k = some row)
    (ht : c.target? o = some t) (hr : (ts t).get? u = some r) (hholds : B.Holds row c r)
    (hone : t.owner? = some (o, c) → ∀ k' row', (ts o).get? k' = some row' → u ∈ row'.refs c →
      k' = k)
    (hloose : ∀ t' u', loose t' u' → loose' t' u' ∨ (t'.owner? = some (o, c) ∧ u' = u)) :
    Sound B loose' us := by
  constructor
  · refine h.wellFormed.of_rows fun hs => ?_
    rcases hgains.row hs with ⟨old, hold, halike, _⟩
    exact ⟨old, hold, halike.table, halike.uuid, halike.name?⟩
  · intro o' k' s c' t' hs ht' v hv
    rcases hgains.lister hs hv with ⟨old, hold, halike, hlister⟩
    have hlisted : ∃ r', (ts t').get? v = some r' ∧ B.Holds old c' r' := by
      rcases hlister with hv | ⟨rfl, rfl, rfl, rfl⟩
      · exact h.bond hold ht' v hv
      · rw [ht] at ht'
        cases ht'
        rw [hrow] at hold
        cases hold
        exact ⟨r, hr, hholds⟩
    rcases hlisted with ⟨r', hr', hholds'⟩
    rcases hgains.kept hr' with ⟨r'', hr'', halike', _⟩
    exact ⟨r'', hr'', B.alike halike halike' hholds'⟩
  · intro o' k' s c' hs
    rcases hgains.row hs with ⟨old, hold, _, hrefs⟩
    rcases hrefs c' with hsame | ⟨_, _, _, hmore⟩
    · rw [hsame]
      exact h.nodup hold
    · rw [hmore]
      exact nodup_addMissing (h.nodup hold) u
  · intro t' o' c' howner v k₁ k₂ s₁ s₂ hs₁ hs₂ hv₁ hv₂
    have htarget : o' = o → c' = c → t.owner? = some (o, c) := by
      intro hsame hsame'
      rcases hsame with rfl
      rcases hsame' with rfl
      have htt := Table.target?_of_owner? howner
      rw [ht] at htt
      cases htt
      exact howner
    rcases hgains.lister hs₁ hv₁ with ⟨old₁, hold₁, _, hv₁ | ⟨ho₁, hc₁, hu₁, hk₁⟩⟩
    · rcases hgains.lister hs₂ hv₂ with ⟨old₂, hold₂, _, hv₂ | ⟨rfl, rfl, rfl, rfl⟩⟩
      · exact h.one howner hold₁ hold₂ hv₁ hv₂
      · exact hone (htarget rfl rfl) k₁ old₁ hold₁ hv₁
    · rcases hgains.lister hs₂ hv₂ with ⟨old₂, hold₂, _, hv₂ | ⟨_, _, _, hk₂⟩⟩
      · subst ho₁ hc₁ hu₁ hk₁
        exact (hone (htarget rfl rfl) k₂ old₂ hold₂ hv₂).symm
      · rw [hk₁, hk₂]
  · intro t' o' c' howner v s hs hnot
    rcases hgains.row hs with ⟨old, hold, _, _⟩
    by_cases hl : loose t' v
    · rcases hloose t' v hl with hl' | ⟨howner', rfl⟩
      · exact absurd hl' hnot
      · rw [howner] at howner'
        cases howner'
        exact ⟨k, hgains.added⟩
    · rcases h.listed howner hold hl with ⟨k', row', hrow', hv⟩
      rcases hgains.kept hrow' with ⟨row'', hrow'', _, hsub⟩
      exact ⟨k', row'', hrow'', hsub c' hv⟩

theorem Sound.addRef (h : Sound B loose ts) {o t : Table} {k u : String} {row r : Row}
    {c : RefColumn} (hrow : (ts o).get? k = some row) (ht : c.target? o = some t)
    (hr : (ts t).get? u = some r) (hholds : B.Holds row c r)
    (hone : t.owner? = some (o, c) → ∀ k' row', (ts o).get? k' = some row' → u ∈ row'.refs c →
      k' = k)
    (hloose : ∀ t' u', loose t' u' → loose' t' u' ∨ (t'.owner? = some (o, c) ∧ u' = u)) :
    Sound B loose' (ts.setRow o k (row.mapReferences (addMissing · [u]) c)) := by
  have hcolumn : (c.target? row.table).isSome = true := by
    rw [h.wellFormed.table_eq hrow, ht]
    rfl
  exact h.gains (.setRow hrow hcolumn) hrow ht hr hholds hone hloose

end Tables
end LogicalNet
