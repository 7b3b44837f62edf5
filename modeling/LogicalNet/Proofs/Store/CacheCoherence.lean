import LogicalNet.Proofs.Store.Effects
import LogicalNet.Store.Cache

/-!
# Coherence of the cache

A cache is coherent with tables if each of its entries holds a row of the tables as
it is there, under a lookup that addresses the row.  After a transaction the cache
replays the operations one by one on its entries, while the tables have made them
all; so coherence is kept from one operation to the next, each against the tables as
they are between the two.

The generation stands still only over operations that leave the kept tables alone,
which is why an answer that was read before them may still be kept.
-/

namespace LogicalNet

variable {σ : Type} {ts us : Tables}

/-! ## Coherent entries -/

structure CacheEntry.Coherent (ts : Tables) (e : CacheEntry) : Prop where
  kept : Cached.isKept e.table = true
  row : (ts e.table).get? e.row.uuid = some e.row
  addressed : e.lookup.addresses e.row = true

namespace Cached

/-- Every entry is coherent with the tables. -/
def Coherent (ts : Tables) (entries : List CacheEntry) : Prop :=
  ∀ e ∈ entries, e.Coherent ts

namespace Coherent

variable {entries : List CacheEntry}

theorem nil : Coherent ts [] := by
  intro e he
  cases he

theorem filter (h : Coherent ts entries) (p : CacheEntry → Bool) :
    Coherent ts (entries.filter p) := by
  intro e he
  exact h e (List.mem_filter.mp he).1

theorem forget (h : Coherent ts entries) (table : Table) (lookup : Lookup) :
    Coherent ts (forget table lookup entries) :=
  h.filter _

/-- A row of the tables may be kept, and the entries for what it was before do not count. -/
theorem keep {row : Row} (now : Nat) (hkept : isKept row.table = true)
    (hrow : (ts row.table).get? row.uuid = some row)
    (h : ∀ e ∈ entries, e.table ≠ row.table ∨ e.row.uuid ≠ row.uuid → e.Coherent ts) :
    Coherent ts (keep now row entries) := by
  have hself : CacheEntry.Coherent ts ⟨row.table, .uuid row.uuid, row, now⟩ :=
    ⟨hkept, hrow, by simp [Lookup.addresses]⟩
  have hothers : ∀ e ∈ entries.filter fun e => !(e.table == row.table && e.row.uuid == row.uuid),
      e.Coherent ts := by
    intro e he
    rcases List.mem_filter.mp he with ⟨hmem, hne⟩
    exact h e hmem (by simpa using hne)
  unfold Cached.keep
  cases hname : row.name? with
  | none =>
      intro e he
      rcases List.mem_cons.mp he with rfl | he
      · exact hself
      · exact hothers e (List.mem_filter.mp he).1
  | some name =>
      intro e he
      rcases List.mem_cons.mp he with rfl | he
      · exact hself
      rcases List.mem_cons.mp he with rfl | he
      · exact ⟨hkept, hrow, by simp [Lookup.addresses, hname]⟩
      · exact hothers e (List.mem_filter.mp (List.mem_filter.mp he).1).1

/-- What the look into a coherent cache gives is a row that the lookup addresses. -/
theorem look {c : Cached σ} (h : Coherent ts c.entries) {table : Table} {lookup : Lookup}
    {row : Row} (hlook : c.look table lookup = some row) :
    (ts table).get? row.uuid = some row ∧ lookup.addresses row = true := by
  unfold Cached.look at hlook
  split at hlook
  · rename_i e he
    split at hlook
    · cases hlook
      have hfor := List.find?_some he
      simp only [CacheEntry.isFor, Bool.and_eq_true, beq_iff_eq] at hfor
      have hcoherent := h e (List.mem_of_find?_eq_some he)
      rw [← hfor.1, ← hfor.2]
      exact ⟨hcoherent.row, hcoherent.addressed⟩
    · cases hlook
  · cases hlook

/-! ## One operation -/

/-- An entry stays coherent as long as its row stays as it is. -/
theorem of_row_eq (h : Coherent ts entries)
    (hrow : ∀ e ∈ entries, (us e.table).get? e.row.uuid = (ts e.table).get? e.row.uuid) :
    Coherent us entries := by
  intro e he
  have hcoherent := h e he
  exact ⟨hcoherent.kept, (hrow e he).trans hcoherent.row, hcoherent.addressed⟩

/-- What is left after forgetting a lookup is not about the row that it finds. -/
theorem ne_of_mem_forget (hts : ts.WellFormed) (h : Coherent ts entries) {table : Table}
    {lookup : Lookup} {key : String} (hkey : ts.findKey? table lookup = some key)
    {e : CacheEntry} (he : e ∈ Cached.forget table lookup entries) :
    ¬ (e.table = table ∧ e.row.uuid = key) := by
  intro hfound
  rcases hfound with ⟨htable, huuid⟩
  rcases List.mem_filter.mp he with ⟨hmem, hkeep⟩
  rcases hts.get?_of_findKey? hkey with ⟨row, hrow, haddresses⟩
  have hself := (h e hmem).row
  rw [htable, huuid, hrow] at hself
  cases hself
  simp [htable, haddresses] at hkeep

theorem put {c : Cached σ} (h : Coherent ts c.entries) (row : Row) :
    Coherent (ts.put row) (c.store row).entries := by
  have hother : ∀ e ∈ c.entries, e.table ≠ row.table ∨ e.row.uuid ≠ row.uuid →
      e.Coherent (ts.put row) := by
    intro e he hne
    have hcoherent := h e he
    refine ⟨hcoherent.kept, ?_, hcoherent.addressed⟩
    rw [Tables.get?_put, if_neg (Decidable.not_and_iff_not_or_not.mpr hne)]
    exact hcoherent.row
  unfold Cached.store
  split
  · rename_i hkept
    exact keep c.now hkept (Tables.get?_put_self ts row) hother
  · rename_i hkept
    intro e he
    refine hother e he (.inl ?_)
    intro htable
    rw [← htable] at hkept
    exact hkept (h e he).kept

theorem setRow (hts : ts.WellFormed) {c : Cached σ} (h : Coherent ts c.entries) {table : Table}
    {lookup : Lookup} {key : String} (hkey : ts.findKey? table lookup = some key) (row : Row) :
    Coherent (ts.setRow table key row) (c.invalidate table lookup).entries := by
  refine (h.forget table lookup).of_row_eq fun e he => ?_
  rw [Tables.get?_setRow, if_neg (h.ne_of_mem_forget hts hkey he)]

/-- Only rows of tables that refer to the table change when a row of it goes. -/
theorem remove (hts : ts.WellFormed) {c : Cached σ} (h : Coherent ts c.entries) {table : Table}
    {lookup : Lookup} {key : String} (hkey : ts.findKey? table lookup = some key) :
    Coherent (ts.remove table key)
      ((c.invalidate table lookup).invalidateOwners table).entries := by
  have hkeep : ∀ e ∈ (c.invalidate table lookup).entries, refersTo e.table table = false →
      e.Coherent (ts.remove table key) := by
    intro e he hrefers
    have hcoherent := h.forget table lookup e he
    refine ⟨hcoherent.kept, ?_, hcoherent.addressed⟩
    rw [Tables.get?_remove, if_neg (h.ne_of_mem_forget hts hkey he), hcoherent.row,
      Option.map_some, Tables.dropReferences_of_not_refers]
    intro column htarget
    rw [hts.table_eq hcoherent.row] at htarget
    have htrue : refersTo e.table table = true :=
      List.any_eq_true.mpr ⟨column, RefColumn.mem_all column, by simpa using htarget⟩
    rw [hrefers] at htrue
    cases htrue
  unfold invalidateOwners
  split
  · intro e he
    rcases List.mem_filter.mp he with ⟨hmem, hrefers⟩
    exact hkeep e hmem (by simpa using hrefers)
  · rename_i hnone
    intro e he
    refine hkeep e he ?_
    have hall := List.any_eq_false.mp (by simpa using hnone) e.table (Table.mem_all _)
    simpa using hall

/-- The cache that has replayed an operation is coherent with the tables after it. -/
theorem afterOperation (hts : ts.WellFormed) {c : Cached σ} (h : Coherent ts c.entries)
    {op : Operation} (hop : Tables.Effect ts op us) :
    Coherent us (c.afterOperation op).entries := by
  cases hop with
  | insert _ _ _ =>
      exact h.put _
  | update _ _ _ =>
      exact h.put _
  | delete hkey =>
      exact h.remove hts hkey
  | @deleteNone table lookup hkey =>
      have hforget := h.forget table lookup
      show Coherent ts ((c.invalidate table lookup).invalidateOwners table).entries
      unfold invalidateOwners
      split
      · exact hforget.filter _
      · exact hforget
  | addRefs _ _ hkey _ _ =>
      exact h.setRow hts hkey _
  | removeRefs _ hkey _ =>
      exact h.setRow hts hkey _
  | removeRefsNone _ _ =>
      exact h.forget _ _
  | setKeys hkey _ _ =>
      exact h.setRow hts hkey _

theorem afterTransaction (hts : ts.WellFormed) {c : Cached σ} (h : Coherent ts c.entries)
    {ops : List Operation} (hops : ts.applyAll ops = .ok us) :
    Coherent us (c.afterTransaction ops).entries := by
  induction ops generalizing ts c with
  | nil =>
      cases hops
      exact h
  | cons op rest ih =>
      rcases Tables.applyAll_cons_eq_ok_iff.mp hops with ⟨vs, hop, hrest⟩
      exact ih (hts.apply hop) (h.afterOperation hts (Tables.effect_of_apply hts hop)) hrest

end Coherent

/-! ## The generation -/

/-- The two databases have the same rows in the tables that are kept. -/
def SameKept (ts us : Tables) : Prop :=
  ∀ t, isKept t = true → us t = ts t

theorem generation_le_afterOperation (c : Cached σ) (op : Operation) :
    c.generation ≤ (c.afterOperation op).generation := by
  cases op <;> simp only [afterOperation, store, invalidate, invalidateOwners]
  all_goals repeat' split
  all_goals simp <;> omega

theorem generation_le_afterTransaction (c : Cached σ) (ops : List Operation) :
    c.generation ≤ (c.afterTransaction ops).generation := by
  induction ops generalizing c with
  | nil =>
      exact Nat.le_refl _
  | cons op rest ih =>
      exact Nat.le_trans (generation_le_afterOperation c op) (ih (c.afterOperation op))

theorem sameKept_put {c : Cached σ} {row : Row} (h : (c.store row).generation = c.generation) :
    SameKept ts (ts.put row) := by
  intro t ht
  unfold store at h
  split at h
  · simp at h
  · rename_i hkept
    unfold Tables.put
    rw [Tables.rows_setTable, if_neg]
    intro hsame
    rcases hsame with rfl
    exact hkept ht

/-- An operation that does not move the generation on writes to a table that is not kept. -/
theorem sameKept_of_generation_eq {c : Cached σ} {op : Operation}
    (hop : Tables.Effect ts op us) (h : (c.afterOperation op).generation = c.generation) :
    SameKept ts us := by
  have hinvalidate : ∀ table lookup, (c.invalidate table lookup).generation ≠ c.generation := by
    intro table lookup
    simp [invalidate]
  cases hop with
  | insert _ _ _ =>
      exact sameKept_put h
  | update _ _ _ =>
      exact sameKept_put h
  | @delete table lookup key _ =>
      have hle : (c.invalidate table lookup).generation ≤
          ((c.invalidate table lookup).invalidateOwners table).generation := by
        unfold invalidateOwners
        split <;> simp
      have hmore : c.generation < (c.invalidate table lookup).generation := by
        simp [invalidate]
      simp only [afterOperation] at h
      omega
  | deleteNone _ =>
      intro t _
      rfl
  | removeRefsNone _ _ =>
      intro t _
      rfl
  | _ =>
      exact absurd h (hinvalidate _ _)

theorem sameKept_of_afterTransaction {c : Cached σ} (hts : ts.WellFormed) {ops : List Operation}
    (hops : ts.applyAll ops = .ok us) (h : (c.afterTransaction ops).generation = c.generation) :
    SameKept ts us := by
  induction ops generalizing ts c with
  | nil =>
      cases hops
      intro t _
      rfl
  | cons op rest ih =>
      rcases Tables.applyAll_cons_eq_ok_iff.mp hops with ⟨vs, hop, hrest⟩
      have hfirst := generation_le_afterOperation c op
      have hlast := generation_le_afterTransaction (c.afterOperation op) rest
      have hall : ((c.afterOperation op).afterTransaction rest).generation = c.generation := h
      have hsame := sameKept_of_generation_eq (Tables.effect_of_apply hts hop)
        (show (c.afterOperation op).generation = c.generation by omega)
      have hsame' := ih (c := c.afterOperation op) (hts.apply hop) hrest (by omega)
      intro t ht
      exact (hsame' t ht).trans (hsame t ht)

end Cached
end LogicalNet
