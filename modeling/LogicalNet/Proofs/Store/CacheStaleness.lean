import Mathlib.Data.List.Induction
import LogicalNet.Proofs.Store.Representation

/-!
# How old an answer of the cache may be

Writes may pass the cache by here, and then its entries do not hold any more.  Still
every entry was right at the time that it bears: the row was then found under the
lookup of the entry.  A transaction through the cache adds such entries, although what
the cache holds of other rows may be wrong by then, since the replay of an operation
looks at one entry at a time.

So an answer from the cache is one that the store behind it would have given less than
a lifetime ago.
-/

namespace LogicalNet

variable {σ : Type} {ts us : Tables}

/-! ## The replay of one operation -/

namespace Cached

/-- The entries for the row, under its identifier and its name. -/
def entriesFor (now : Nat) (row : Row) : List CacheEntry :=
  ⟨row.table, .uuid row.uuid, row, now⟩ ::
    row.name?.toList.map fun name => ⟨row.table, .name name, row, now⟩

/-- Whether an entry is neither for the row nor under one of its keys. -/
def isBeside (row : Row) (e : CacheEntry) : Bool :=
  !(e.table == row.table && e.row.uuid == row.uuid) && !e.isFor row.table (.uuid row.uuid) &&
    row.name?.all fun name => !e.isFor row.table (.name name)

/-- Whether the lookup neither is that of the entry nor addresses its row. -/
def isOutside (table : Table) (lookup : Lookup) (e : CacheEntry) : Bool :=
  e.table != table || (e.lookup != lookup && !lookup.addresses e.row)

/-- The entries that an operation adds. -/
def added (now : Nat) : Operation → List CacheEntry
  | .insert row | .update row => if isKept row.table then entriesFor now row else []
  | _ => []

/-- Whether an operation leaves an entry, which goes by the entry alone. -/
def survives : Operation → CacheEntry → Bool
  | .insert row | .update row => fun e => !isKept row.table || isBeside row e
  | .delete table lookup => fun e => isOutside table lookup e && !refersTo e.table table
  | .addRefs table lookup _ _ | .removeRefs table lookup _ _ | .setKeys table lookup _ _ =>
      isOutside table lookup

theorem keep_eq (now : Nat) (row : Row) (entries : List CacheEntry) :
    keep now row entries = entriesFor now row ++ entries.filter (isBeside row) := by
  have hcomm : ∀ (p q : CacheEntry → Bool) (es : List CacheEntry),
      (es.filter p).filter q = es.filter fun e => p e && q e := by
    intro p q es
    rw [List.filter_filter]
    exact List.filter_congr fun e _ => Bool.and_comm _ _
  unfold keep entriesFor isBeside
  cases row.name? with
  | none =>
      simp [hcomm]
  | some name =>
      simp [hcomm]

theorem entries_store (c : Cached σ) (row : Row) :
    (c.store row).entries = (if isKept row.table then entriesFor c.now row else []) ++
      c.entries.filter fun e => !isKept row.table || isBeside row e := by
  unfold store
  cases hkept : isKept row.table with
  | true =>
      simp [keep_eq]
  | false =>
      exact (List.filter_eq_self.mpr fun e _ => rfl).symm

theorem entries_invalidateOwners (c : Cached σ) (target : Table) :
    (c.invalidateOwners target).entries = c.entries.filter fun e => !refersTo e.table target := by
  unfold invalidateOwners
  split
  · rfl
  · rename_i hnone
    refine (List.filter_eq_self.mpr fun e _ => ?_).symm
    have hall := List.any_eq_false.mp (by simpa using hnone) e.table (Table.mem_all _)
    simpa using hall

/-- An operation drops entries, each for what it is, and adds entries for the row that it writes. -/
theorem entries_afterOperation (c : Cached σ) (op : Operation) :
    (c.afterOperation op).entries = added c.now op ++ c.entries.filter (survives op) := by
  cases op with
  | insert row =>
      exact entries_store c row
  | update row =>
      exact entries_store c row
  | delete table lookup =>
      show ((c.invalidate table lookup).invalidateOwners table).entries = _
      rw [entries_invalidateOwners, invalidate, forget, List.filter_filter]
      exact List.filter_congr fun e _ => Bool.and_comm _ _
  | addRefs table lookup column uuids =>
      rfl
  | removeRefs table lookup column uuids =>
      rfl
  | setKeys table lookup column entries =>
      rfl

theorem now_afterOperation (c : Cached σ) (op : Operation) : (c.afterOperation op).now = c.now := by
  cases op <;> simp only [afterOperation, store, invalidate, invalidateOwners] <;>
    (repeat' split) <;> rfl

theorem lifetime_afterOperation (c : Cached σ) (op : Operation) :
    (c.afterOperation op).lifetime = c.lifetime := by
  cases op <;> simp only [afterOperation, store, invalidate, invalidateOwners] <;>
    (repeat' split) <;> rfl

theorem now_afterTransaction (c : Cached σ) (ops : List Operation) :
    (c.afterTransaction ops).now = c.now := by
  induction ops generalizing c with
  | nil =>
      rfl
  | cons op rest ih =>
      exact (ih (c.afterOperation op)).trans (now_afterOperation c op)

theorem lifetime_afterTransaction (c : Cached σ) (ops : List Operation) :
    (c.afterTransaction ops).lifetime = c.lifetime := by
  induction ops generalizing c with
  | nil =>
      rfl
  | cons op rest ih =>
      exact (ih (c.afterOperation op)).trans (lifetime_afterOperation c op)

/-- What the look into a cache gives is from an entry under the lookup that has not run out. -/
theorem exists_mem_of_look {c : Cached σ} {table : Table} {lookup : Lookup} {row : Row}
    (h : c.look table lookup = some row) : ∃ e ∈ c.entries, e.table = table ∧ e.lookup = lookup ∧
      e.row = row ∧ c.now - e.stored < c.lifetime := by
  unfold look at h
  split at h
  · rename_i e he
    split at h
    · rename_i hage
      have hfor := List.find?_some he
      simp only [CacheEntry.isFor, Bool.and_eq_true, beq_iff_eq] at hfor
      exact ⟨e, List.mem_of_find?_eq_some he, hfor.1, hfor.2, Option.some.inj h, hage⟩
    · cases h
  · cases h

theorem stored_of_mem_entriesFor {now : Nat} {row : Row} {e : CacheEntry}
    (h : e ∈ entriesFor now row) : e.stored = now := by
  rcases List.mem_cons.mp h with rfl | h
  · rfl
  · rcases List.mem_map.mp h with ⟨name, _, rfl⟩
    rfl

theorem stored_of_mem_added {now : Nat} {op : Operation} {e : CacheEntry}
    (h : e ∈ added now op) : e.stored = now := by
  unfold added at h
  split at h
  · split at h
    · exact stored_of_mem_entriesFor h
    · cases h
  · split at h
    · exact stored_of_mem_entriesFor h
    · cases h
  · cases h

/-! ## Entries one by one

Coherence of a whole cache is kept by every operation.  As the replay looks at one
entry at a time, a cache with no other entry tells what becomes of it.
-/

namespace Coherent

variable {c : Cached σ} {op : Operation} {e : CacheEntry}

theorem of_mem_added (hts : ts.WellFormed) (hop : Tables.Effect ts op us) {now : Nat}
    (h : e ∈ added now op) : e.Coherent us := by
  have hempty : Coherent ts (Cached.mk () 0 now [] 0).entries := .nil
  refine hempty.afterOperation hts hop e ?_
  rw [entries_afterOperation]
  exact List.mem_append_left _ h

theorem of_survives (hts : ts.WellFormed) (hop : Tables.Effect ts op us)
    (hcoherent : e.Coherent ts) (h : survives op e = true) : e.Coherent us := by
  have hsingle : Coherent ts (Cached.mk () 0 0 [e] 0).entries := by
    intro e' he'
    rw [List.mem_singleton.mp he']
    exact hcoherent
  refine hsingle.afterOperation hts hop e ?_
  rw [entries_afterOperation]
  exact List.mem_append_right _ (List.mem_filter.mpr ⟨by simp, h⟩)

end Coherent

/-- The entry is right about the tables at the given time, which it bears. -/
structure Fresh (ts : Tables) (now : Nat) (e : CacheEntry) : Prop where
  stored : e.stored = now
  coherent : e.Coherent ts

theorem fresh_of_mem_afterOperation (hts : ts.WellFormed) {c : Cached σ} {op : Operation}
    (hop : Tables.Effect ts op us) {e : CacheEntry} (h : e ∈ (c.afterOperation op).entries)
    (hold : e ∈ c.entries → Fresh ts c.now e) : Fresh us c.now e := by
  rw [entries_afterOperation] at h
  rcases List.mem_append.mp h with hadded | hsurvives
  · exact ⟨stored_of_mem_added hadded, Coherent.of_mem_added hts hop hadded⟩
  · rcases List.mem_filter.mp hsurvives with ⟨hmem, hsurvives⟩
    have hfresh := hold hmem
    exact ⟨hfresh.stored, Coherent.of_survives hts hop hfresh.coherent hsurvives⟩

/-- The entries that a transaction leaves are those from before it, and ones that are right about
the tables after it. -/
theorem old_or_fresh_of_afterTransaction (hts : ts.WellFormed) {c : Cached σ}
    {ops : List Operation} (hops : ts.applyAll ops = .ok us) {old : CacheEntry → Prop}
    (h : ∀ e ∈ c.entries, old e ∨ Fresh ts c.now e) :
    ∀ e ∈ (c.afterTransaction ops).entries, old e ∨ Fresh us c.now e := by
  induction ops generalizing ts c with
  | nil =>
      cases hops
      exact h
  | cons op rest ih =>
      rcases Tables.applyAll_cons_eq_ok_iff.mp hops with ⟨vs, hop, hrest⟩
      have hstep : ∀ e ∈ (c.afterOperation op).entries,
          old e ∨ Fresh vs (c.afterOperation op).now e := by
        intro e he
        rw [now_afterOperation]
        by_cases hold : old e
        · exact .inl hold
        · refine .inr (fresh_of_mem_afterOperation hts (Tables.effect_of_apply hts hop) he ?_)
          intro hmem
          exact (h e hmem).resolve_left hold
      have hlast := ih (hts.apply hop) hrest hstep
      rw [now_afterOperation] at hlast
      exact hlast

end Cached

/-! ## Steps -/

/-- What happens to a cache and to the store behind it, each as a whole. -/
inductive CacheStep where
  | get (table : Table) (lookup : Lookup)
  | transact (operations : List Operation)
  /-- A transaction that passes the cache by. -/
  | transactBehind (operations : List Operation)
  | advance (time : Nat)
  | close

namespace CacheStep

open Cached

def perform (c : Cached Memory) : CacheStep → Cached Memory
  | get table lookup => (Store.get table lookup c).2
  | transact ops => (Store.transact ops c).2
  | transactBehind ops => { c with inner := (Store.transact ops c.inner).2 }
  | advance time => c.advance time
  | close => Store.close c

/-- The cache after the steps, which begin with an empty cache in front of an empty store. -/
def history (lifetime : Nat) (steps : List CacheStep) : Cached Memory :=
  steps.foldl perform (Cached.new Memory.empty lifetime)

theorem history_append_singleton (lifetime : Nat) (past : List CacheStep) (step : CacheStep) :
    history lifetime (past ++ [step]) = perform (history lifetime past) step := by
  simp [history]

/-! ### One step -/

variable {c : Cached Memory}

/-- A cache in front of a store in memory before a step and after it. -/
structure Progress (c c' : Cached Memory) : Prop where
  lifetime : c'.lifetime = c.lifetime
  now_le : c.now ≤ c'.now
  wellFormed : c'.inner.tables.WellFormed
  entries : ∀ e ∈ c'.entries, e ∈ c.entries ∨ Fresh c'.inner.tables c'.now e

theorem progress_of_subset {c' : Cached Memory} (hlifetime : c'.lifetime = c.lifetime)
    (hnow : c.now ≤ c'.now) (hwf : c'.inner.tables.WellFormed)
    (h : ∀ e ∈ c'.entries, e ∈ c.entries) : Progress c c' :=
  ⟨hlifetime, hnow, hwf, fun e he => .inl (h e he)⟩

/-- An answer of the store is kept with the time of the read. -/
theorem progress_settle (hwf : c.inner.tables.WellFormed) {table : Table}
    (hkept : isKept table = true) (lookup : Lookup) :
    Progress c (c.settle table lookup c.generation (c.inner.tables.get? table lookup)) := by
  cases hrow : c.inner.tables.get? table lookup with
  | none =>
      refine progress_of_subset rfl (Nat.le_refl _) hwf fun e he => ?_
      exact (List.mem_filter.mp he).1
  | some row =>
      have hget := (hwf.get?_eq_some_iff.mp hrow).2
      have htable := hwf.table_eq hget
      rw [Cached.settle, if_pos rfl]
      refine ⟨rfl, Nat.le_refl _, hwf, fun e he => ?_⟩
      have hmem : e ∈ keep c.now row c.entries := he
      rw [keep_eq] at hmem
      rcases List.mem_append.mp hmem with hown | hother
      · refine .inr ⟨stored_of_mem_entriesFor hown, ?_⟩
        have hcoherent : Coherent c.inner.tables (keep c.now row []) := by
          refine Coherent.keep c.now ?_ ?_ (by simp)
          · rw [htable]
            exact hkept
          · rw [htable]
            exact hget
        refine hcoherent e ?_
        rw [keep_eq]
        exact List.mem_append_left _ hown
      · exact .inl (List.mem_filter.mp hother).1

theorem progress_get (hwf : c.inner.tables.WellFormed) (table : Table) (lookup : Lookup) :
    Progress c (c.get table lookup).2 := by
  have hsame : Progress c c := progress_of_subset rfl (Nat.le_refl _) hwf fun _ he => he
  unfold Cached.get
  split
  · rename_i hkept
    cases c.look table lookup with
    | some row =>
        exact hsame
    | none =>
        exact progress_settle hwf hkept lookup
  · exact hsame

theorem progress_transact (hwf : c.inner.tables.WellFormed) (ops : List Operation) :
    Progress c (c.transact ops).2 := by
  cases hops : c.inner.tables.applyAll ops with
  | error e =>
      have hcache : (c.transact ops).2 = c := by
        simp [Cached.transact, transactInner, Store.transact, Memory.transact, hops]
      rw [hcache]
      exact progress_of_subset rfl (Nat.le_refl _) hwf fun _ he => he
  | ok us =>
      let after : Cached Memory := { c with inner := { c.inner with tables := us } }
      have hcache : (c.transact ops).2 = after.afterTransaction ops := by
        simp [Cached.transact, transactInner, Store.transact, Memory.transact, hops, after]
      have hinner : (after.afterTransaction ops).inner.tables = us := by
        rw [inner_afterTransaction]
      have hentries : ∀ e ∈ (after.afterTransaction ops).entries,
          e ∈ c.entries ∨ Fresh us after.now e :=
        old_or_fresh_of_afterTransaction hwf hops fun e he => .inl he
      rw [hcache]
      refine ⟨?_, ?_, ?_, ?_⟩
      · rw [lifetime_afterTransaction]
      · refine Nat.le_of_eq ?_
        rw [now_afterTransaction]
      · rw [hinner]
        exact hwf.applyAll hops
      · rw [hinner, now_afterTransaction]
        exact hentries

theorem progress_perform (hwf : c.inner.tables.WellFormed) (step : CacheStep) :
    Progress c (perform c step) := by
  cases step with
  | get table lookup =>
      exact progress_get hwf table lookup
  | transact ops =>
      exact progress_transact hwf ops
  | transactBehind ops =>
      exact progress_of_subset rfl (Nat.le_refl _) (Memory.wellFormed_transact hwf ops)
        fun _ he => he
  | advance time =>
      exact progress_of_subset rfl (Nat.le_add_right _ _) hwf fun _ he => he
  | close =>
      refine progress_of_subset rfl (Nat.le_refl _) hwf fun e he => ?_
      cases he

/-! ### Runs -/

/-- Every entry was right about the store after one of the steps, at the time that it bears. -/
structure Justified (lifetime : Nat) (steps : List CacheStep) (c : Cached Memory) : Prop where
  lifetime_eq : c.lifetime = lifetime
  wellFormed : c.inner.tables.WellFormed
  entries : ∀ e ∈ c.entries, ∃ earlier later, steps = earlier ++ later ∧ earlier ≠ [] ∧
    (history lifetime earlier).now ≤ c.now ∧
    (history lifetime earlier).inner.tables.WellFormed ∧
    Fresh (history lifetime earlier).inner.tables (history lifetime earlier).now e

theorem justified_history (lifetime : Nat) (steps : List CacheStep) :
    Justified lifetime steps (history lifetime steps) := by
  induction steps using List.reverseRecOn with
  | nil =>
      refine ⟨rfl, .empty, fun e he => ?_⟩
      cases he
  | append_singleton past step ih =>
      have hprogress := progress_perform ih.wellFormed step
      rw [← history_append_singleton] at hprogress
      refine ⟨hprogress.lifetime.trans ih.lifetime_eq, hprogress.wellFormed, fun e he => ?_⟩
      rcases hprogress.entries e he with hold | hfresh
      · rcases ih.entries e hold with ⟨earlier, later, rfl, hne, hle, hwf, hfresh⟩
        refine ⟨earlier, later ++ [step], by simp, hne, ?_, hwf, hfresh⟩
        exact Nat.le_trans hle hprogress.now_le
      · exact ⟨past ++ [step], [], by simp, by simp, Nat.le_refl _, hprogress.wellFormed, hfresh⟩

end CacheStep

namespace Cached

/-- After any steps a read by identifier, or by name in a table with a name index, gives what the
store behind the cache would give now, or would have given for the same lookup after an earlier
step, at a time less than a lifetime ago. -/
theorem bounded_staleness (lifetime : Nat) (steps : List CacheStep) (table : Table)
    (lookup : Lookup) (hexact : (∃ s, lookup = .uuid s) ∨ table.hasNameIndex = true) :
    let c := CacheStep.history lifetime steps
    (Store.get table lookup c).1 = (Store.get table lookup c.inner).1 ∨
      ∃ earlier later, steps = earlier ++ later ∧ earlier ≠ [] ∧
        let past := CacheStep.history lifetime earlier
        past.now ≤ c.now ∧ c.now < past.now + lifetime ∧
          (Store.get table lookup c).1 = (Store.get table lookup past.inner).1 := by
  intro c
  have hc : CacheStep.Justified lifetime steps c := CacheStep.justified_history lifetime steps
  show (c.get table lookup).1 = _ ∨ ∃ earlier later, _ ∧ _ ∧ _ ∧ _ ∧ (c.get table lookup).1 = _
  unfold Cached.get
  split
  · cases hlook : c.look table lookup with
    | none =>
        exact .inl rfl
    | some row =>
        rcases exists_mem_of_look hlook with ⟨e, he, rfl, rfl, rfl, hage⟩
        rcases hc.entries e he with ⟨earlier, later, hsteps, hne, hle, hwf, hfresh⟩
        have hget := hwf.get?_of_addresses hfresh.coherent.row hfresh.coherent.addressed hexact
        have hstored := hfresh.stored
        rw [hc.lifetime_eq] at hage
        refine .inr ⟨earlier, later, hsteps, hne, hle, by omega, ?_⟩
        exact congrArg Except.ok hget.symm
  · exact .inl rfl

/-- A switch that was renamed behind the cache is still found by its old name, as it was a moment
before the entry runs out. -/
theorem bounded_staleness_renamed :
    let old : Row := .switch { uuid := "1", name := "a" }
    let new : Row := .switch { uuid := "1", name := "b" }
    let steps : List CacheStep :=
      [.transact [.insert old], .transactBehind [.update new], .advance 999]
    let c := CacheStep.history 1000 steps
    (Store.get .switch (.name "a") c).1 ≠ (Store.get .switch (.name "a") c.inner).1 ∧
      ∃ earlier later, steps = earlier ++ later ∧ earlier ≠ [] ∧
        let past := CacheStep.history 1000 earlier
        past.now ≤ c.now ∧ c.now < past.now + 1000 ∧
          (Store.get .switch (.name "a") c).1 = (Store.get .switch (.name "a") past.inner).1 := by
  intro old new steps c
  have hlook : c.look .switch (.name "a") = some old := by
    decide +kernel
  have hgone : c.inner.tables.get? .switch (.name "a") = none := by
    decide +kernel
  have hcached : (Store.get .switch (.name "a") c).1 = .ok (some old) := by
    show (c.get .switch (.name "a")).1 = _
    rw [Cached.get, if_pos (show isKept .switch = true from rfl), hlook]
  have hinner : (Store.get .switch (.name "a") c.inner).1 = .ok none :=
    congrArg Except.ok hgone
  have hne : (Store.get .switch (.name "a") c).1 ≠ (Store.get .switch (.name "a") c.inner).1 := by
    rw [hcached, hinner]
    intro h
    cases h
  exact ⟨hne, (bounded_staleness 1000 steps .switch (.name "a") (.inr rfl)).resolve_left hne⟩

end Cached
end LogicalNet
