import LogicalNet.Proofs.Store.CacheStaleness
import LogicalNet.Store.Metered

/-!
# Reads that the cache saves

A read that finds a row leaves it in the cache under its identifier and its name.  Other
reads add and drop entries after that.  But a read that finds another row has other keys,
a read that finds nothing was not for this row, and a write to a table that is not kept
leaves the entries alone.  So for a lifetime the row is read from the cache, and the
store behind it is not asked.

The store behind the cache need not be the one in memory, as long as it answers from
tables and makes a transaction as a whole or not at all.
-/

namespace LogicalNet

variable {σ : Type} {ts us : Tables}

/-! ## Stores that keep tables -/

/-- The store keeps its rows in tables.  A read answers from the tables or fails, and leaves them as
they are; a transaction makes all its operations or none of them. -/
structure Tabular [Store σ] (view : σ → Tables) : Prop where
  get : ∀ {table lookup s row}, (Store.get table lookup s).1 = .ok row →
    row = (view s).get? table lookup
  view_get : ∀ table lookup s, view (Store.get table lookup s).2 = view s
  view_list : ∀ table s, view (Store.list table s).2 = view s
  view_find : ∀ table key value s, view (Store.find table key value s).2 = view s
  applyAll : ∀ {ops s}, (Store.transact ops s).1 = .ok () →
    (view s).applyAll ops = .ok (view (Store.transact ops s).2)
  view_transact : ∀ {ops s e}, (Store.transact ops s).1 = .error e →
    view (Store.transact ops s).2 = view s
  view_close : ∀ s, view (Store.close s) = view s

theorem Memory.tabular : Tabular Memory.tables := by
  constructor
  case get =>
    intro table lookup m row h
    exact (Except.ok.inj h).symm
  case applyAll =>
    intro ops m h
    change (m.transact ops).1 = _ at h
    show _ = Except.ok (m.transact ops).2.tables
    unfold Memory.transact at h ⊢
    cases hops : m.tables.applyAll ops with
    | error e =>
        rw [hops] at h
        cases h
    | ok us =>
        rfl
  case view_transact =>
    intro ops m e h
    change (m.transact ops).1 = _ at h
    show (m.transact ops).2.tables = _
    unfold Memory.transact at h ⊢
    cases hops : m.tables.applyAll ops with
    | error e =>
        rfl
    | ok us =>
        rw [hops] at h
        cases h
  all_goals
    intros
    rfl

namespace Tabular

variable [Store σ] {view : σ → Tables}

/-- Counting the reads does not change what they answer. -/
theorem metered (h : Tabular view) : Tabular fun m : Metered σ => view m.inner where
  get := h.get
  view_get table lookup m := h.view_get table lookup m.inner
  view_list table m := h.view_list table m.inner
  view_find table key value m := h.view_find table key value m.inner
  applyAll := h.applyAll
  view_transact := h.view_transact
  view_close m := h.view_close m.inner

theorem wellFormed_transact (h : Tabular view) {s : σ} (hwf : (view s).WellFormed)
    (ops : List Operation) : (view (Store.transact ops s).2).WellFormed := by
  cases hanswer : (Store.transact ops s).1 with
  | error e =>
      rw [h.view_transact hanswer]
      exact hwf
  | ok done =>
      exact hwf.applyAll (h.applyAll hanswer)

end Tabular

/-! ## Calls on a cache in front of any store -/

namespace Cached

theorem inner_settle (c : Cached σ) (table : Table) (lookup : Lookup) (generation : Nat)
    (answer : Option Row) : (c.settle table lookup generation answer).inner = c.inner := by
  unfold settle
  split
  · split <;> rfl
  · rfl

theorem lifetime_settle (c : Cached σ) (table : Table) (lookup : Lookup) (generation : Nat)
    (answer : Option Row) :
    (c.settle table lookup generation answer).lifetime = c.lifetime := by
  unfold settle
  split
  · split <;> rfl
  · rfl

variable [Store σ]

/-- The cache as others find it while a read is under way: unless the cache has the row, the store
behind it has been read. -/
def whileReading (c : Cached σ) (table : Table) (lookup : Lookup) : Cached σ :=
  if isKept table = true ∧ (c.look table lookup).isSome then c
  else (c.readInner table lookup).2

theorem transact_error {c : Cached σ} {ops : List Operation} {e : StoreError}
    (h : (Store.transact ops c.inner).1 = .error e) :
    c.transact ops = (.error e, { c with inner := (Store.transact ops c.inner).2 }) := by
  simp only [Cached.transact, transactInner, h]

theorem transact_ok {c : Cached σ} {ops : List Operation}
    (h : (Store.transact ops c.inner).1 = .ok ()) : c.transact ops =
      (.ok (), afterTransaction { c with inner := (Store.transact ops c.inner).2 } ops) := by
  simp only [Cached.transact, transactInner, h]

theorem inner_transact (c : Cached σ) (ops : List Operation) :
    (c.transact ops).2.inner = (Store.transact ops c.inner).2 := by
  cases h : (Store.transact ops c.inner).1 with
  | error e =>
      rw [transact_error h]
  | ok done =>
      rw [transact_ok h, inner_afterTransaction]

theorem lifetime_transact (c : Cached σ) (ops : List Operation) :
    (c.transact ops).2.lifetime = c.lifetime := by
  cases h : (Store.transact ops c.inner).1 with
  | error e =>
      rw [transact_error h]
  | ok done =>
      rw [transact_ok h, lifetime_afterTransaction]

end Cached

namespace StoreCall

open Cached

variable [Store σ]

/-- The cache after the call. -/
def after (c : Cached σ) : StoreCall → Cached σ
  | get table lookup => (Store.get table lookup c).2
  | list table => (Store.list table c).2
  | find table key value => (Store.find table key value c).2
  | transact ops => (Store.transact ops c).2
  | advance time => c.advance time
  | close => Store.close c
  | racedGet table lookup writes =>
      match c.getAround table lookup (transactAll writes) with
      | (_, some _, c') => c'
      | (_, none, c') => (transactAll writes c').2

def afterAll (calls : List StoreCall) (c : Cached σ) : Cached σ :=
  calls.foldl after c

theorem after_eq_onCache (c : Cached Memory) (call : StoreCall) :
    after c call = (onCache c call).2 := by
  cases call with
  | racedGet table lookup writes =>
      rcases h : c.getAround table lookup (transactAll writes) with ⟨read, written, c'⟩
      cases written <;> simp only [after, onCache, h]
  | _ =>
      rfl

/-- After a raced read the writes have been made, and then an answer of the store may be settled. -/
theorem after_racedGet (c : Cached σ) (table : Table) (lookup : Lookup)
    (writes : List (List Operation)) :
    let c' := (transactAll writes (c.whileReading table lookup)).2
    after c (racedGet table lookup writes) = c' ∨
      isKept table = true ∧ ∃ answer, (Store.get table lookup c.inner).1 = .ok answer ∧
        after c (racedGet table lookup writes) =
          c'.settle table lookup c.generation answer := by
  intro c'
  by_cases hkept : isKept table = true
  · cases hlook : c.look table lookup with
    | some row =>
        left
        simp [after, getAround, c', whileReading, hkept, hlook]
    | none =>
        cases hread : (c.readInner table lookup).1 with
        | error e =>
            left
            simp [after, getAround, c', whileReading, hkept, hlook, hread]
        | ok answer =>
            refine .inr ⟨hkept, answer, hread, ?_⟩
            simp [after, getAround, c', whileReading, hkept, hlook, hread]
  · left
    simp [after, getAround, c', whileReading, hkept]

/-- A read is a raced read without writes. -/
theorem after_get (c : Cached σ) (table : Table) (lookup : Lookup) :
    after c (get table lookup) = after c (racedGet table lookup []) := by
  show (c.get table lookup).2 = _
  by_cases hkept : isKept table = true
  · cases hlook : c.look table lookup with
    | some row =>
        simp [after, getAround, Cached.get, transactAll, hkept, hlook]
    | none =>
        cases hread : (c.readInner table lookup).1 with
        | error e =>
            simp [after, getAround, Cached.get, transactAll, hkept, hlook, hread]
        | ok answer =>
            simp [after, getAround, Cached.get, transactAll, hkept, hlook, hread]
  · simp [after, getAround, Cached.get, transactAll, hkept]

theorem lifetime_transactAll (writes : List (List Operation)) (c : Cached σ) :
    (transactAll writes c).2.lifetime = c.lifetime := by
  induction writes generalizing c with
  | nil =>
      rfl
  | cons ops rest ih =>
      exact (ih (c.transact ops).2).trans (lifetime_transact c ops)

theorem lifetime_after (c : Cached σ) (call : StoreCall) :
    (after c call).lifetime = c.lifetime := by
  have hraced : ∀ table lookup writes,
      (after c (racedGet table lookup writes)).lifetime = c.lifetime := by
    intro table lookup writes
    have hbegun : (c.whileReading table lookup).lifetime = c.lifetime := by
      unfold whileReading
      split <;> rfl
    rcases after_racedGet c table lookup writes with h | ⟨_, answer, _, h⟩
    · rw [h, lifetime_transactAll, hbegun]
    · rw [h, lifetime_settle, lifetime_transactAll, hbegun]
  cases call with
  | get table lookup =>
      rw [after_get]
      exact hraced table lookup []
  | racedGet table lookup writes =>
      exact hraced table lookup writes
  | transact ops =>
      exact lifetime_transact c ops
  | _ =>
      rfl

theorem lifetime_afterAll (calls : List StoreCall) (c : Cached σ) :
    (afterAll calls c).lifetime = c.lifetime := by
  induction calls generalizing c with
  | nil =>
      rfl
  | cons call rest ih =>
      exact (ih (after c call)).trans (lifetime_after c call)

/-! ### The tables stay well-formed -/

variable {view : σ → Tables} {c : Cached σ}

theorem wellFormed_transactAll (hview : Tabular view) (writes : List (List Operation))
    (h : (view c.inner).WellFormed) : (view (transactAll writes c).2.inner).WellFormed := by
  induction writes generalizing c with
  | nil =>
      exact h
  | cons ops rest ih =>
      refine ih (c := (c.transact ops).2) ?_
      rw [inner_transact]
      exact hview.wellFormed_transact h ops

theorem view_whileReading (hview : Tabular view) (c : Cached σ) (table : Table)
    (lookup : Lookup) : view (c.whileReading table lookup).inner = view c.inner := by
  unfold whileReading
  split
  · rfl
  · exact hview.view_get table lookup c.inner

theorem wellFormed_after (hview : Tabular view) (h : (view c.inner).WellFormed)
    (call : StoreCall) : (view (after c call).inner).WellFormed := by
  have hraced : ∀ table lookup writes,
      (view (after c (racedGet table lookup writes)).inner).WellFormed := by
    intro table lookup writes
    have hbegun : (view (c.whileReading table lookup).inner).WellFormed := by
      rw [view_whileReading hview]
      exact h
    rcases after_racedGet c table lookup writes with heq | ⟨_, answer, _, heq⟩
    · rw [heq]
      exact wellFormed_transactAll hview writes hbegun
    · rw [heq, inner_settle]
      exact wellFormed_transactAll hview writes hbegun
  cases call with
  | get table lookup =>
      rw [after_get]
      exact hraced table lookup []
  | racedGet table lookup writes =>
      exact hraced table lookup writes
  | list table =>
      show (view (Store.list table c.inner).2).WellFormed
      rw [hview.view_list]
      exact h
  | find table key value =>
      show (view (Store.find table key value c.inner).2).WellFormed
      rw [hview.view_find]
      exact h
  | transact ops =>
      show (view (c.transact ops).2.inner).WellFormed
      rw [inner_transact]
      exact hview.wellFormed_transact h ops
  | advance time =>
      exact h
  | close =>
      show (view (Store.close c.inner)).WellFormed
      rw [hview.view_close]
      exact h

theorem wellFormed_afterAll (hview : Tabular view) (calls : List StoreCall)
    (h : (view c.inner).WellFormed) : (view (afterAll calls c).inner).WellFormed := by
  induction calls generalizing c with
  | nil =>
      exact h
  | cons call rest ih =>
      exact ih (wellFormed_after hview h call)

end StoreCall

/-! ## Calls that leave the rows alone -/

/-- The operation writes a whole row of a table that is not kept. -/
def Operation.passesBy : Operation → Bool
  | insert row | update row => !Cached.isKept row.table
  | _ => false

namespace Cached

theorem afterTransaction_of_passesBy {c : Cached σ} {ops : List Operation}
    (h : ∀ op ∈ ops, op.passesBy = true) : c.afterTransaction ops = c := by
  have hstore : ∀ row : Row, isKept row.table = false → c.store row = c := by
    intro row hkept
    rw [store, hkept]
    rfl
  induction ops with
  | nil =>
      rfl
  | cons op rest ih =>
      have hfirst : c.afterOperation op = c := by
        have hop := h op List.mem_cons_self
        cases op with
        | insert row =>
            exact hstore row (by simpa [Operation.passesBy] using hop)
        | update row =>
            exact hstore row (by simpa [Operation.passesBy] using hop)
        | _ =>
            cases hop
      show (c.afterOperation op).afterTransaction rest = c
      rw [hfirst]
      exact ih fun op' hop' => h op' (List.mem_cons_of_mem op hop')

variable {view : σ → Tables} {c c' c'' : Cached σ}

/-- The second cache has the entries of the first and the rows of the kept tables behind it. -/
structure Unmoved (view : σ → Tables) (c c' : Cached σ) : Prop where
  entries : c'.entries = c.entries
  now : c'.now = c.now
  wellFormed : (view c'.inner).WellFormed
  sameKept : SameKept (view c.inner) (view c'.inner)

namespace Unmoved

theorem of_view_eq (hwf : (view c.inner).WellFormed) {s : σ} (h : view s = view c.inner) :
    Unmoved view c { c with inner := s } := by
  refine ⟨rfl, rfl, ?_, ?_⟩
  · show (view s).WellFormed
    rw [h]
    exact hwf
  · intro t _
    show view s t = _
    rw [h]

theorem trans (h : Unmoved view c c') (h' : Unmoved view c' c'') : Unmoved view c c'' := by
  refine ⟨h'.entries.trans h.entries, h'.now.trans h.now, h'.wellFormed, ?_⟩
  intro t ht
  exact (h'.sameKept t ht).trans (h.sameKept t ht)

end Unmoved

variable [Store σ]

/-- The transaction fails, or writes only rows of tables that are not kept. -/
def IsHarmless (c : Cached σ) (ops : List Operation) : Prop :=
  (∃ e, (Store.transact ops c).1 = .error e) ∨ ∀ op ∈ ops, op.passesBy = true

def AreHarmless : List (List Operation) → Cached σ → Prop
  | [], _ => True
  | ops :: rest, c => c.IsHarmless ops ∧ AreHarmless rest (Store.transact ops c).2

end Cached

namespace StoreCall

variable [Store σ]

/-- The call reads, lets time pass, or makes harmless transactions. -/
def IsHarmless (c : Cached σ) : StoreCall → Prop
  | transact ops => c.IsHarmless ops
  | racedGet table lookup writes => Cached.AreHarmless writes (c.whileReading table lookup)
  | close => False
  | _ => True

def AreHarmless : List StoreCall → Cached σ → Prop
  | [], _ => True
  | call :: rest, c => call.IsHarmless c ∧ AreHarmless rest (after c call)

end StoreCall

namespace Cached.Unmoved

variable [Store σ] {view : σ → Tables} {c : Cached σ}

theorem transact (hview : Tabular view) (hwf : (view c.inner).WellFormed)
    {ops : List Operation} (h : c.IsHarmless ops) : Unmoved view c (c.transact ops).2 := by
  cases hanswer : (Store.transact ops c.inner).1 with
  | error e =>
      rw [transact_error hanswer]
      exact of_view_eq hwf (hview.view_transact hanswer)
  | ok done =>
      have hpasses : ∀ op ∈ ops, op.passesBy = true := by
        refine h.resolve_left fun hfails => ?_
        rcases hfails with ⟨e, he⟩
        change (c.transact ops).1 = _ at he
        rw [transact_ok hanswer] at he
        cases he
      have hafter : ∀ c : Cached σ, c.afterTransaction ops = c := fun c =>
        afterTransaction_of_passesBy hpasses
      have hops := hview.applyAll hanswer
      rw [transact_ok hanswer, hafter]
      refine ⟨rfl, rfl, hwf.applyAll hops, ?_⟩
      exact sameKept_of_afterTransaction (c := c) hwf hops (by rw [hafter])

theorem transactAll (hview : Tabular view) (hwf : (view c.inner).WellFormed)
    {writes : List (List Operation)} (h : AreHarmless writes c) :
    Unmoved view c (StoreCall.transactAll writes c).2 := by
  induction writes generalizing c with
  | nil =>
      exact of_view_eq hwf rfl
  | cons ops rest ih =>
      have hfirst := transact hview hwf h.1
      exact hfirst.trans (ih hfirst.wellFormed h.2)

theorem whileReading (hview : Tabular view) (hwf : (view c.inner).WellFormed) (table : Table)
    (lookup : Lookup) : Unmoved view c (c.whileReading table lookup) := by
  unfold Cached.whileReading
  split
  · exact of_view_eq hwf rfl
  · exact of_view_eq hwf (hview.view_get table lookup c.inner)

end Cached.Unmoved

/-! ## The entries of a row -/

/-- The lookup addresses the row, and no other row of its table. -/
structure Lookup.IsKey (table : Table) (row : Row) (key : Lookup) : Prop where
  addresses : key.addresses row = true
  tells : (∃ s, key = .uuid s) ∨ table.hasNameIndex = true

theorem Lookup.IsKey.uuid (table : Table) (row : Row) :
    (Lookup.uuid row.uuid).IsKey table row :=
  ⟨by simp [Lookup.addresses], .inl ⟨row.uuid, rfl⟩⟩

namespace Tables

theorem get?_congr {table : Table} (h : us table = ts table) (lookup : Lookup) :
    us.get? table lookup = ts.get? table lookup := by
  have hkey : us.findKey? table lookup = ts.findKey? table lookup := by
    cases lookup <;> simp only [findKey?, h]
  unfold get?
  rw [hkey, h]

/-- A row that the lookup addresses is there to be found. -/
theorem WellFormed.get?_ne_none (hts : ts.WellFormed) {table : Table} {lookup : Lookup}
    {row : Row} (hrow : (ts table).get? row.uuid = some row)
    (h : lookup.addresses row = true) : ts.get? table lookup ≠ none := by
  cases lookup with
  | uuid s =>
      rw [hts.get?_of_addresses hrow h (.inl ⟨s, rfl⟩)]
      exact Option.some_ne_none row
  | name s =>
      cases hfind : (ts table).values.find? (Lookup.name s).addresses with
      | none =>
          have hmem : row ∈ (ts table).values := TextMap.mem_values_iff.mpr ⟨row.uuid, hrow⟩
          exact absurd h (List.find?_eq_none.mp hfind row hmem)
      | some first =>
          rcases TextMap.mem_values_iff.mp (List.mem_of_find?_eq_some hfind) with ⟨u, hu⟩
          have hkey : ts.findKey? table (.name s) = some first.uuid := by
            rw [findKey?_name, hfind]
            rfl
          have hfirst : ts.get? table (.name s) = some first := by
            refine hts.get?_eq_some_iff.mpr ⟨hkey, ?_⟩
            rw [hts.uuid_eq hu]
            exact hu
          rw [hfirst]
          exact Option.some_ne_none first

end Tables

namespace Cached

/-- Under each of its keys the row is found, with a time that is not before the given one. -/
def HoldsEntries (table : Table) (row : Row) (since : Nat) (entries : List CacheEntry) : Prop :=
  ∀ key, key.IsKey table row → ∃ e, entries.find? (CacheEntry.isFor · table key) = some e ∧
    e.row = row ∧ since ≤ e.stored

variable {table : Table} {row : Row} {since now : Nat} {entries : List CacheEntry}

theorem addresses_of_mem_entriesFor {e : CacheEntry} (h : e ∈ entriesFor now row) :
    e.table = row.table ∧ e.lookup.addresses row = true := by
  rcases List.mem_cons.mp h with rfl | h
  · exact ⟨rfl, by simp [Lookup.addresses]⟩
  · rcases List.mem_map.mp h with ⟨name, hname, rfl⟩
    exact ⟨rfl, by simpa [Lookup.addresses] using hname⟩

theorem find?_entriesFor_eq_none {key : Lookup}
    (h : row.table = table → key.addresses row = false) :
    (entriesFor now row).find? (CacheEntry.isFor · table key) = none := by
  refine List.find?_eq_none.mpr fun e he hfor => ?_
  rcases addresses_of_mem_entriesFor he with ⟨htable, haddresses⟩
  simp only [CacheEntry.isFor, Bool.and_eq_true, beq_iff_eq] at hfor
  rw [hfor.2, h (htable.symm.trans hfor.1)] at haddresses
  cases haddresses

/-- An entry is beside a row if it is neither of the row nor under a lookup that addresses it. -/
theorem isBeside_of {e : CacheEntry} (h : e.table = row.table →
    e.row.uuid ≠ row.uuid ∧ e.lookup.addresses row = false) : isBeside row e = true := by
  by_cases htable : e.table = row.table
  · rcases h htable with ⟨huuid, hlookup⟩
    have hne : ∀ key : Lookup, key.addresses row = true → e.lookup ≠ key := by
      intro key hkey heq
      rw [heq, hkey] at hlookup
      cases hlookup
    have hkey : e.lookup ≠ .uuid row.uuid := hne _ (by simp [Lookup.addresses])
    have hname : ∀ name, row.name? = some name → e.lookup ≠ .name name := fun name hname =>
      hne _ (by simp [Lookup.addresses, hname])
    simpa [isBeside, CacheEntry.isFor, htable, huuid, hkey, Option.all_eq_true] using hname
  · simp [isBeside, CacheEntry.isFor, htable, Option.all_eq_true]

/-- A row is kept under every lookup that addresses it. -/
theorem find?_entriesFor {key : Lookup} (h : key.addresses row = true) :
    (entriesFor now row).find? (CacheEntry.isFor · row.table key) =
      some ⟨row.table, key, row, now⟩ := by
  cases key with
  | uuid s =>
      have huuid : row.uuid = s := by
        simpa [Lookup.addresses] using h
      simp [entriesFor, CacheEntry.isFor, huuid]
  | name s =>
      have hname : row.name? = some s := by
        simpa [Lookup.addresses] using h
      simp [entriesFor, CacheEntry.isFor, hname]

namespace HoldsEntries

theorem filter (h : HoldsEntries table row since entries) {p : CacheEntry → Bool}
    (hp : ∀ e, e.table = table → e.row = row → e.lookup.IsKey table row → p e = true) :
    HoldsEntries table row since (entries.filter p) := by
  intro key hkey
  rcases h key hkey with ⟨e, he, hrow, hsince⟩
  have hfor := List.find?_some he
  simp only [CacheEntry.isFor, Bool.and_eq_true, beq_iff_eq] at hfor
  have hpe := hp e hfor.1 hrow (by rw [hfor.2]; exact hkey)
  rcases List.find?_eq_some_iff_append.mp he with ⟨hfound, before, behind, rfl, hbefore⟩
  refine ⟨e, List.find?_eq_some_iff_append.mpr ⟨hfound, before.filter p, behind.filter p, ?_, ?_⟩,
    hrow, hsince⟩
  · rw [List.filter_append, List.filter_cons_of_pos hpe]
  · intro e' he'
    exact hbefore e' (List.mem_filter.mp he').1

/-- Keeping the row again renews its entries. -/
theorem keep_self (htable : row.table = table) (hsince : since ≤ now)
    (entries : List CacheEntry) : HoldsEntries table row since (keep now row entries) := by
  intro key hkey
  refine ⟨⟨table, key, row, now⟩, ?_, rfl, hsince⟩
  rw [keep_eq, List.find?_append, ← htable, find?_entriesFor hkey.addresses]
  rfl

/-- Keeping a row that no key of the row addresses leaves its entries. -/
theorem keep_other (h : HoldsEntries table row since entries) {other : Row}
    (hother : other.table = table →
      ∀ key : Lookup, key.IsKey table row → key.addresses other = false) :
    HoldsEntries table row since (keep now other entries) := by
  have hbeside : HoldsEntries table row since (entries.filter (isBeside other)) := by
    refine h.filter fun e htable hrow hkey => isBeside_of fun heq => ?_
    have hsame : other.table = table := heq.symm.trans htable
    have huuid := hother hsame (.uuid row.uuid) (.uuid table row)
    rw [Lookup.addresses, beq_eq_false_iff_ne] at huuid
    rw [hrow]
    exact ⟨huuid.symm, hother hsame e.lookup hkey⟩
  intro key hkey
  rcases hbeside key hkey with ⟨e, he, hrow, hsince⟩
  refine ⟨e, ?_, hrow, hsince⟩
  rw [keep_eq, List.find?_append, find?_entriesFor_eq_none, Option.none_or]
  · exact he
  · exact fun hsame => hother hsame key hkey

/-- Forgetting a lookup leaves the entries of a row that it does not address. -/
theorem forget (h : HoldsEntries table row since entries) {t : Table} {lookup : Lookup}
    (hlookup : t = table → lookup.addresses row = false) :
    HoldsEntries table row since (forget t lookup entries) := by
  refine h.filter fun e htable hrow hkey => ?_
  by_cases ht : t = table
  · have hne : e.lookup ≠ lookup := by
      intro heq
      have haddresses := hkey.addresses
      rw [heq, hlookup ht] at haddresses
      cases haddresses
    simp [hrow, hlookup ht, hne]
  · have hne : e.table ≠ t := by
      rw [htable]
      exact fun heq => ht heq.symm
    simp [hne]

end HoldsEntries

/-! ## A row that is read from the cache -/

/-- The row stands in its table, and the cache has had it since the given time. -/
structure Holds (view : σ → Tables) (table : Table) (row : Row) (since : Nat) (c : Cached σ) :
    Prop where
  kept : isKept table = true
  wellFormed : (view c.inner).WellFormed
  stored : (view c.inner table).get? row.uuid = some row
  since_le : since ≤ c.now
  entries : HoldsEntries table row since c.entries

namespace Holds

variable {view : σ → Tables} {c c' : Cached σ}

theorem unmoved (h : Holds view table row since c) (hc : Unmoved view c c') :
    Holds view table row since c' := by
  constructor
  · exact h.kept
  · exact hc.wellFormed
  · rw [hc.sameKept table h.kept]
    exact h.stored
  · rw [hc.now]
    exact h.since_le
  · rw [hc.entries]
    exact h.entries

/-- No answer of the store drops the row or puts another one in its place. -/
theorem settle (h : Holds view table row since c) (t : Table) (lookup : Lookup)
    (generation : Nat) :
    Holds view table row since
      (c.settle t lookup generation ((view c.inner).get? t lookup)) := by
  cases hanswer : (view c.inner).get? t lookup with
  | none =>
      refine ⟨h.kept, h.wellFormed, h.stored, h.since_le, h.entries.forget fun hsame => ?_⟩
      subst hsame
      refine Bool.eq_false_iff.mpr fun haddresses => ?_
      exact h.wellFormed.get?_ne_none h.stored haddresses hanswer
  | some other =>
      by_cases hgeneration : c.generation = generation
      · have hother := (h.wellFormed.get?_eq_some_iff.mp hanswer).2
        have htable := h.wellFormed.table_eq hother
        have hentries : HoldsEntries table row since (keep c.now other c.entries) := by
          by_cases hsame : other = row
          · rw [hsame]
            exact .keep_self (h.wellFormed.table_eq h.stored) h.since_le c.entries
          · refine h.entries.keep_other fun heq key hkey => ?_
            refine Bool.eq_false_iff.mpr fun haddresses => hsame ?_
            have ht : t = table := htable.symm.trans heq
            subst ht
            have hfound := h.wellFormed.get?_of_addresses hother haddresses hkey.tells
            rw [h.wellFormed.get?_of_addresses h.stored hkey.addresses hkey.tells] at hfound
            exact (Option.some.inj hfound).symm
        rw [Cached.settle, if_pos hgeneration]
        exact ⟨h.kept, h.wellFormed, h.stored, h.since_le, hentries⟩
      · rw [Cached.settle, if_neg hgeneration]
        exact h

/-- The row is found under each of its keys until its entries run out. -/
theorem look_eq (h : Holds view table row since c) (hage : c.now < since + c.lifetime)
    {key : Lookup} (hkey : key.IsKey table row) : c.look table key = some row := by
  rcases h.entries key hkey with ⟨e, he, hrow, hsince⟩
  have hyoung : c.now - e.stored < c.lifetime := by
    have := h.since_le
    omega
  rw [look, he]
  simp only [hyoung, if_true, hrow]

variable [Store σ]

/-- The row is kept by the read that finds it in the store behind the cache. -/
theorem of_read (hview : Tabular view) (hwf : (view c.inner).WellFormed)
    (hkept : isKept table = true) {lookup : Lookup} (hmiss : c.look table lookup = none)
    (hfound : (c.get table lookup).1 = .ok (some row)) :
    Holds view table row c.now (c.get table lookup).2 := by
  cases hread : (Store.get table lookup c.inner).1 with
  | error e =>
      simp [Cached.get, hkept, hmiss, readInner, hread] at hfound
  | ok answer =>
      simp only [Cached.get, hkept, hmiss, readInner, hread, if_true, Except.ok.injEq] at hfound ⊢
      subst hfound
      have hview' := hview.view_get table lookup c.inner
      have hget := hview.get hread
      have hrow := (hwf.get?_eq_some_iff.mp hget.symm).2
      have htable := hwf.table_eq hrow
      rw [Cached.settle, if_pos rfl]
      refine ⟨hkept, ?_, ?_, Nat.le_refl _, .keep_self htable (Nat.le_refl _) c.entries⟩
      · show (view (Store.get table lookup c.inner).2).WellFormed
        rw [hview']
        exact hwf
      · show (view (Store.get table lookup c.inner).2 table).get? row.uuid = some row
        rw [hview']
        exact hrow

/-- A harmless call leaves the row in the cache, wherever its parts meet other calls. -/
theorem after (hview : Tabular view) (h : Holds view table row since c) {call : StoreCall}
    (hcall : call.IsHarmless c) : Holds view table row since (call.after c) := by
  have hraced : ∀ t lookup writes, AreHarmless writes (c.whileReading t lookup) →
      Holds view table row since (StoreCall.after c (.racedGet t lookup writes)) := by
    intro t lookup writes hwrites
    have hbegun := Unmoved.whileReading hview h.wellFormed t lookup
    have hunmoved := hbegun.trans (.transactAll hview hbegun.wellFormed hwrites)
    rcases StoreCall.after_racedGet c t lookup writes with heq | ⟨ht, answer, hanswer, heq⟩
    · rw [heq]
      exact h.unmoved hunmoved
    · rw [heq, hview.get hanswer, ← Tables.get?_congr (hunmoved.sameKept t ht)]
      exact (h.unmoved hunmoved).settle t lookup c.generation
  cases call with
  | get t lookup =>
      rw [StoreCall.after_get]
      exact hraced t lookup [] trivial
  | racedGet t lookup writes =>
      exact hraced t lookup writes hcall
  | list t =>
      exact h.unmoved (.of_view_eq h.wellFormed (hview.view_list t c.inner))
  | find t key value =>
      exact h.unmoved (.of_view_eq h.wellFormed (hview.view_find t key value c.inner))
  | transact ops =>
      exact h.unmoved (.transact hview h.wellFormed hcall)
  | advance time =>
      exact ⟨h.kept, h.wellFormed, h.stored, Nat.le_add_right_of_le h.since_le, h.entries⟩
  | close =>
      cases hcall

theorem afterAll (hview : Tabular view) (h : Holds view table row since c)
    {calls : List StoreCall} (hcalls : StoreCall.AreHarmless calls c) :
    Holds view table row since (StoreCall.afterAll calls c) := by
  induction calls generalizing c with
  | nil =>
      exact h
  | cons call rest ih =>
      exact ih (h.after hview hcalls.1) hcalls.2

end Holds

/-! ## The reads that are saved -/

variable [Store σ]

/-- A read that reaches the store behind the cache has not found the row before. -/
theorem look_eq_none_of_gets_ne {c : Cached (Metered σ)} {table : Table}
    (hkept : isKept table = true) {lookup : Lookup}
    (h : (c.get table lookup).2.inner.gets ≠ c.inner.gets) : c.look table lookup = none := by
  cases hlook : c.look table lookup with
  | none =>
      rfl
  | some row =>
      rw [Cached.get, if_pos hkept, hlook] at h
      exact absurd rfl h

/-- A row was found by a read in a table that is kept, and the store behind the cache was asked for
it.  As long as it is less than a lifetime ago, and since then there were only harmless calls, the
row is answered under each of its keys, and the store behind the cache, which counts the reads that
reach it, stays as it is. -/
theorem saves_reads {view : σ → Tables} (hview : Tabular view) {start : σ}
    (hstart : (view start).WellFormed) (lifetime : Nat) (past between : List StoreCall)
    {table : Table} (lookup : Lookup) {row : Row} {key : Lookup}
    (hkept : isKept table = true) (hkey : key.IsKey table row) :
    let c := StoreCall.afterAll past (Cached.new (Metered.mk start 0) lifetime)
    let read := Store.get table lookup c
    let c' := StoreCall.afterAll between read.2
    read.1 = .ok (some row) → read.2.inner.gets ≠ c.inner.gets →
    StoreCall.AreHarmless between read.2 → c'.now < c.now + lifetime →
      Store.get table key c' = (.ok (some row), c') := by
  intro c read c' hfound hread hbetween hage
  have hwf : (view c.inner.inner).WellFormed :=
    StoreCall.wellFormed_afterAll hview.metered past hstart
  have hlifetime : c'.lifetime = lifetime := by
    have hread : read.2.lifetime = c.lifetime :=
      StoreCall.lifetime_after c (.get table lookup)
    rw [StoreCall.lifetime_afterAll, hread, StoreCall.lifetime_afterAll]
    rfl
  have hholds : Holds (fun m : Metered σ => view m.inner) table row c.now c' :=
    (Holds.of_read hview.metered hwf hkept (look_eq_none_of_gets_ne hkept hread) hfound).afterAll
      hview.metered hbetween
  have hlook := hholds.look_eq (by rw [hlifetime]; exact hage) hkey
  show c'.get table key = _
  rw [Cached.get, if_pos hkept, hlook]

/-- A switch is read by its name; then another is read, one is looked for in vain, a second switch
of the name is refused, and a port group is written.  Just before a lifetime has passed, the switch
is still read from the cache by its identifier. -/
theorem saves_reads_otherSwitch :
    let web : Row := .switch { uuid := "1", name := "web" }
    let app : Row := .switch { uuid := "2", name := "app" }
    let past : List StoreCall := [.transact [.insert web, .insert app], .advance 1000]
    let between : List StoreCall :=
      [.get .switch (.name "app"), .get .switch (.name "db"),
        .transact [.insert (.switch { uuid := "3", name := "web" })],
        .transact [.insert (.portGroup { uuid := "4", name := "pg" })], .advance 999]
    let c := StoreCall.afterAll past (Cached.new (Metered.mk Memory.empty 0) 1000)
    let read := Store.get .switch (.name "web") c
    let c' := StoreCall.afterAll between read.2
    (read.1 = .ok (some web) ∧ c.inner.gets = 0 ∧ read.2.inner.gets = 1) ∧
      (StoreCall.AreHarmless between read.2 ∧ c'.now = c.now + 999 ∧ c'.inner.gets = 3) ∧
        Store.get .switch (.uuid "1") c' = (.ok (some web), c') := by
  intro web app past between c read c'
  have hfound : read.1 = .ok (some web) :=
    Outcome.eq_ok_of_toOption (by decide +kernel)
  have hbefore : c.inner.gets = 0 := by
    decide +kernel
  have hgets : read.2.inner.gets = 1 := by
    decide +kernel
  have hharmless : StoreCall.AreHarmless between read.2 := by
    refine ⟨trivial, trivial, .inl ?_, .inr ?_, trivial, trivial⟩
    · exact Outcome.exists_eq_error_of_toOption (by decide +kernel)
    · decide
  have hnow : c'.now = c.now + 999 := by
    decide +kernel
  refine ⟨⟨hfound, hbefore, hgets⟩, ⟨hharmless, hnow, by decide +kernel⟩, ?_⟩
  refine saves_reads Memory.tabular .empty 1000 past between (.name "web") rfl
    (.uuid .switch web) hfound ?_ hharmless ?_
  · rw [hgets, hbefore]
    decide
  · refine Nat.lt_of_le_of_lt (Nat.le_of_eq hnow) ?_
    exact Nat.add_lt_add_left (by decide) c.now

end Cached
end LogicalNet
