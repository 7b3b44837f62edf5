import LogicalNet.Proofs.Store.CacheCoherence

/-!
# The cache does not show

The same calls are made on a store in memory and on a cache in front of one.  As
long as no write passes the cache by, they answer alike and leave the same rows
behind, whatever the lifetime of the entries and wherever a write comes in between
the two parts of a read.  The one exception is a read by name in a table without a
name index, where the cache may hold another row of the name.
-/

namespace LogicalNet

/-! ## Calls -/

/-- What a client does with a store, and the passing of time. -/
inductive StoreCall where
  | get (table : Table) (lookup : Lookup)
  | list (table : Table)
  | find (table : Table) (key value : String)
  | transact (operations : List Operation)
  | advance (time : Nat)
  | close
  /-- A read with writes of others between its two parts. -/
  | racedGet (table : Table) (lookup : Lookup) (writes : List (List Operation))

structure StoreAnswer where
  row : Option (Except StoreError (Option Row)) := none
  rows : Option (Except StoreError (List Row)) := none
  writes : List (Except StoreError Unit) := []

namespace StoreCall

/-- The row that is read is told by the lookup. -/
def IsExact : StoreCall → Prop
  | get table lookup => (∃ s, lookup = .uuid s) ∨ table.hasNameIndex = true
  | racedGet table lookup _ => (∃ s, lookup = .uuid s) ∨ table.hasNameIndex = true
  | _ => True

/-- The transactions one after the other, whether they succeed or fail. -/
def transactAll {σ : Type} [Store σ] : List (List Operation) → σ →
    List (Except StoreError Unit) × σ
  | [], s => ([], s)
  | ops :: rest, s =>
      let first := Store.transact ops s
      let others := transactAll rest first.2
      (first.1 :: others.1, others.2)

/-- The call on a store without a cache, where the writes come after the read. -/
def onMemory (m : Memory) : StoreCall → StoreAnswer × Memory
  | get table lookup =>
      let read := Store.get table lookup m
      ({ row := some read.1 }, read.2)
  | list table =>
      let read := Store.list table m
      ({ rows := some read.1 }, read.2)
  | find table key value =>
      let read := Store.find table key value m
      ({ rows := some read.1 }, read.2)
  | transact ops =>
      let written := Store.transact ops m
      ({ writes := [written.1] }, written.2)
  | advance _ => ({}, m)
  | close => ({}, Store.close m)
  | racedGet table lookup writes =>
      let read := Store.get table lookup m
      let written := transactAll writes read.2
      ({ row := some read.1, writes := written.1 }, written.2)

/-- The call on a cache.  A read that is answered from the cache leaves no room for the writes, and
they come after it. -/
def onCache (c : Cached Memory) : StoreCall → StoreAnswer × Cached Memory
  | get table lookup =>
      let read := Store.get table lookup c
      ({ row := some read.1 }, read.2)
  | list table =>
      let read := Store.list table c
      ({ rows := some read.1 }, read.2)
  | find table key value =>
      let read := Store.find table key value c
      ({ rows := some read.1 }, read.2)
  | transact ops =>
      let written := Store.transact ops c
      ({ writes := [written.1] }, written.2)
  | advance time => ({}, c.advance time)
  | close => ({}, Store.close c)
  | racedGet table lookup writes =>
      match c.getAround table lookup (transactAll writes) with
      | (read, some written, c') => ({ row := some read, writes := written }, c')
      | (read, none, c') =>
          let written := transactAll writes c'
          ({ row := some read, writes := written.1 }, written.2)

/-- The store after the calls. -/
def runMemory (calls : List StoreCall) (m : Memory) : Memory :=
  calls.foldl (fun m call => (onMemory m call).2) m

def runCache (calls : List StoreCall) (c : Cached Memory) : Cached Memory :=
  calls.foldl (fun c call => (onCache c call).2) c

end StoreCall

/-! ## One call -/

namespace Cached

/-- What holds of a cache that all writes go through. -/
structure Sound (c : Cached Memory) : Prop where
  wellFormed : c.inner.tables.WellFormed
  coherent : Coherent c.inner.tables c.entries

namespace Sound

variable {c : Cached Memory}

theorem new (lifetime : Nat) : Sound (Cached.new Memory.empty lifetime) :=
  ⟨.empty, .nil⟩

end Sound

/-- What writes through the cache do to it. -/
structure Follows (c c' : Cached Memory) : Prop where
  sound : Sound c'
  generation_le : c.generation ≤ c'.generation
  sameKept : c'.generation = c.generation → SameKept c.inner.tables c'.inner.tables

namespace Follows

variable {c c' c'' : Cached Memory}

theorem refl (h : Sound c) : Follows c c :=
  ⟨h, Nat.le_refl _, fun _ _ _ => rfl⟩

theorem trans (h : Follows c c') (h' : Follows c' c'') : Follows c c'' := by
  have hle := h.generation_le
  have hle' := h'.generation_le
  refine ⟨h'.sound, Nat.le_trans hle hle', fun heq t ht => ?_⟩
  have hsame := h.sameKept (by omega) t ht
  have hsame' := h'.sameKept (by omega) t ht
  exact hsame'.trans hsame

end Follows

theorem inner_afterOperation {σ : Type} (c : Cached σ) (op : Operation) :
    (c.afterOperation op).inner = c.inner := by
  cases op <;> simp only [afterOperation, store, invalidate, invalidateOwners] <;>
    (repeat' split) <;> rfl

theorem inner_afterTransaction {σ : Type} (c : Cached σ) (ops : List Operation) :
    (c.afterTransaction ops).inner = c.inner := by
  induction ops generalizing c with
  | nil =>
      rfl
  | cons op rest ih =>
      exact (ih (c.afterOperation op)).trans (inner_afterOperation c op)

namespace Sound

variable {c : Cached Memory}

/-- A transaction on the cache is the one on the store behind it. -/
theorem transact (h : Sound c) (ops : List Operation) :
    (c.transact ops).1 = (c.inner.transact ops).1 ∧
      (c.transact ops).2.inner = (c.inner.transact ops).2 ∧ Follows c (c.transact ops).2 := by
  cases hops : c.inner.tables.applyAll ops with
  | error e =>
      have hinner : c.inner.transact ops = (.error e, c.inner) := by
        rw [Memory.transact, hops]
      have hcache : c.transact ops = (.error e, c) := by
        unfold Cached.transact Cached.transactInner
        simp only [Store.transact, hinner]
      rw [hinner, hcache]
      exact ⟨rfl, rfl, .refl h⟩
  | ok us =>
      have hinner : c.inner.transact ops = (.ok (), { c.inner with tables := us }) := by
        rw [Memory.transact, hops]
      have hcache : c.transact ops = (.ok (),
          Cached.afterTransaction { c with inner := { c.inner with tables := us } } ops) := by
        unfold Cached.transact Cached.transactInner
        simp only [Store.transact, hinner]
      rw [hinner, hcache]
      have hinner' := inner_afterTransaction { c with inner := { c.inner with tables := us } } ops
      have hcoherent := h.coherent.afterTransaction
        (c := { c with inner := { c.inner with tables := us } }) h.wellFormed hops
      refine ⟨rfl, hinner', ⟨?_, ?_⟩, ?_, ?_⟩
      · rw [hinner']
        exact h.wellFormed.applyAll hops
      · rw [hinner']
        exact hcoherent
      · exact generation_le_afterTransaction { c with inner := { c.inner with tables := us } } ops
      · intro heq
        rw [hinner']
        exact sameKept_of_afterTransaction
          (c := { c with inner := { c.inner with tables := us } }) h.wellFormed hops heq

theorem transactAll (h : Sound c) (writes : List (List Operation)) :
    (StoreCall.transactAll writes c).1 = (StoreCall.transactAll writes c.inner).1 ∧
      (StoreCall.transactAll writes c).2.inner = (StoreCall.transactAll writes c.inner).2 ∧
      Follows c (StoreCall.transactAll writes c).2 := by
  induction writes generalizing c with
  | nil =>
      exact ⟨rfl, rfl, .refl h⟩
  | cons ops rest ih =>
      rcases h.transact ops with ⟨hanswer, hinner, hfollows⟩
      rcases ih hfollows.sound with ⟨hanswers, hinners, hfollows'⟩
      rw [hinner] at hanswers hinners
      refine ⟨?_, hinners, hfollows.trans hfollows'⟩
      show (c.transact ops).1 :: (StoreCall.transactAll rest (c.transact ops).2).1 =
        (c.inner.transact ops).1 ::
          (StoreCall.transactAll rest (c.inner.transact ops).2).1
      rw [hanswer, hanswers]

/-- An answer may be kept if the generation is still that of the read. -/
theorem settle {c' : Cached Memory} (h : Sound c) (hfollows : Follows c c') {table : Table}
    (hkept : isKept table = true) (lookup : Lookup) :
    Sound (c'.settle table lookup c.generation (c.inner.tables.get? table lookup)) ∧
      (c'.settle table lookup c.generation (c.inner.tables.get? table lookup)).inner =
        c'.inner := by
  have hsound := hfollows.sound
  cases hrow : c.inner.tables.get? table lookup with
  | none =>
      exact ⟨⟨hsound.wellFormed, hsound.coherent.forget table lookup⟩, rfl⟩
  | some row =>
      have hget := (h.wellFormed.get?_eq_some_iff.mp hrow).2
      have htable := h.wellFormed.table_eq hget
      by_cases hgeneration : c'.generation = c.generation
      · rw [Cached.settle, if_pos hgeneration]
        have hsame := hfollows.sameKept hgeneration table hkept
        refine ⟨⟨hsound.wellFormed, ?_⟩, rfl⟩
        refine Coherent.keep c'.now ?_ ?_ fun e he _ => hsound.coherent e he
        · rw [htable]
          exact hkept
        · rw [htable, hsame]
          exact hget
      · rw [Cached.settle, if_neg hgeneration]
        exact ⟨hsound, rfl⟩

/-- What is found in the cache is what the store behind it would give. -/
theorem look_eq (h : Sound c) {table : Table} {lookup : Lookup} {row : Row}
    (hlook : c.look table lookup = some row)
    (hexact : (∃ s, lookup = .uuid s) ∨ table.hasNameIndex = true) :
    c.inner.tables.get? table lookup = some row := by
  rcases h.coherent.look hlook with ⟨hget, haddresses⟩
  exact h.wellFormed.get?_of_addresses hget haddresses hexact

theorem get (h : Sound c) (table : Table) (lookup : Lookup) :
    Sound (c.get table lookup).2 ∧ (c.get table lookup).2.inner = c.inner ∧
      ((∃ s, lookup = .uuid s) ∨ table.hasNameIndex = true →
        (c.get table lookup).1 = .ok (c.inner.tables.get? table lookup)) := by
  unfold Cached.get
  split
  · rename_i hkept
    cases hlook : c.look table lookup with
    | some row =>
        refine ⟨h, rfl, fun hexact => ?_⟩
        rw [h.look_eq hlook hexact]
    | none =>
        have hsettle := h.settle (.refl h) hkept lookup
        exact ⟨hsettle.1, hsettle.2, fun _ => rfl⟩
  · exact ⟨h, rfl, fun _ => rfl⟩

/-- A read with writes in between is answered from the cache, without the writes, or from the store
as it was before the writes. -/
theorem getAround (h : Sound c) (table : Table) (lookup : Lookup)
    (writes : List (List Operation)) :
    (∃ row, c.getAround table lookup (StoreCall.transactAll writes) = (.ok (some row), none, c) ∧
      ((∃ s, lookup = .uuid s) ∨ table.hasNameIndex = true →
        c.inner.tables.get? table lookup = some row)) ∨
    (∃ c', c.getAround table lookup (StoreCall.transactAll writes) =
        (.ok (c.inner.tables.get? table lookup), some (StoreCall.transactAll writes c).1, c') ∧
      Sound c' ∧ c'.inner = (StoreCall.transactAll writes c).2.inner) := by
  have hfollows := (h.transactAll writes).2.2
  unfold Cached.getAround
  split
  · rename_i hkept
    cases hlook : c.look table lookup with
    | some row =>
        exact .inl ⟨row, rfl, h.look_eq hlook⟩
    | none =>
        have hsettle := h.settle hfollows hkept lookup
        exact .inr ⟨_, rfl, hsettle⟩
  · exact .inr ⟨_, rfl, hfollows.sound, rfl⟩

end Sound
end Cached

/-! ## Runs -/

namespace StoreCall

variable {c : Cached Memory}

/-- The two stores before a call and after it, and what they answer. -/
theorem onCache_onMemory (h : c.Sound) (call : StoreCall) :
    (onCache c call).2.Sound ∧ (onCache c call).2.inner = (onMemory c.inner call).2 ∧
      (onCache c call).1.rows = (onMemory c.inner call).1.rows ∧
      (onCache c call).1.writes = (onMemory c.inner call).1.writes ∧
      (call.IsExact → (onCache c call).1.row = (onMemory c.inner call).1.row) := by
  cases call with
  | get table lookup =>
      rcases h.get table lookup with ⟨hsound, hinner, hrow⟩
      refine ⟨hsound, hinner, rfl, rfl, fun hexact => ?_⟩
      exact congrArg some (hrow hexact)
  | list table =>
      exact ⟨h, rfl, rfl, rfl, fun _ => rfl⟩
  | find table key value =>
      exact ⟨h, rfl, rfl, rfl, fun _ => rfl⟩
  | transact ops =>
      rcases h.transact ops with ⟨hanswer, hinner, hfollows⟩
      exact ⟨hfollows.sound, hinner, rfl, congrArg (fun a => [a]) hanswer, fun _ => rfl⟩
  | advance time =>
      exact ⟨⟨h.wellFormed, h.coherent⟩, rfl, rfl, rfl, fun _ => rfl⟩
  | close =>
      exact ⟨⟨h.wellFormed, .nil⟩, rfl, rfl, rfl, fun _ => rfl⟩
  | racedGet table lookup writes =>
      rcases h.transactAll writes with ⟨hanswers, hinner, hfollows⟩
      rcases h.getAround table lookup writes with ⟨row, hget, hrow⟩ | ⟨c', hget, hsound, hinner'⟩
      · simp only [onCache, hget]
        refine ⟨hfollows.sound, hinner, rfl, hanswers, fun hexact => ?_⟩
        exact congrArg (fun r => some (Except.ok r)) (hrow hexact).symm
      · simp only [onCache, hget]
        exact ⟨hsound, hinner'.trans hinner, rfl, hanswers, fun _ => rfl⟩

theorem runCache_runMemory (h : c.Sound) (calls : List StoreCall) :
    (runCache calls c).Sound ∧ (runCache calls c).inner = runMemory calls c.inner := by
  induction calls generalizing c with
  | nil =>
      exact ⟨h, rfl⟩
  | cons call rest ih =>
      rcases onCache_onMemory h call with ⟨hsound, hinner, _⟩
      rcases ih hsound with ⟨hsound', hinner'⟩
      refine ⟨hsound', hinner'.trans ?_⟩
      rw [hinner]
      rfl

end StoreCall

/-- After any calls the store behind the cache is the store that was given the same calls, and the
next call is answered alike by both. -/
theorem Cached.transparent (lifetime : Nat) (calls : List StoreCall) (call : StoreCall) :
    let c := StoreCall.runCache calls (Cached.new Memory.empty lifetime)
    let m := StoreCall.runMemory calls Memory.empty
    c.inner = m ∧
      (StoreCall.onCache c call).1.rows = (StoreCall.onMemory m call).1.rows ∧
      (StoreCall.onCache c call).1.writes = (StoreCall.onMemory m call).1.writes ∧
      (call.IsExact → (StoreCall.onCache c call).1.row = (StoreCall.onMemory m call).1.row) := by
  rcases StoreCall.runCache_runMemory (Cached.Sound.new lifetime) calls with ⟨hsound, hinner⟩
  have hcall := (StoreCall.onCache_onMemory hsound call).2.2
  rw [hinner] at hcall
  exact ⟨hinner, hcall⟩

/-- A switch that is renamed while it is read is not found by its old name afterwards. -/
theorem Cached.transparent_renamed :
    let old : Row := .switch { uuid := "1", name := "a" }
    let new : Row := .switch { uuid := "1", name := "b" }
    let calls : List StoreCall :=
      [.transact [.insert old], .racedGet .switch (.name "a") [[.update new]]]
    let call : StoreCall := .get .switch (.name "a")
    (StoreCall.onCache (StoreCall.runCache calls (Cached.new Memory.empty 1000)) call).1.row =
        (StoreCall.onMemory (StoreCall.runMemory calls Memory.empty) call).1.row ∧
      (StoreCall.onMemory (StoreCall.runMemory calls Memory.empty) call).1.row =
        some (.ok none) := by
  intro old new calls call
  let tables := (StoreCall.runMemory calls Memory.empty).tables
  have hgone : (tables.get? .switch (.name "a")).isNone := by
    decide +kernel
  constructor
  · exact (Cached.transparent 1000 calls call).2.2.2 (.inr rfl)
  · exact congrArg (fun row => some (Except.ok row)) (Option.isNone_iff_eq_none.mp hgone)

end LogicalNet
