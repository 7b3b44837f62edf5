import LogicalNet.Store.Basic

/-!
# The cache

A store that answers reads by key from memory for a time.  Only the tables that
are read most are kept, and a row is kept under its identifier and under its name.
A transaction that succeeds changes or drops the entries of the rows it touches;
what happens behind the cache shows once an entry has run out.

A read that misses has three parts: the look into the cache, the read of the store
behind it, and the settling of the answer.  The answer is kept only if no write has
come in between, which the generation tells: every write moves it on.
-/

namespace LogicalNet

structure CacheEntry where
  table : Table
  lookup : Lookup
  row : Row
  /-- The time at which the row was stored. -/
  stored : Nat
  deriving DecidableEq

def CacheEntry.isFor (e : CacheEntry) (table : Table) (lookup : Lookup) : Bool :=
  e.table == table && e.lookup == lookup

/-- A store behind a cache; times are in milliseconds. -/
structure Cached (σ : Type) where
  inner : σ
  lifetime : Nat
  now : Nat
  entries : List CacheEntry
  generation : Nat

namespace Cached

variable {σ : Type}

def new (inner : σ) (lifetime : Nat) : Cached σ where
  inner := inner
  lifetime := lifetime
  now := 0
  entries := []
  generation := 0

/-- The tables whose rows are kept. -/
def isKept : Table → Bool
  | .switch | .switchPort | .router | .acl => true
  | _ => false

def advance (c : Cached σ) (time : Nat) : Cached σ :=
  { c with now := c.now + time }

/-! ## Entries -/

/-- The entries with the row under its identifier and its name, and no other entry for it. -/
def keep (now : Nat) (row : Row) (entries : List CacheEntry) : List CacheEntry :=
  let others := entries.filter fun e => !(e.table == row.table && e.row.uuid == row.uuid)
  let byUuid := CacheEntry.mk row.table (.uuid row.uuid) row now
  match row.name? with
  | none => byUuid :: others.filter (!CacheEntry.isFor · row.table (.uuid row.uuid))
  | some name =>
      byUuid :: CacheEntry.mk row.table (.name name) row now ::
        (others.filter (!CacheEntry.isFor · row.table (.uuid row.uuid))).filter
          (!CacheEntry.isFor · row.table (.name name))

/-- The entries without those under the lookup and those of rows that it addresses. -/
def forget (table : Table) (lookup : Lookup) (entries : List CacheEntry) : List CacheEntry :=
  entries.filter fun e => e.table != table || (e.lookup != lookup && !lookup.addresses e.row)

/-! ## The parts of a read -/

/-- The row under the lookup, if its entry has not run out. -/
def look (c : Cached σ) (table : Table) (lookup : Lookup) : Option Row :=
  match c.entries.find? (CacheEntry.isFor · table lookup) with
  | some e => if c.now - e.stored < c.lifetime then some e.row else none
  | none => none

/-- Keeps the answer to a read that began in the given generation. -/
def settle (c : Cached σ) (table : Table) (lookup : Lookup) (generation : Nat) :
    Option Row → Cached σ
  | some row =>
      if c.generation = generation then { c with entries := keep c.now row c.entries } else c
  | none => { c with entries := forget table lookup c.entries }

/-! ## After a transaction -/

def store (c : Cached σ) (row : Row) : Cached σ :=
  if isKept row.table then
    { c with entries := keep c.now row c.entries, generation := c.generation + 1 }
  else
    c

def invalidate (c : Cached σ) (table : Table) (lookup : Lookup) : Cached σ :=
  { c with entries := forget table lookup c.entries, generation := c.generation + 1 }

/-- Whether rows of the first table have a column of references to the second. -/
def refersTo (owner target : Table) : Bool :=
  RefColumn.all.any fun c => c.target? owner == some target

/-- Deleting a row changes the rows that refer to it. -/
def invalidateOwners (c : Cached σ) (target : Table) : Cached σ :=
  if Table.all.any (refersTo · target) then
    { c with
      entries := c.entries.filter fun e => !refersTo e.table target
      generation := c.generation + 1 }
  else
    c

def afterOperation (c : Cached σ) : Operation → Cached σ
  | .insert row => c.store row
  | .update row => c.store row
  | .delete table lookup => (c.invalidate table lookup).invalidateOwners table
  | .addRefs table lookup _ _ => c.invalidate table lookup
  | .removeRefs table lookup _ _ => c.invalidate table lookup
  | .setKeys table lookup _ _ => c.invalidate table lookup

def afterTransaction (c : Cached σ) (operations : List Operation) : Cached σ :=
  operations.foldl afterOperation c

/-! ## The store -/

variable [Store σ]

/-- A read of the store behind the cache. -/
def readInner (c : Cached σ) (table : Table) (lookup : Lookup) :
    Except StoreError (Option Row) × Cached σ :=
  let read := Store.get table lookup c.inner
  (read.1, { c with inner := read.2 })

def get (c : Cached σ) (table : Table) (lookup : Lookup) :
    Except StoreError (Option Row) × Cached σ :=
  if isKept table then
    match c.look table lookup with
    | some row => (.ok (some row), c)
    | none =>
        let read := c.readInner table lookup
        match read.1 with
        | .error e => (.error e, read.2)
        | .ok row => (.ok row, read.2.settle table lookup c.generation row)
  else
    c.readInner table lookup

/-- A read with something else between the read of the store and the settling of its answer; when
the cache holds the row there is no such place. -/
def getAround {β : Type} (c : Cached σ) (table : Table) (lookup : Lookup)
    (between : Cached σ → β × Cached σ) :
    Except StoreError (Option Row) × Option β × Cached σ :=
  if isKept table then
    match c.look table lookup with
    | some row => (.ok (some row), none, c)
    | none =>
        let read := c.readInner table lookup
        let other := between read.2
        match read.1 with
        | .error e => (.error e, some other.1, other.2)
        | .ok row => (.ok row, some other.1, other.2.settle table lookup c.generation row)
  else
    let read := c.readInner table lookup
    let other := between read.2
    (read.1, some other.1, other.2)

theorem getAround_unit (c : Cached σ) (table : Table) (lookup : Lookup) :
    (c.getAround table lookup fun c => ((), c)).1 = (c.get table lookup).1 ∧
      (c.getAround table lookup fun c => ((), c)).2.2 = (c.get table lookup).2 := by
  unfold getAround get
  split
  · cases c.look table lookup with
    | some row =>
        exact ⟨rfl, rfl⟩
    | none =>
        cases h : (c.readInner table lookup).1 with
        | error e =>
            simp [h]
        | ok row =>
            simp [h]
  · exact ⟨rfl, rfl⟩

/-- The transaction in the store behind the cache, the first part of a write. -/
def transactInner (c : Cached σ) (operations : List Operation) :
    Except StoreError Unit × Cached σ :=
  let written := Store.transact operations c.inner
  (written.1, { c with inner := written.2 })

def transact (c : Cached σ) (operations : List Operation) : Except StoreError Unit × Cached σ :=
  let written := c.transactInner operations
  match written.1 with
  | .error e => (.error e, written.2)
  | .ok () => (.ok (), written.2.afterTransaction operations)

instance : Store (Cached σ) where
  get table lookup c := c.get table lookup
  list table c :=
    let read := Store.list table c.inner
    (read.1, { c with inner := read.2 })
  find table key value c :=
    let read := Store.find table key value c.inner
    (read.1, { c with inner := read.2 })
  transact operations c := c.transact operations
  close c := { c with entries := [], inner := Store.close c.inner }
  isConnected c := Store.isConnected c.inner
  kind c := Store.kind c.inner

end Cached
end LogicalNet
