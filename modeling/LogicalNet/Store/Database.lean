import LogicalNet.Command.Session
import LogicalNet.Store.Cache
import LogicalNet.Store.Memory

/-!
# Opening a database

The store that the settings ask for: the database that answers at the address or,
if the settings allow for it, a simulation in its place, with a cache in front or
without one.
-/

namespace LogicalNet

inductive Database (ω : Type) where
  | memory (store : Memory)
  | remote (session : Session ω)

namespace Database

variable {ω : Type} [Link ω]

instance : Store (Database ω) where
  get table lookup
    | memory m => let r := Store.get table lookup m; (r.1, memory r.2)
    | remote s => let r := Store.get table lookup s; (r.1, remote r.2)
  list table
    | memory m => let r := Store.list table m; (r.1, memory r.2)
    | remote s => let r := Store.list table s; (r.1, remote r.2)
  find table key value
    | memory m => let r := Store.find table key value m; (r.1, memory r.2)
    | remote s => let r := Store.find table key value s; (r.1, remote r.2)
  transact operations
    | memory m => let r := Store.transact operations m; (r.1, memory r.2)
    | remote s => let r := Store.transact operations s; (r.1, remote r.2)
  close
    | memory m => memory (Store.close m)
    | remote s => remote (Store.close s)
  isConnected
    | memory m => Store.isConnected m
    | remote s => Store.isConnected s
  kind
    | memory m => Store.kind m
    | remote s => Store.kind s

/-- One attempt to connect; the simulation stands in after a failure if the settings say so. -/
def connect (settings : Settings) (link : ω) : Except StoreError (Database ω) :=
  match (Session.connect settings link).1 with
  | .ok s => .ok (remote s)
  | .error e => if settings.fallBack then .ok (memory .empty) else .error e

end Database

/-! ## With or without a cache -/

inductive Layer (σ : Type) where
  | direct (inner : σ)
  | cached (cache : Cached σ)

namespace Layer

variable {σ τ : Type}

def inner : Layer σ → σ
  | direct s => s
  | cached c => c.inner

def mapInner (f : σ → τ) : Layer σ → Layer τ
  | direct s => direct (f s)
  | cached c => cached {
      inner := f c.inner
      lifetime := c.lifetime
      now := c.now
      entries := c.entries
      generation := c.generation }

instance [Store σ] : Store (Layer σ) where
  get table lookup
    | direct s => let r := Store.get table lookup s; (r.1, direct r.2)
    | cached c => let r := Store.get table lookup c; (r.1, cached r.2)
  list table
    | direct s => let r := Store.list table s; (r.1, direct r.2)
    | cached c => let r := Store.list table c; (r.1, cached r.2)
  find table key value
    | direct s => let r := Store.find table key value s; (r.1, direct r.2)
    | cached c => let r := Store.find table key value c; (r.1, cached r.2)
  transact operations
    | direct s => let r := Store.transact operations s; (r.1, direct r.2)
    | cached c => let r := Store.transact operations c; (r.1, cached r.2)
  close
    | direct s => direct (Store.close s)
    | cached c => cached (Store.close c)
  isConnected
    | direct s => Store.isConnected s
    | cached c => Store.isConnected c
  kind
    | direct s => Store.kind s
    | cached c => Store.kind c

/-- A cache in front of the store if the settings ask for one. -/
def ofSettings (settings : Settings) (inner : σ) : Layer σ :=
  if settings.cacheEnabled then cached (Cached.new inner (settings.cacheLifetime.toNat * 1000))
  else direct inner

end Layer

/-- The store that the settings ask for. -/
def Database.ofSettings {ω : Type} [Link ω] (settings : Settings) (link : ω) :
    Except StoreError (Layer (Database ω)) :=
  (Database.connect settings link).map (Layer.ofSettings settings)

end LogicalNet
