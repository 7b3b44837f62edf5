import LogicalNet.Row.Basic

/-!
# Stores

A store keeps rows and changes them by transactions, lists of operations that
happen all together or not at all.  Reads may change the state of a store too, as
they fill a cache or open a connection.
-/

namespace LogicalNet

/-! ## Operations -/

inductive Operation where
  | insert (row : Row)
  /-- Replaces every column of the row with the same identifier. -/
  | update (row : Row)
  /-- Does nothing when there is no such row. -/
  | delete (table : Table) (lookup : Lookup)
  | addRefs (table : Table) (lookup : Lookup) (column : RefColumn) (uuids : List String)
  | removeRefs (table : Table) (lookup : Lookup) (column : RefColumn) (uuids : List String)
  /-- Sets the given keys and leaves all others as they are. -/
  | setKeys (table : Table) (lookup : Lookup) (column : MapColumn) (entries : TextMap String)
  deriving DecidableEq

namespace Operation

def table : Operation → Table
  | insert r => r.table
  | update r => r.table
  | delete t _ => t
  | addRefs t _ _ _ => t
  | removeRefs t _ _ _ => t
  | setKeys t _ _ _ => t

def lookup : Operation → Lookup
  | insert r => .uuid r.uuid
  | update r => .uuid r.uuid
  | delete _ l => l
  | addRefs _ l _ _ => l
  | removeRefs _ l _ _ => l
  | setKeys _ l _ _ => l

end Operation

/-! ## The interface of a store -/

class Store (σ : Type) where
  get : Table → Lookup → σ → Except StoreError (Option Row) × σ
  list : Table → σ → Except StoreError (List Row) × σ
  /-- The rows with the given external id. -/
  find : Table → String → String → σ → Except StoreError (List Row) × σ
  transact : List Operation → σ → Except StoreError Unit × σ
  close : σ → σ
  isConnected : σ → Bool
  kind : σ → StoreKind

end LogicalNet
