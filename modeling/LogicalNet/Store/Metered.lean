import LogicalNet.Store.Basic

/-!
# Counting reads

A store that counts the reads by key that reach it.
-/

namespace LogicalNet

structure Metered (σ : Type) where
  inner : σ
  gets : Nat

namespace Metered

variable {σ : Type} [Store σ]

instance : Store (Metered σ) where
  get table lookup m :=
    let read := Store.get table lookup m.inner
    (read.1, ⟨read.2, m.gets + 1⟩)
  list table m :=
    let read := Store.list table m.inner
    (read.1, { m with inner := read.2 })
  find table key value m :=
    let read := Store.find table key value m.inner
    (read.1, { m with inner := read.2 })
  transact operations m :=
    let written := Store.transact operations m.inner
    (written.1, { m with inner := written.2 })
  close m := { m with inner := Store.close m.inner }
  isConnected m := Store.isConnected m.inner
  kind m := Store.kind m.inner

end Metered
end LogicalNet
