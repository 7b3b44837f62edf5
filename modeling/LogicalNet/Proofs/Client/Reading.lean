import LogicalNet.Proofs.Client.Success
import LogicalNet.Proofs.Store.Representation

/-!
# Reading what is stored

What a read of a store in memory gives goes by how the rows are stored.  A row is
found by its identifier and, where names tell the rows apart, by its name.  The reads
of rows of one kind find nothing but rows of that kind, after any transactions.
-/

namespace LogicalNet

/-! ## Reads of one kind of rows -/

namespace Plan

variable {ρ : Type} [RowType ρ] [ReadableRowType ρ] {ι : Type} [IdSource ι] {m : Memory}

theorem exists_run_fetch (hm : m.tables.WellFormed) (lookup : Lookup) (ids : ι) :
    ∃ found, ((fetch ρ lookup).run m ids).1 = .ok found :=
  (Total.fetch hm lookup).exists_run ids

/-- A row that has to be there is missing, or it is read. -/
theorem eq_notFound_of_run_require (hm : m.tables.WellFormed) (lookup : Lookup) (ids : ι)
    {e : StoreError} (h : ((require ρ lookup).run m ids).1 = .error e) :
    e = .notFound (RowType.table ρ) lookup.text := by
  rcases exists_run_fetch (ρ := ρ) hm lookup ids with ⟨found, hfound⟩
  rw [require, run_bind, hfound] at h
  cases found with
  | none =>
      cases h
      rfl
  | some r =>
      cases h

theorem eq_parentNotFound_of_run_requireParent (hm : m.tables.WellFormed) (parent child : String)
    (ids : ι) {e : StoreError} (h : ((requireParent ρ parent child).run m ids).1 = .error e) :
    e = .parentNotFound child parent := by
  rcases exists_run_fetch (ρ := ρ) hm (.name parent) ids with ⟨found, hfound⟩
  rw [requireParent, run_bind, hfound] at h
  cases found with
  | none =>
      cases h
      rfl
  | some r =>
      cases h

/-- The reads of the rows of one kind on the store, and the only errors that they end with. -/
structure ReadsKind (ρ : Type) [RowType ρ] {ι : Type} [IdSource ι] (m : Memory) (ids : ι) :
    Prop where
  fetch : ∀ lookup, ∃ found, ((fetch ρ lookup).run m ids).1 = .ok found
  require : ∀ lookup e, ((require ρ lookup).run m ids).1 = .error e →
    e = .notFound (RowType.table ρ) lookup.text
  requireParent : ∀ parent child e, ((requireParent ρ parent child).run m ids).1 = .error e →
    e = .parentNotFound child parent
  listAll : ∃ rows, ((listAll ρ).run m ids).1 = .ok rows
  findAll : ∀ key value, ∃ rows, ((findAll ρ key value).run m ids).1 = .ok rows

theorem readsKind (ρ : Type) [RowType ρ] [ReadableRowType ρ] (hm : m.tables.WellFormed)
    (ids : ι) : ReadsKind ρ m ids where
  fetch lookup := exists_run_fetch hm lookup ids
  require lookup _ h := eq_notFound_of_run_require hm lookup ids h
  requireParent parent child _ h := eq_parentNotFound_of_run_requireParent hm parent child ids h
  listAll := (Total.listAll hm).exists_run ids
  findAll key value := (Total.findAll hm key value).exists_run ids

end Plan

/-! ## After any transactions -/

namespace Memory

/-- How the rows of a store stand in it, and what reads of them give. -/
structure Represented (m : Memory) : Prop where
  placed : ∀ {t u r}, (m.tables t).get? u = some r → r.table = t ∧ r.uuid = u
  valid : ∀ {t u r}, (m.tables t).get? u = some r → r.Valid
  unique : ∀ {t u v r s}, t.hasNameIndex = true → (m.tables t).get? u = some r →
    (m.tables t).get? v = some s → r.name? = s.name? → u = v
  get_uuid : ∀ {t u r}, (m.tables t).get? u = some r → (Store.get t (.uuid u) m).1 = .ok (some r)
  get_name : ∀ {t u r}, t.hasNameIndex = true → (m.tables t).get? u = some r →
    ∃ name, r.name? = some name ∧ (Store.get t (.name name) m).1 = .ok (some r)
  readsKind : ∀ (ρ : Type) [RowType ρ] [ReadableRowType ρ] {ι : Type} [IdSource ι] (ids : ι),
    Plan.ReadsKind ρ m ids

/-- Whatever transactions a store in memory was given, and whether they succeeded or failed, its
rows are represented as the reads rely on. -/
theorem represented_history (transactions : List (List Operation)) :
    (history transactions).Represented where
  placed h := ⟨(wellFormed_history transactions).table_eq h,
    (wellFormed_history transactions).uuid_eq h⟩
  valid h := Row.fault?_eq_none_iff.mp (faultless_history transactions _ _ _ h)
  unique hindex hr hs hname := (wellFormed_history transactions).unique hindex hr hs hname
  get_uuid h := by
    have hget := (Tables.get?_uuid (history transactions).tables _ _).trans h
    exact congrArg Except.ok hget
  get_name hindex h := by
    have hwf := wellFormed_history transactions
    rcases Row.isSome_name? (by rw [hwf.table_eq h]; exact hindex) with ⟨name, hname⟩
    have hget := hwf.get?_of_addresses h (show (Lookup.name name).addresses _ = true by
      simp [Lookup.addresses, hname]) (.inr hindex)
    exact ⟨name, hname, congrArg Except.ok hget⟩
  readsKind ρ _ _ _ _ ids := Plan.readsKind ρ (wellFormed_history transactions) ids

end Memory
end LogicalNet
