import LogicalNet.Proofs.Store.CacheTransparency

/-!
# What is stored

Every row of a store in memory stands in its own table under its own identifier, may
be written as it is, and shares its name with no other row where names tell the rows
apart.  The checks before a write see to the row that is written; all other changes
leave what the checks look at as it was.
-/

namespace LogicalNet

/-! ## Rows that may be written -/

namespace Row

/-- What is asked of a row before a write. -/
structure Valid (r : Row) : Prop where
  uuid : r.uuid ≠ ""
  name : r.table.hasNameIndex = true → ∃ name, r.name? = some name ∧ name ≠ ""
  acl : ∀ a, r = .acl a → a.priority.toNat ≤ 32767 ∧ Text.isBlankText a.condition = false
  dhcpOptions : ∀ d, r = .dhcpOptions d →
    ∃ ip mask, NetAddress.ofText? d.cidr = some (.subnet ip mask)

theorem fault?_acl_eq_none_iff {a : Acl} :
    a.fault? = none ↔ a.priority.toNat ≤ 32767 ∧ Text.isBlankText a.condition = false := by
  have hpriority : greatestAclPriority < a.priority ↔ ¬ a.priority.toNat ≤ 32767 := by
    rw [UInt16.lt_iff_toNat_lt, show greatestAclPriority.toNat = 32767 from rfl]
    omega
  unfold Acl.fault?
  by_cases hle : a.priority.toNat ≤ 32767
  · rw [if_neg (mt hpriority.mp (not_not_intro hle))]
    cases Text.isBlankText a.condition <;> simp [hle]
  · rw [if_pos (hpriority.mpr hle)]
    simp [hle]

theorem fault?_dhcpOptions_eq_none_iff {d : DhcpOptions} :
    d.fault? = none ↔ ∃ ip mask, NetAddress.ofText? d.cidr = some (.subnet ip mask) := by
  unfold DhcpOptions.fault?
  split
  · rename_i ip mask h
    simp [h]
  · rename_i hnot
    simp only [reduceCtorEq, false_iff]
    intro hfound
    rcases hfound with ⟨ip, mask, h⟩
    exact hnot ip mask h

theorem contentFault?_eq_none_iff {r : Row} : r.contentFault? = none ↔
    (∀ a, r = .acl a → a.priority.toNat ≤ 32767 ∧ Text.isBlankText a.condition = false) ∧
      ∀ d, r = .dhcpOptions d → ∃ ip mask, NetAddress.ofText? d.cidr = some (.subnet ip mask) := by
  cases r with
  | acl a =>
      simp [contentFault?, fault?_acl_eq_none_iff]
  | dhcpOptions d =>
      simp [contentFault?, fault?_dhcpOptions_eq_none_iff]
  | _ =>
      simp [contentFault?]

/-- The checks refuse exactly the rows that are not valid. -/
theorem fault?_eq_none_iff {r : Row} : r.fault? = none ↔ r.Valid := by
  have hname : (r.table.hasNameIndex && (r.name?.getD "").isEmpty) = false ↔
      (r.table.hasNameIndex = true → ∃ name, r.name? = some name ∧ name ≠ "") := by
    cases hindex : r.table.hasNameIndex with
    | false =>
        simp
    | true =>
        rcases isSome_name? hindex with ⟨name, hsome⟩
        simp [hsome]
  unfold fault?
  constructor
  · intro h
    split at h
    · cases h
    · rename_i huuid
      split at h
      · cases h
      · rename_i hnamed
        rcases contentFault?_eq_none_iff.mp h with ⟨hacl, hdhcp⟩
        exact ⟨by simpa using huuid, hname.mp (by simpa using hnamed), hacl, hdhcp⟩
  · intro h
    rw [if_neg (by simpa using h.uuid), if_neg (by rw [hname.mpr h.name]; simp)]
    exact contentFault?_eq_none_iff.mpr ⟨h.acl, h.dhcpOptions⟩

/-! ### Changes that the checks do not see -/

@[simp]
theorem fault?_mapReferences (f : List String → List String) (c : RefColumn) (r : Row) :
    (r.mapReferences f c).fault? = r.fault? := by
  cases c <;> cases r <;> rfl

@[simp]
theorem fault?_mapKeys (f : TextMap String → TextMap String) (c : MapColumn) (r : Row) :
    (r.mapKeys f c).fault? = r.fault? := by
  cases c <;> cases r <;> rfl

end Row

namespace Tables

@[simp]
theorem fault?_dropReference (target : Table) (key : String) (r : Row) (c : RefColumn) :
    (dropReference target key r c).fault? = r.fault? := by
  unfold dropReference
  split <;> simp

@[simp]
theorem fault?_dropReferences (target : Table) (key : String) (r : Row) :
    (dropReferences target key r).fault? = r.fault? := by
  simp [dropReferences_eq_foldl, RefColumn.all]

/-! ## Tables of such rows -/

variable {ts us : Tables}

def Faultless (ts : Tables) : Prop :=
  ∀ t u r, (ts t).get? u = some r → r.fault? = none

namespace Faultless

theorem empty : Faultless Tables.empty := by
  intro t u r hr
  simp at hr

theorem put (hts : ts.Faultless) {row : Row} (h : row.fault? = none) :
    (ts.put row).Faultless := by
  intro t u r hr
  rw [get?_put] at hr
  split at hr
  · cases hr
    exact h
  · exact hts t u r hr

theorem setRow (hts : ts.Faultless) {table : Table} {key : String} {row : Row}
    (h : row.fault? = none) : (ts.setRow table key row).Faultless := by
  intro t u r hr
  rw [get?_setRow] at hr
  split at hr
  · cases hr
    exact h
  · exact hts t u r hr

theorem remove (hts : ts.Faultless) (table : Table) (key : String) :
    (ts.remove table key).Faultless := by
  intro t u r hr
  rw [get?_remove] at hr
  split at hr
  · cases hr
  · rcases Option.map_eq_some_iff.mp hr with ⟨r₀, hr₀, rfl⟩
    rw [fault?_dropReferences]
    exact hts t u r₀ hr₀

theorem effect (hts : ts.Faultless) {op : Operation} (h : Effect ts op us) : us.Faultless := by
  cases h with
  | insert hfault _ _ =>
      exact hts.put hfault
  | update hfault _ _ =>
      exact hts.put hfault
  | delete _ =>
      exact hts.remove _ _
  | deleteNone _ =>
      exact hts
  | addRefs _ _ _ hrow _ =>
      apply hts.setRow
      rw [Row.fault?_mapReferences]
      exact hts _ _ _ hrow
  | removeRefs _ _ hrow =>
      apply hts.setRow
      rw [Row.fault?_mapReferences]
      exact hts _ _ _ hrow
  | removeRefsNone _ _ =>
      exact hts
  | setKeys _ hrow _ =>
      apply hts.setRow
      rw [Row.fault?_mapKeys]
      exact hts _ _ _ hrow

theorem applyAll (hwf : ts.WellFormed) (hts : ts.Faultless) {ops : List Operation}
    (h : ts.applyAll ops = .ok us) : us.Faultless := by
  induction ops generalizing ts with
  | nil =>
      cases h
      exact hts
  | cons op rest ih =>
      rcases applyAll_cons_eq_ok_iff.mp h with ⟨vs, hop, hrest⟩
      exact ih (hwf.apply hop) (hts.effect (effect_of_apply hwf hop)) hrest

end Faultless
end Tables

/-! ## Runs -/

namespace Memory

variable {m : Memory}

/-- A transaction leaves the tables as they were, or with all its operations made. -/
theorem tables_transact (m : Memory) (ops : List Operation) :
    (m.transact ops).2.tables = m.tables ∨
      m.tables.applyAll ops = .ok (m.transact ops).2.tables := by
  unfold transact
  cases hops : m.tables.applyAll ops with
  | error e =>
      exact .inl rfl
  | ok us =>
      exact .inr rfl

theorem wellFormed_transact (h : m.tables.WellFormed) (ops : List Operation) :
    (m.transact ops).2.tables.WellFormed := by
  rcases m.tables_transact ops with hsame | hops
  · rw [hsame]
    exact h
  · exact h.applyAll hops

theorem faultless_transact (hwf : m.tables.WellFormed) (h : m.tables.Faultless)
    (ops : List Operation) : (m.transact ops).2.tables.Faultless := by
  rcases m.tables_transact ops with hsame | hops
  · rw [hsame]
    exact h
  · exact h.applyAll hwf hops

/-- The store after the transactions, of which any may fail. -/
def history (transactions : List (List Operation)) : Memory :=
  (StoreCall.transactAll transactions Memory.empty).2

theorem sound_transactAll (transactions : List (List Operation))
    (h : m.tables.WellFormed ∧ m.tables.Faultless) :
    (StoreCall.transactAll transactions m).2.tables.WellFormed ∧
      (StoreCall.transactAll transactions m).2.tables.Faultless := by
  induction transactions generalizing m with
  | nil =>
      exact h
  | cons ops rest ih =>
      exact ih ⟨wellFormed_transact h.1 ops, faultless_transact h.1 h.2 ops⟩

theorem wellFormed_history (transactions : List (List Operation)) :
    (history transactions).tables.WellFormed :=
  (sound_transactAll transactions ⟨.empty, .empty⟩).1

theorem faultless_history (transactions : List (List Operation)) :
    (history transactions).tables.Faultless :=
  (sound_transactAll transactions ⟨.empty, .empty⟩).2

end Memory
end LogicalNet
