import LogicalNet.Proofs.Client.Outcomes

/-!
# Calls that succeed

A plan fails where it asks for what is not there, or where it reads a row of the
wrong kind, which well-formed tables do not have.  A transaction that only takes away
fails nowhere, and new rows can be written when nothing stands in their place and
nothing has their names.
-/

namespace LogicalNet

open Tables
open IdSource (Drawn)

/-! ## Plans that come to their end -/

/-- Every row of the table is one of the kind. -/
class ReadableRowType (ρ : Type) [RowType ρ] : Prop where
  exists_ofRow? : ∀ {r : Row}, r.table = RowType.table ρ → ∃ a : ρ, RowType.ofRow? r = some a

namespace ReadableRowType

instance : ReadableRowType Switch where
  exists_ofRow? {r} h := by cases r <;> cases h; exact ⟨_, rfl⟩

instance : ReadableRowType SwitchPort where
  exists_ofRow? {r} h := by cases r <;> cases h; exact ⟨_, rfl⟩

instance : ReadableRowType Router where
  exists_ofRow? {r} h := by cases r <;> cases h; exact ⟨_, rfl⟩

instance : ReadableRowType RouterPort where
  exists_ofRow? {r} h := by cases r <;> cases h; exact ⟨_, rfl⟩

instance : ReadableRowType StaticRoute where
  exists_ofRow? {r} h := by cases r <;> cases h; exact ⟨_, rfl⟩

instance : ReadableRowType Acl where
  exists_ofRow? {r} h := by cases r <;> cases h; exact ⟨_, rfl⟩

instance : ReadableRowType AddressSet where
  exists_ofRow? {r} h := by cases r <;> cases h; exact ⟨_, rfl⟩

instance : ReadableRowType PortGroup where
  exists_ofRow? {r} h := by cases r <;> cases h; exact ⟨_, rfl⟩

instance : ReadableRowType DhcpOptions where
  exists_ofRow? {r} h := by cases r <;> cases h; exact ⟨_, rfl⟩

instance : ReadableRowType NatRule where
  exists_ofRow? {r} h := by cases r <;> cases h; exact ⟨_, rfl⟩

instance : ReadableRowType LoadBalancer where
  exists_ofRow? {r} h := by cases r <;> cases h; exact ⟨_, rfl⟩

variable {ρ : Type} [RowType ρ] [ReadableRowType ρ]

theorem exists_ofRow {r : Row} (h : r.table = RowType.table ρ) :
    ∃ a, RowType.ofRow ρ r = .ok a := by
  rcases exists_ofRow? h with ⟨a, ha⟩
  exact ⟨a, by rw [RowType.ofRow, ha]⟩

theorem exists_ofRows {rs : List Row} (h : ∀ r ∈ rs, r.table = RowType.table ρ) :
    ∃ as, RowType.ofRows ρ rs = .ok as := by
  induction rs with
  | nil =>
      exact ⟨[], rfl⟩
  | cons r rest ih =>
      rcases exists_ofRow (h r (by simp)) with ⟨a, ha⟩
      rcases ih fun r' hr' => h r' (by simp [hr']) with ⟨as, has⟩
      exact ⟨a :: as, by simp only [RowType.ofRows, ha, has]⟩

end ReadableRowType

namespace Plan

variable {α β : Type} {ts : Tables}

/-- On these tables the plan comes to its end, whatever identifiers it draws. -/
inductive Total (ts : Tables) : Plan α → Prop where
  | done (a : α) : Total ts (done a)
  | get {table : Table} {lookup : Lookup} {next : Option Row → Plan α}
      (h : Total ts (next (ts.get? table lookup))) : Total ts (get table lookup next)
  | list {table : Table} {next : List Row → Plan α} (h : Total ts (next (ts.list table))) :
      Total ts (list table next)
  | find {table : Table} {key value : String} {next : List Row → Plan α}
      (h : Total ts (next (ts.find table key value))) : Total ts (find table key value next)
  | uuid {next : String → Plan α} (h : ∀ u, Total ts (next u)) : Total ts (uuid next)
  | mac {next : Mac → Plan α} (h : ∀ m, Total ts (next m)) : Total ts (mac next)

namespace Total

theorem bind {p : Plan α} {f : α → Plan β} (hp : p.Total ts)
    (hf : ∀ us a, p.Ends ts us a → (f a).Total ts) : (p >>= f).Total ts := by
  change (p.bind f).Total ts
  induction hp with
  | done a =>
      exact hf [] a (.done a)
  | get _ ih =>
      exact .get (ih fun us a h => hf us a (.get h))
  | list _ ih =>
      exact .list (ih fun us a h => hf us a (.list h))
  | find _ ih =>
      exact .find (ih fun us a h => hf us a (.find h))
  | uuid _ ih =>
      exact .uuid fun u => ih u fun us a h => hf (u :: us) a (.uuid u h)
  | mac _ ih =>
      exact .mac fun m => ih m fun us a h => hf us a (.mac m h)

theorem gather {f : α → Plan (List β)} (hf : ∀ a, (f a).Total ts) (as : List α) :
    (gather f as).Total ts := by
  induction as with
  | nil =>
      exact .done []
  | cons a rest ih =>
      exact bind (hf a) fun _ _ _ => bind ih fun _ _ _ => .done _

theorem drawUuids (n : Nat) : (drawUuids n).Total ts := by
  induction n with
  | zero =>
      exact .done []
  | succ n ih =>
      exact bind (.uuid fun u => .done u) fun _ _ _ => bind ih fun _ _ _ => .done _

/-! ## Reading from well-formed tables -/

section Rows

variable {ρ : Type} [RowType ρ] [ReadableRowType ρ]

theorem fetch (hts : ts.WellFormed) (lookup : Lookup) : (fetch ρ lookup).Total ts := by
  apply Total.get
  cases hget : ts.get? (RowType.table ρ) lookup with
  | none =>
      exact .done none
  | some row =>
      have hrow := (hts.get?_eq_some_iff.mp hget).2
      rcases ReadableRowType.exists_ofRow (hts.table_eq hrow) with ⟨a, ha⟩
      simp only [ha]
      exact .done (some a)

theorem table_eq_of_mem_list (hts : ts.WellFormed) {table : Table} {r : Row}
    (h : r ∈ ts.list table) : r.table = table := by
  rcases TextMap.mem_values_iff.mp h with ⟨u, hu⟩
  exact hts.table_eq hu

theorem listAll (hts : ts.WellFormed) : (listAll ρ).Total ts := by
  apply Total.list
  have htable : ∀ r ∈ ts.list (RowType.table ρ), r.table = RowType.table ρ := by
    intro r hr
    exact table_eq_of_mem_list hts hr
  rcases ReadableRowType.exists_ofRows htable with ⟨as, has⟩
  rw [has]
  exact .done as

theorem findAll (hts : ts.WellFormed) (key value : String) : (findAll ρ key value).Total ts := by
  apply Total.find
  have htable : ∀ r ∈ ts.find (RowType.table ρ) key value, r.table = RowType.table ρ := by
    intro r hr
    exact table_eq_of_mem_list hts (List.mem_filter.mp hr).1
  rcases ReadableRowType.exists_ofRows htable with ⟨as, has⟩
  rw [has]
  exact .done as

end Rows

/-! ## Running -/

variable {ι : Type} [IdSource ι]

theorem exists_run {p : Plan α} {m : Memory} (h : p.Total m.tables) (ids : ι) :
    ∃ a, (p.run m ids).1 = .ok a := by
  induction p generalizing ids with
  | done a =>
      exact ⟨a, rfl⟩
  | fail e =>
      cases h
  | get table lookup next ih =>
      cases h with
      | get h =>
          rw [Plan.run]
          exact ih _ h ids
  | list table next ih =>
      cases h with
      | list h =>
          rw [Plan.run]
          exact ih _ h ids
  | find table key value next ih =>
      cases h with
      | find h =>
          rw [Plan.run]
          exact ih _ h ids
  | uuid next ih =>
      cases h with
      | uuid h =>
          exact ih _ (h _) _
  | mac next ih =>
      cases h with
      | mac h =>
          exact ih _ (h _) _

end Total

variable {ι : Type} [IdSource ι]

/-- What a plan ends with is written, if it can be. -/
theorem perform_of_run {p : Plan (Transaction α)} {m : Memory} {ids : ι} {t : Transaction α}
    {ts : Tables} (hrun : (p.run m ids).1 = .ok t)
    (hops : m.tables.applyAll t.operations = .ok ts) :
    (p.perform m ids).1 = .ok t.result ∧ (p.perform m ids).2.1 = { m with tables := ts } := by
  have hm := (run_spec p m ids).1
  have hwritten : m.transact t.operations = (.ok (), { m with tables := ts }) := by
    rw [Memory.transact, hops]
  unfold perform
  simp only [hrun, hm]
  constructor
  · show ((m.transact t.operations).1.map fun _ => t.result) = .ok t.result
    rw [hwritten]
    rfl
  · show (m.transact t.operations).2 = _
    rw [hwritten]

/-- A call succeeds when its plan comes to its end and what it may end with can be written. -/
theorem exists_perform {p : Plan (Transaction α)} {m : Memory} {ids : ι} (hp : p.Total m.tables)
    (hops : ∀ us ids' t, Drawn ids us ids' → p.Ends m.tables us t →
      ∃ ts, m.tables.applyAll t.operations = .ok ts) :
    ∃ a, (p.perform m ids).1 = .ok a := by
  rcases hp.exists_run ids with ⟨t, ht⟩
  rcases run_spec p m ids with ⟨_, us, hdrawn, hends⟩
  rcases hops us _ t hdrawn (hends t ht) with ⟨ts, hts⟩
  exact ⟨t.result, (perform_of_run ht hts).1⟩

theorem run_bind {σ : Type} [Store σ] (p : Plan α) (f : α → Plan β) (s : σ) (ids : ι) :
    (p.bind f).run s ids =
      match (p.run s ids).1 with
      | .ok a => (f a).run (p.run s ids).2.1 (p.run s ids).2.2
      | .error e => (.error e, (p.run s ids).2) := by
  induction p generalizing s ids with
  | done a =>
      rfl
  | fail e =>
      rfl
  | get table lookup next ih =>
      rw [Plan.bind, run, run]
      cases (Store.get table lookup s).1 with
      | error e =>
          rfl
      | ok row =>
          exact ih row _ ids
  | list table next ih =>
      rw [Plan.bind, run, run]
      cases (Store.list table s).1 with
      | error e =>
          rfl
      | ok rows =>
          exact ih rows _ ids
  | find table key value next ih =>
      rw [Plan.bind, run, run]
      cases (Store.find table key value s).1 with
      | error e =>
          rfl
      | ok rows =>
          exact ih rows _ ids
  | uuid next ih =>
      exact ih _ s _
  | mac next ih =>
      exact ih _ s _

/-- What is made of the result of a call has no part in what the call does. -/
theorem perform_translated {σ : Type} [Store σ] (p : Plan (Transaction α)) (f : Transaction α → β)
    (s : σ) (ids : ι) :
    ((p.bind fun t => write t.operations (f t)).perform s ids).2 = (p.perform s ids).2 := by
  unfold perform
  rw [run_bind]
  rcases p.run s ids with ⟨result, s', ids'⟩
  cases result <;> rfl

/-- What is made of the transaction has no part in whether it can be written. -/
theorem exists_perform_translated {p : Plan (Transaction α)} {f : Transaction α → β} {m : Memory}
    {ids : ι} (hp : p.Total m.tables)
    (hops : ∀ us ids' t, Drawn ids us ids' → p.Ends m.tables us t →
      ∃ ts, m.tables.applyAll t.operations = .ok ts) :
    ∃ b, ((p.bind fun t => write t.operations (f t)).perform m ids).1 = .ok b := by
  apply exists_perform
  · exact hp.bind fun us t _ => .done _
  · intro us ids' t hdrawn hends
    rcases Ends.of_bind hends with ⟨us', t', vs, rfl, hfirst, hwrite⟩
    rcases Ends.of_pure hwrite with ⟨rfl, rfl⟩
    rw [List.append_nil] at hdrawn
    exact hops us' ids' t' hdrawn hfirst

/-! ## Identifiers drawn first -/

theorem bind_assoc {γ : Type} (p : Plan α) (f : α → Plan β) (g : β → Plan γ) :
    (p.bind f).bind g = p.bind fun a => (f a).bind g := by
  induction p with
  | done a =>
      rfl
  | fail e =>
      rfl
  | get table lookup next ih =>
      exact congrArg (Plan.get table lookup) (funext ih)
  | list table next ih =>
      exact congrArg (Plan.list table) (funext ih)
  | find table key value next ih =>
      exact congrArg (Plan.find table key value) (funext ih)
  | uuid next ih =>
      exact congrArg Plan.uuid (funext ih)
  | mac next ih =>
      exact congrArg Plan.mac (funext ih)

theorem drawUuids_succ_bind (n : Nat) (f : List String → Plan α) :
    (drawUuids (n + 1)).bind f =
      uuid fun first => (drawUuids n).bind fun rest => f (first :: rest) := by
  show Plan.uuid (fun first => ((drawUuids n).bind fun rest => done (first :: rest)).bind f) = _
  congr 1
  funext first
  exact bind_assoc _ _ f

theorem run_drawUuids_bind {σ : Type} [Store σ] (n : Nat) (f : List String → Plan α) (s : σ)
    (ids : ι) : ((drawUuids n).bind f).run s ids =
      (f (IdSource.uuids n ids).1).run s (IdSource.uuids n ids).2 := by
  induction n generalizing f ids with
  | zero =>
      rfl
  | succ n ih =>
      rw [drawUuids_succ_bind]
      exact ih (fun rest => f ((IdSource.uuid ids).1 :: rest)) (IdSource.uuid ids).2

theorem Ends.drawUuids_bind {f : List String → Plan α} {us ws : List String} {a : α}
    (h : (f us).Ends ts ws a) : ((drawUuids us.length).bind f).Ends ts (us ++ ws) a := by
  induction us generalizing f with
  | nil =>
      exact h
  | cons u rest ih =>
      rw [List.length_cons, drawUuids_succ_bind]
      exact .uuid u (ih h)

/-- The identifiers that a plan draws first are the next ones of the source. -/
theorem ends_of_run_drawUuids {p : Plan α} {n : Nat} {f : List String → Plan α}
    (hp : p = (drawUuids n).bind f) {m : Memory} {ids : ι} {a : α} (h : (p.run m ids).1 = .ok a) :
    ∃ ws, p.Ends m.tables ((IdSource.uuids n ids).1 ++ ws) a := by
  subst hp
  rw [run_drawUuids_bind] at h
  rcases run_spec (f (IdSource.uuids n ids).1) m (IdSource.uuids n ids).2 with ⟨_, ws, _, hends⟩
  have hdrawn := Ends.drawUuids_bind (hends a h)
  rw [IdSource.length_uuids] at hdrawn
  exact ⟨ws, hdrawn⟩

end Plan

/-! ## Transactions that can be written -/

namespace Tables

variable {ts : Tables}

/-- The operation takes away what is there, and has nothing to do where there is nothing. -/
inductive Removes : Operation → Prop where
  | delete (table : Table) (lookup : Lookup) : Removes (.delete table lookup)
  | removeRefs {table : Table} {column : RefColumn} (lookup : Lookup) (uuids : List String)
      (h : (column.target? table).isSome = true) :
      Removes (.removeRefs table lookup column uuids)

theorem exists_apply_of_removes {op : Operation} (h : Removes op) (ts : Tables) :
    ∃ us, ts.apply op = .ok us := by
  cases h with
  | delete table lookup =>
      exact ⟨_, rfl⟩
  | @removeRefs table column lookup uuids h =>
      have hnone : (column.target? table).isNone = false := by
        rw [Option.isNone_eq_false_iff]
        exact h
      simp only [apply, removeRefs, hnone]
      split
      · rename_i hfalse
        cases hfalse
      · split
        · exact ⟨_, rfl⟩
        · split
          · exact ⟨_, rfl⟩
          · exact ⟨_, rfl⟩

theorem exists_applyAll_of_removes {ops : List Operation} (h : ∀ op ∈ ops, Removes op)
    (ts : Tables) : ∃ us, ts.applyAll ops = .ok us := by
  induction ops generalizing ts with
  | nil =>
      exact ⟨ts, rfl⟩
  | cons op rest ih =>
      rcases exists_apply_of_removes (h op (by simp)) ts with ⟨vs, hvs⟩
      rcases ih (fun op' hop' => h op' (by simp [hop'])) vs with ⟨us, hus⟩
      exact ⟨us, applyAll_cons_eq_ok_iff.mpr ⟨vs, hvs, hus⟩⟩

/-- Both rows have a place of their own, and a name of their own where names are for one row. -/
structure Apart (r s : Row) : Prop where
  place : ¬ (r.table = s.table ∧ r.uuid = s.uuid)
  name : r.table = s.table → r.table.hasNameIndex = true → r.name? ≠ s.name?

/-- The row can be written beside those that are there. -/
structure Fits (ts : Tables) (row : Row) : Prop where
  faultless : row.fault? = none
  apart : ∀ {u r}, (ts row.table).get? u = some r → Apart row r

theorem Fits.exists_insert (hts : ts.WellFormed) {row : Row} (h : Fits ts row) :
    ts.insert row = .ok (ts.put row) := by
  have hnew : (ts row.table).contains row.uuid = false := by
    apply TextMap.contains_eq_false_iff.mpr
    cases hget : (ts row.table).get? row.uuid with
    | none =>
        rfl
    | some r =>
        exact absurd ⟨(hts.table_eq hget).symm, (hts.uuid_eq hget).symm⟩ (h.apart hget).place
  have hname : ts.isNameTaken row = false := by
    cases htaken : ts.isNameTaken row with
    | false =>
        rfl
    | true =>
        simp only [isNameTaken, Bool.and_eq_true, List.any_eq_true] at htaken
        rcases htaken with ⟨⟨hindex, _⟩, r, hr, _, hsame⟩
        rcases TextMap.mem_values_iff.mp hr with ⟨u, hu⟩
        have hne := (h.apart hu).name (hts.table_eq hu).symm hindex
        exact absurd (by simpa using hsame) (Ne.symm hne)
  simp [insert, h.faultless, hnew, hname]

theorem Fits.put {row row' : Row} (h : Fits ts row) (happart : Apart row row') :
    Fits (ts.put row') row := by
  refine ⟨h.faultless, fun hr => ?_⟩
  rw [get?_put] at hr
  split at hr
  · cases hr
    exact happart
  · exact h.apart hr

theorem exists_applyAll_insert (hts : ts.WellFormed) {rows : List Row}
    (hfits : ∀ row ∈ rows, Fits ts row) (hapart : rows.Pairwise fun r s => Apart s r) :
    ∃ us, ts.applyAll (rows.map .insert) = .ok us := by
  induction rows generalizing ts with
  | nil =>
      exact ⟨ts, rfl⟩
  | cons row rest ih =>
      have hinsert := (hfits row (by simp)).exists_insert hts
      rcases List.pairwise_cons.mp hapart with ⟨hrow, hrest⟩
      have hput : (ts.put row).WellFormed := hts.effect (effect_of_insert hinsert)
      rcases ih hput (fun r hr => (hfits r (by simp [hr])).put (hrow r hr)) hrest with ⟨us, hus⟩
      exact ⟨us, applyAll_cons_eq_ok_iff.mpr ⟨_, hinsert, hus⟩⟩

end Tables
end LogicalNet
