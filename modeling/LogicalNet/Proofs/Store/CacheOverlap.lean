import Mathlib.Logic.Relation
import LogicalNet.Proofs.Store.CacheStaleness
import LogicalNet.Proofs.Store.Provenance

/-!
# Writers that overlap

A write through the cache has two parts: the transaction in the store behind it, and
the replay of the operations on the entries.  Other writers may come in between, so
the replays need not run in the order of the transactions.

As long as they do, the cache is right as soon as nobody owes a replay any more.  A
writer that is passed by another, whose transaction came later and whose replay came
first, puts back the rows as it wrote them; and a row that the other writer has changed
since is then found as it was before that change.  Unlike the answer to a read, what a
write puts into the cache is not checked against the generation.
-/

namespace LogicalNet

open scoped List

variable {ts us : Tables}

/-! ## The parts of writes -/

inductive WritePart (ι : Type) where
  /-- The transaction in the store behind the cache. -/
  | commit (writer : ι)
  /-- The replay on the entries of the cache, if the transaction has succeeded. -/
  | replay (writer : ι)
  deriving DecidableEq

def WritePart.writer {ι : Type} : WritePart ι → ι
  | commit w => w
  | replay w => w

/-- A cache with writers at work on it. -/
structure Overlap (ι : Type) where
  cache : Cached Memory
  /-- Whether the transaction of a writer has succeeded and its replay is still to come. -/
  owing : ι → Bool

namespace Overlap

variable {ι : Type} [DecidableEq ι]

/-- Each writer has one transaction to make. -/
def step (writes : ι → List Operation) (s : Overlap ι) : WritePart ι → Overlap ι
  | .commit w =>
      match s.cache.transactInner (writes w) with
      | (.ok (), cache) => { cache := cache, owing := Function.update s.owing w true }
      | (.error _, cache) => { s with cache := cache }
  | .replay w =>
      if s.owing w then
        { cache := s.cache.afterTransaction (writes w)
          owing := Function.update s.owing w false }
      else
        s

def run (writes : ι → List Operation) (c : Cached Memory) (trace : List (WritePart ι)) :
    Overlap ι :=
  trace.foldl (step writes) { cache := c, owing := fun _ => false }

theorem run_append_singleton (writes : ι → List Operation) (c : Cached Memory)
    (past : List (WritePart ι)) (part : WritePart ι) :
    run writes c (past ++ [part]) = (run writes c past).step writes part := by
  simp [run]

/-- A writer that nobody comes in between is a write as a whole. -/
theorem cache_run_pair (writes : ι → List Operation) (c : Cached Memory) (w : ι) :
    (run writes c [.commit w, .replay w]).cache = (c.transact (writes w)).2 := by
  simp only [run, List.foldl_cons, List.foldl_nil, step, Cached.transact]
  rcases c.transactInner (writes w) with ⟨answer, cache⟩
  cases answer with
  | ok done =>
      simp
  | error e =>
      simp

/-- The rows in the store behind the cache. -/
abbrev tables (s : Overlap ι) : Tables :=
  s.cache.inner.tables

/-- A transaction that fails and a replay that is not owed do nothing. -/
theorem step_cases (writes : ι → List Operation) (s : Overlap ι) (part : WritePart ι) :
    (s.step writes part = s ∧ ∀ w, s.owing w = true → part ≠ .replay w) ∨
    (∃ w us, part = .commit w ∧ s.tables.applyAll (writes w) = .ok us ∧
      s.step writes part =
        { cache := { s.cache with inner := { s.cache.inner with tables := us } }
          owing := Function.update s.owing w true }) ∨
    (∃ w, part = .replay w ∧ s.owing w = true ∧
      s.step writes part =
        { cache := s.cache.afterTransaction (writes w)
          owing := Function.update s.owing w false }) := by
  cases part with
  | commit w =>
      cases hops : s.tables.applyAll (writes w) with
      | error e =>
          refine .inl ⟨?_, fun _ _ h => by cases h⟩
          simp [step, Cached.transactInner, Store.transact, Memory.transact, hops]
      | ok us =>
          refine .inr (.inl ⟨w, us, rfl, hops, ?_⟩)
          simp [step, Cached.transactInner, Store.transact, Memory.transact, hops]
  | replay w =>
      cases howing : s.owing w with
      | false =>
          refine .inl ⟨by simp [step, howing], fun v hv heq => ?_⟩
          cases heq
          rw [howing] at hv
          cases hv
      | true =>
          exact .inr (.inr ⟨w, rfl, howing, by simp [step, howing]⟩)

end Overlap

/-- Every writer has made its transaction and then its replay, and the writers have taken turns in
any way. -/
def WritePart.Complete {ι : Type} [DecidableEq ι] (trace : List (WritePart ι)) : Prop :=
  ∀ w, trace.filter (fun part => part.writer = w) = [.commit w, .replay w]

/-! ## The replay of a transaction -/

namespace Cached

open Tables (Puts)

def Survives (ops : List Operation) (e : CacheEntry) : Prop :=
  ∀ op ∈ ops, survives op e = true

theorem row_of_mem_entriesFor {now : Nat} {row : Row} {e : CacheEntry}
    (h : e ∈ entriesFor now row) : e.row = row := by
  rcases List.mem_cons.mp h with rfl | h
  · rfl
  · rcases List.mem_map.mp h with ⟨name, _, rfl⟩
    rfl

theorem puts_of_mem_added {now : Nat} {op : Operation} {e : CacheEntry}
    (h : e ∈ added now op) : Puts [op] e.row := by
  unfold added at h
  split at h
  · split at h
    · rw [row_of_mem_entriesFor h]
      exact .inl (List.mem_singleton_self _)
    · cases h
  · split at h
    · rw [row_of_mem_entriesFor h]
      exact .inr (List.mem_singleton_self _)
    · cases h
  · cases h

/-- An entry that survives a transaction is as right after it as before. -/
theorem Coherent.of_survives_transaction (hts : ts.WellFormed) {ops : List Operation}
    (hops : ts.applyAll ops = .ok us) {e : CacheEntry} (he : e.Coherent ts)
    (h : Survives ops e) : e.Coherent us := by
  induction ops generalizing ts with
  | nil =>
      cases hops
      exact he
  | cons op rest ih =>
      rcases Tables.applyAll_cons_eq_ok_iff.mp hops with ⟨vs, hop, hrest⟩
      have hfirst := Coherent.of_survives hts (Tables.effect_of_apply hts hop) he
        (h op List.mem_cons_self)
      exact ih (hts.apply hop) hrest hfirst fun op' hop' => h op' (List.mem_cons_of_mem op hop')

/-- The entries after a replay are those that survive it, and ones for rows that the transaction
wrote, which are right about the tables that it made of others, wherever the cache stands. -/
theorem of_mem_afterTransaction (hts : ts.WellFormed) {c : Cached Memory} {ops : List Operation}
    (hops : ts.applyAll ops = .ok us) {e : CacheEntry}
    (h : e ∈ (c.afterTransaction ops).entries) :
    (e.Coherent us ∧ Puts ops e.row) ∨ (e ∈ c.entries ∧ Survives ops e) := by
  induction ops generalizing ts c with
  | nil =>
      exact .inr ⟨h, by simp [Survives]⟩
  | cons op rest ih =>
      rcases Tables.applyAll_cons_eq_ok_iff.mp hops with ⟨vs, hop, hrest⟩
      have heffect := Tables.effect_of_apply hts hop
      rcases ih (hts.apply hop) hrest h with ⟨hcoherent, hputs⟩ | ⟨hmem, hsurvives⟩
      · exact .inl ⟨hcoherent, hputs.mono (List.subset_cons_self op rest)⟩
      rw [entries_afterOperation] at hmem
      rcases List.mem_append.mp hmem with hadded | hold
      · refine .inl ⟨?_, (puts_of_mem_added hadded).mono (by simp)⟩
        exact Coherent.of_survives_transaction (hts.apply hop) hrest
          (Coherent.of_mem_added hts heffect hadded) hsurvives
      · rcases List.mem_filter.mp hold with ⟨hmem, hfirst⟩
        refine .inr ⟨hmem, fun op' hop' => ?_⟩
        rcases List.mem_cons.mp hop' with rfl | hop'
        · exact hfirst
        · exact hsurvives op' hop'

end Cached

/-! ## Transactions that an entry has not seen -/

namespace Overlap

open Cached
open Tables (Puts)

variable {ι : Type} {writes : ι → List Operation} {c : Cached Memory}
  {trace : List (WritePart ι)}

/-- The tables come from others by transactions of writers with the property. -/
def Through (writes : ι → List Operation) (P : ι → Prop) : Tables → Tables → Prop :=
  Relation.ReflTransGen fun ts us => ∃ j, P j ∧ ts.applyAll (writes j) = .ok us

theorem Through.mono {P Q : ι → Prop} (h : Through writes P ts us) (hPQ : ∀ j, P j → Q j) :
    Through writes Q ts us :=
  Relation.ReflTransGen.mono (fun _ _ ⟨j, hj, hops⟩ => ⟨j, hPQ j hj, hops⟩) _ _ h

/-- An entry that was right is right still, or one of the transactions since then would have
dropped it. -/
theorem Through.coherent_or {P : ι → Prop} (h : Through writes P ts us) (hts : ts.WellFormed)
    {e : CacheEntry} (he : e.Coherent ts) :
    us.WellFormed ∧ (e.Coherent us ∨ ∃ j, P j ∧ ¬ Survives (writes j) e) := by
  induction h with
  | refl =>
      exact ⟨hts, .inl he⟩
  | tail _ hlast ih =>
      rcases hlast with ⟨j, hj, hops⟩
      rcases ih with ⟨hwf, hcoherent | hpassed⟩
      · refine ⟨hwf.applyAll hops, ?_⟩
        by_cases hsurvives : Survives (writes j) e
        · exact .inl (Coherent.of_survives_transaction hwf hops hcoherent hsurvives)
        · exact .inr ⟨j, hj, hsurvives⟩
      · exact ⟨hwf.applyAll hops, .inr hpassed⟩

/-- A writer came after the given one with its transaction, and its replay is still to come or has
come as well. -/
def Followed (s : Overlap ι) (w : ι) (later : List (WritePart ι)) (j : ι) : Prop :=
  j ≠ w ∧ .commit j ∈ later ∧ (s.owing j = true ∨ [.commit j, .replay j] <+ later)

theorem Followed.append_singleton {s s' : Overlap ι} {w j : ι} {later : List (WritePart ι)}
    (h : Followed s w later j) (part : WritePart ι)
    (howing : s.owing j = true → s'.owing j = true ∨ part = .replay j) :
    Followed s' w (later ++ [part]) j := by
  rcases h with ⟨hne, hcommit, hj⟩
  refine ⟨hne, List.mem_append_left _ hcommit, ?_⟩
  rcases hj with hj | hreplayed
  · rcases howing hj with hj' | rfl
    · exact .inl hj'
    · exact .inr ((List.singleton_sublist.mpr hcommit).append (.refl [WritePart.replay j]))
  · exact .inr (hreplayed.trans (List.sublist_append_left _ _))

variable [DecidableEq ι]

/-- A writer has put the entry into the cache, and the given writer had passed it: the transaction
of this one came after that of the first, and its replay before. -/
def Passed (writes : ι → List Operation) (c : Cached Memory) (trace : List (WritePart ι))
    (e : CacheEntry) (j : ι) : Prop :=
  ∃ earlier i later, trace = earlier ++ .commit i :: later ∧
    [.commit j, .replay j, .replay i] <+ later ∧ Puts (writes i) e.row ∧
    e.Coherent (run writes c (earlier ++ [.commit i])).tables

theorem Passed.append_singleton {e : CacheEntry} {j : ι} (h : Passed writes c trace e j)
    (part : WritePart ι) : Passed writes c (trace ++ [part]) e j := by
  rcases h with ⟨earlier, i, later, rfl, hlater, hrest⟩
  exact ⟨earlier, i, later ++ [part], by simp, hlater.trans (List.sublist_append_left _ _), hrest⟩

/-- Why an entry need not have seen the transaction of a writer. -/
def Excused (writes : ι → List Operation) (c : Cached Memory) (trace : List (WritePart ι))
    (s : Overlap ι) (e : CacheEntry) (j : ι) : Prop :=
  s.owing j = true ∨ Survives (writes j) e ∨ Passed writes c trace e j

theorem Excused.append_singleton {s s' : Overlap ι} {e : CacheEntry} {j : ι}
    (h : Excused writes c trace s e j) (part : WritePart ι)
    (howing : s.owing j = true → s'.owing j = true ∨ Survives (writes j) e) :
    Excused writes c (trace ++ [part]) s' e j := by
  rcases h with hj | hsurvives | hpassed
  · exact (howing hj).imp_right .inl
  · exact .inr (.inl hsurvives)
  · exact .inr (.inr (hpassed.append_singleton part))

/-- A writer has a replay to make, and all transactions since its own are of writers that followed
it. -/
structure Owes (writes : ι → List Operation) (c : Cached Memory) (trace : List (WritePart ι))
    (s : Overlap ι) (w : ι) (earlier later : List (WritePart ι)) : Prop where
  trace_eq : trace = earlier ++ .commit w :: later
  not_replayed : .replay w ∉ later
  committed : ∃ ts : Tables, ts.WellFormed ∧
    ts.applyAll (writes w) = .ok (run writes c (earlier ++ [.commit w])).tables
  since : Through writes (Followed s w later) (run writes c (earlier ++ [.commit w])).tables
    s.tables

theorem Owes.append_singleton {s s' : Overlap ι} {w : ι} {earlier later : List (WritePart ι)}
    (h : Owes writes c trace s w earlier later) {part : WritePart ι} (hpart : part ≠ .replay w)
    (hsince : Through writes (Followed s' w (later ++ [part])) s.tables s'.tables)
    (howing : ∀ j, s.owing j = true → s'.owing j = true ∨ part = .replay j) :
    Owes writes c (trace ++ [part]) s' w earlier (later ++ [part]) := by
  refine ⟨?_, ?_, h.committed, ?_⟩
  · rw [h.trace_eq, List.append_assoc, List.cons_append]
  · simp [h.not_replayed, hpart.symm]
  · exact (h.since.mono fun j hj => hj.append_singleton part (howing j)).trans hsince

/-- What holds at every point of a trace: whoever owes a replay has made its transaction, and an
entry was right once and is excused of all transactions since. -/
structure Accounted (writes : ι → List Operation) (c : Cached Memory)
    (trace : List (WritePart ι)) (s : Overlap ι) : Prop where
  wellFormed : s.tables.WellFormed
  owes : ∀ w, s.owing w = true → ∃ earlier later, Owes writes c trace s w earlier later
  entries : ∀ e ∈ s.cache.entries, ∃ ts : Tables, ts.WellFormed ∧ e.Coherent ts ∧
    Through writes (Excused writes c trace s e) ts s.tables

namespace Accounted

theorem start (h : c.Sound) : Accounted writes c [] (run writes c []) := by
  refine ⟨h.wellFormed, fun w hw => ?_, fun e he => ?_⟩
  · cases hw
  · exact ⟨c.inner.tables, h.wellFormed, h.coherent e he, .refl⟩

theorem idle {s : Overlap ι} (h : Accounted writes c trace s) {part : WritePart ι}
    (hpart : ∀ w, s.owing w = true → part ≠ .replay w) :
    Accounted writes c (trace ++ [part]) s := by
  refine ⟨h.wellFormed, fun w hw => ?_, fun e he => ?_⟩
  · rcases h.owes w hw with ⟨earlier, later, howes⟩
    exact ⟨earlier, _, howes.append_singleton (hpart w hw) .refl fun _ hj => .inl hj⟩
  · rcases h.entries e he with ⟨ts, hwf, hcoherent, hthrough⟩
    exact ⟨ts, hwf, hcoherent, hthrough.mono fun _ hj => hj.append_singleton part .inl⟩

/-- A transaction is one that nobody has seen yet. -/
theorem commit {s s' : Overlap ι} (h : Accounted writes c trace s) {w : ι}
    (hrun : run writes c (trace ++ [.commit w]) = s') {us : Tables}
    (hops : s.tables.applyAll (writes w) = .ok us)
    (hstep : s' = { cache := { s.cache with inner := { s.cache.inner with tables := us } }
                    owing := Function.update s.owing w true }) :
    Accounted writes c (trace ++ [.commit w]) s' := by
  have hself : s'.owing w = true := by
    simp [hstep]
  have howing : ∀ j, s.owing j = true → s'.owing j = true := by
    intro j hj
    by_cases hjw : j = w
    · rw [hjw]
      exact hself
    · simp [hstep, hjw, hj]
  have hlast : s.tables.applyAll (writes w) = .ok s'.tables := by
    rw [hops, hstep]
  refine ⟨h.wellFormed.applyAll hlast, fun v hv => ?_, fun e he => ?_⟩
  · by_cases hvw : v = w
    · subst hvw
      refine ⟨trace, [], rfl, by simp, ?_, ?_⟩
      · rw [hrun]
        exact ⟨s.tables, h.wellFormed, hlast⟩
      · rw [hrun]
        exact .refl
    · have hv' : s.owing v = true := by
        simpa [hstep, hvw] using hv
      rcases h.owes v hv' with ⟨earlier, later, howes⟩
      have hfollowed : Followed s' v (later ++ [.commit w]) w :=
        ⟨Ne.symm hvw, by simp, .inl hself⟩
      refine ⟨earlier, _, howes.append_singleton (by simp) ?_ fun j hj => .inl (howing j hj)⟩
      exact .single ⟨w, hfollowed, hlast⟩
  · rcases h.entries e (by simpa [hstep] using he) with ⟨ts, hwf, hcoherent, hthrough⟩
    refine ⟨ts, hwf, hcoherent, ?_⟩
    have hmono := hthrough.mono fun j hj => hj.append_singleton (.commit w)
      fun hj => .inl (howing j hj)
    exact hmono.tail ⟨w, .inl hself, hlast⟩

/-- What a replay puts into the cache is right about the tables after the transaction, and those
who have followed and made their replay have passed the writer by that. -/
theorem replay {s s' : Overlap ι} (h : Accounted writes c trace s) {w : ι}
    (hw : s.owing w = true)
    (hstep : s' = { cache := s.cache.afterTransaction (writes w)
                    owing := Function.update s.owing w false }) :
    Accounted writes c (trace ++ [.replay w]) s' := by
  have howing : ∀ j, j ≠ w → s.owing j = true → s'.owing j = true := by
    intro j hjw hj
    simp [hstep, hjw, hj]
  have htables : s'.tables = s.tables := by
    rw [hstep, tables, inner_afterTransaction]
  refine ⟨?_, fun v hv => ?_, fun e he => ?_⟩
  · rw [htables]
    exact h.wellFormed
  · have hvw : v ≠ w := by
      rintro rfl
      simp [hstep] at hv
    have hv' : s.owing v = true := by
      simpa [hstep, hvw] using hv
    rcases h.owes v hv' with ⟨earlier, later, howes⟩
    refine ⟨earlier, _, howes.append_singleton ?_ ?_ fun j hj => ?_⟩
    · intro heq
      exact hvw (WritePart.replay.inj heq).symm
    · rw [htables]
      exact .refl
    · by_cases hjw : j = w
      · exact .inr (by rw [hjw])
      · exact .inl (howing j hjw hj)
  · rw [htables]
    rcases h.owes w hw with ⟨earlier, later, howes⟩
    rcases howes.committed with ⟨ts, hwf, hops⟩
    rcases of_mem_afterTransaction hwf hops (by simpa [hstep] using he) with
      ⟨hcoherent, hputs⟩ | ⟨hmem, hsurvives⟩
    · refine ⟨_, hwf.applyAll hops, hcoherent, howes.since.mono fun j hj => ?_⟩
      rcases hj with ⟨hjw, _, hj | hreplayed⟩
      · exact .inl (howing j hjw hj)
      · refine .inr (.inr ⟨earlier, w, later ++ [.replay w], ?_, ?_, hputs, hcoherent⟩)
        · rw [howes.trace_eq, List.append_assoc, List.cons_append]
        · exact hreplayed.append (.refl [WritePart.replay w])
    · rcases h.entries e hmem with ⟨vs, hwf', hcoherent, hthrough⟩
      refine ⟨vs, hwf', hcoherent, hthrough.mono fun j hj => ?_⟩
      refine hj.append_singleton (.replay w) fun hj => ?_
      by_cases hjw : j = w
      · exact .inr (by rw [hjw]; exact hsurvives)
      · exact .inl (howing j hjw hj)

end Accounted

/-! ## Whole traces -/

theorem accounted_run (h : c.Sound) (trace : List (WritePart ι)) :
    Accounted writes c trace (run writes c trace) := by
  induction trace using List.reverseRecOn with
  | nil =>
      exact .start h
  | append_singleton past part ih =>
      have hrun := run_append_singleton writes c past part
      rcases step_cases writes (run writes c past) part with
        ⟨hstep, hpart⟩ | ⟨w, us, rfl, hops, hstep⟩ | ⟨w, rfl, hw, hstep⟩
      · rw [hrun, hstep]
        exact ih.idle hpart
      · exact ih.commit rfl hops (hrun.trans hstep)
      · exact ih.replay hw (hrun.trans hstep)

/-- Nobody owes a replay when all parts have been made. -/
theorem owing_of_complete (h : c.Sound) (hcomplete : WritePart.Complete trace) (w : ι) :
    (run writes c trace).owing w = false := by
  cases howing : (run writes c trace).owing w with
  | false =>
      rfl
  | true =>
      rcases (accounted_run h trace).owes w howing with ⟨earlier, later, howes⟩
      have hparts := hcomplete w
      rw [howes.trace_eq, List.filter_append, List.filter_cons_of_pos (by simp [WritePart.writer])]
        at hparts
      rcases List.append_eq_cons_iff.mp hparts with ⟨_, hlater⟩ | ⟨front, _, hfront⟩
      · have hmem : .replay w ∈ later.filter fun part => part.writer = w := by
          rw [List.cons.inj hlater |>.2]
          exact List.mem_singleton_self _
        exact absurd (List.mem_filter.mp hmem).1 howes.not_replayed
      · have hmem : WritePart.commit w ∈ [WritePart.replay w] := by
          rw [hfront]
          simp
        cases List.mem_singleton.mp hmem

end Overlap

/-! ## What is found afterwards -/

namespace Cached

open Overlap
open Tables (Puts)

variable {ι : Type} [DecidableEq ι] {c : Cached Memory} {trace : List (WritePart ι)}

/-- The age of an entry does not count. -/
theorem survives_stored (e : CacheEntry) (stored : Nat) {ops : List Operation}
    (h : Survives ops { e with stored := stored }) : Survives ops e := by
  intro op hop
  have hsurvives := h op hop
  cases op <;> exact hsurvives

/-- When writers that overlapped have all come to their end, a read by identifier, or by name in a
table with a name index, gives what the store behind the cache gives, at any time.  The one
exception is a row of a writer whom another has passed with an operation on it: the answer may then
be that row, as it stood in the store right after the transaction of the first. -/
theorem overlapping_writes (h : c.Sound) (writes : ι → List Operation)
    (hcomplete : WritePart.Complete trace) (time : Nat) (table : Table) (lookup : Lookup)
    (hexact : (∃ s, lookup = .uuid s) ∨ table.hasNameIndex = true) :
    let after := (run writes c trace).cache.advance time
    (Store.get table lookup after).1 = (Store.get table lookup after.inner).1 ∨
      ∃ earlier i later j row, trace = earlier ++ .commit i :: later ∧
        [.commit j, .replay j, .replay i] <+ later ∧
        Puts (writes i) row ∧ ¬ Survives (writes j) ⟨table, lookup, row, after.now⟩ ∧
        (Store.get table lookup after).1 = .ok (some row) ∧
        (Store.get table lookup (run writes c (earlier ++ [.commit i])).cache.inner).1 =
          .ok (some row) := by
  intro after
  show (after.get table lookup).1 = _ ∨
    ∃ earlier i later j row, _ ∧ _ ∧ _ ∧ _ ∧ (after.get table lookup).1 = _ ∧ _
  unfold Cached.get
  split
  · cases hlook : after.look table lookup with
    | none =>
        exact .inl rfl
    | some row =>
        rcases exists_mem_of_look hlook with ⟨e, he, rfl, rfl, rfl, _⟩
        rcases (accounted_run h trace).entries e he with ⟨ts, hwf, hcoherent, hthrough⟩
        rcases hthrough.coherent_or hwf hcoherent with ⟨hwf', hright | ⟨j, hexcused, hdropped⟩⟩
        · have hget := hwf'.get?_of_addresses hright.row hright.addressed hexact
          exact .inl (congrArg Except.ok hget.symm)
        · rcases hexcused with howing | hsurvives | hpassed
          · rw [owing_of_complete h hcomplete j] at howing
            cases howing
          · exact absurd hsurvives hdropped
          · rcases hpassed with ⟨earlier, i, later, htrace, hlater, hputs, hright⟩
            have hthen : Accounted writes c _ _ := accounted_run h (earlier ++ [.commit i])
            have hget := hthen.wellFormed.get?_of_addresses hright.row hright.addressed hexact
            refine .inr ⟨earlier, i, later, j, e.row, htrace, hlater, hputs, ?_, rfl,
              congrArg Except.ok hget⟩
            exact fun hsurvives => hdropped (survives_stored e after.now hsurvives)
  · exact .inl rfl

/-! ### Two writers of one row -/

/-- A cache that holds a switch. -/
def withSwitch : Cached Memory :=
  (Cached.transact (Cached.new Memory.empty 1000)
    [.insert (.switch { uuid := "1", name := "a" })]).2

/-- Two writers that each give the switch a name. -/
def renames : Fin 2 → List Operation
  | 0 => [.update (.switch { uuid := "1", name := "b" })]
  | 1 => [.update (.switch { uuid := "1", name := "c" })]

/-- The second writer comes in between the two parts of the first. -/
def passing : List (WritePart (Fin 2)) :=
  [.commit 0, .commit 1, .replay 1, .replay 0]

theorem sound_withSwitch : withSwitch.Sound :=
  ((Sound.new 1000).transact _).2.2.sound

theorem complete_passing : WritePart.Complete passing := by
  unfold WritePart.Complete
  decide

theorem get_passing_ne :
    let after := (run renames withSwitch passing).cache.advance 0
    (Store.get .switch (.uuid "1") after).1 ≠ (Store.get .switch (.uuid "1") after.inner).1 := by
  intro after
  have hlook : after.look .switch (.uuid "1") =
      some (.switch { uuid := "1", name := "b" }) := by
    decide +kernel
  have hinner : after.inner.tables.get? .switch (.uuid "1") =
      some (.switch { uuid := "1", name := "c" }) := by
    decide +kernel
  have hcached : (after.get .switch (.uuid "1")).1 =
      .ok (some (.switch { uuid := "1", name := "b" })) := by
    rw [Cached.get, if_pos (show isKept .switch = true from rfl), hlook]
  intro heq
  have hrows := Except.ok.inj (hcached.symm.trans (heq.trans (congrArg Except.ok hinner)))
  exact absurd hrows (by decide)

/-- The first writer gets its name into the cache, although the second has come after it. -/
theorem overlapping_writes_renamed :
    let after := (run renames withSwitch passing).cache.advance 0
    (Store.get .switch (.uuid "1") after).1 ≠ (Store.get .switch (.uuid "1") after.inner).1 ∧
      ∃ earlier i later j row, passing = earlier ++ .commit i :: later ∧
        [.commit j, .replay j, .replay i] <+ later ∧
        Puts (renames i) row ∧
        ¬ Survives (renames j) ⟨.switch, .uuid "1", row, after.now⟩ ∧
        (Store.get .switch (.uuid "1") after).1 = .ok (some row) ∧
        (Store.get .switch (.uuid "1")
          (run renames withSwitch (earlier ++ [.commit i])).cache.inner).1 = .ok (some row) := by
  intro after
  refine ⟨get_passing_ne, ?_⟩
  exact (overlapping_writes sound_withSwitch renames complete_passing 0 .switch (.uuid "1")
    (.inl ⟨"1", rfl⟩)).resolve_left get_passing_ne

/-- That all parts of two writes have been made is not enough for the cache to be right. -/
theorem not_right_of_complete :
    ¬ ∀ (c : Cached Memory), c.Sound → ∀ (writes : Fin 2 → List Operation)
      (trace : List (WritePart (Fin 2))), WritePart.Complete trace →
      ∀ (time : Nat) (table : Table) (lookup : Lookup), time < c.lifetime →
      (∃ s, lookup = .uuid s) ∨ table.hasNameIndex = true →
      let after := (run writes c trace).cache.advance time
      (Store.get table lookup after).1 = (Store.get table lookup after.inner).1 := by
  intro h
  exact get_passing_ne (h withSwitch sound_withSwitch renames passing complete_passing 0 .switch
    (.uuid "1") (by decide +kernel) (.inl ⟨"1", rfl⟩))

end Cached
end LogicalNet
