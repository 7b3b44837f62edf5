import LogicalNet.Proofs.Row.References
import LogicalNet.Proofs.Store.Effects

/-!
# Transactions that spare security groups

What a security group is stored as stands in three tables.  A transaction on the
other tables leaves these rows as they are, but that ports which it deletes go out of
the port groups that list them.
-/

namespace LogicalNet

/-- The tables of the rows that make up security groups. -/
def Table.isOfGroups : Table → Bool
  | acl | addressSet | portGroup => true
  | _ => false

namespace Tables

variable {gone : String → Prop} {ts us vs : Tables}

/-! ## Port groups that lose members -/

/-- The second row is the first without some of its members, all of them gone. -/
structure Slimmer (gone : String → Prop) (r s : Row) : Prop where
  name? : s.name? = r.name?
  acls : s.refs .acls = r.refs .acls
  subset : ∀ u ∈ s.refs .ports, u ∈ r.refs .ports
  kept : ∀ u ∈ r.refs .ports, ¬ gone u → u ∈ s.refs .ports

namespace Slimmer

variable {r s t : Row}

theorem refl (gone : String → Prop) (r : Row) : Slimmer gone r r :=
  ⟨rfl, rfl, fun _ hu => hu, fun _ hu _ => hu⟩

theorem trans (h : Slimmer gone r s) (h' : Slimmer gone s t) : Slimmer gone r t := by
  constructor
  · exact h'.name?.trans h.name?
  · exact h'.acls.trans h.acls
  · intro u hu
    exact h.subset u (h'.subset u hu)
  · intro u hu hstays
    exact h'.kept u (h.kept u hu hstays) hstays

theorem mapReferences {uuids : List String} (h : ∀ u ∈ uuids, gone u) (r : Row) :
    Slimmer gone r (r.mapReferences (List.filter (· ∉ uuids)) .ports) := by
  constructor
  · exact Row.name?_mapReferences _ _ r
  · rw [Row.refs_mapReferences_filter, if_neg (by decide)]
  · intro u hu
    rw [Row.refs_mapReferences_filter, if_pos rfl] at hu
    exact (List.mem_filter.mp hu).1
  · intro u hu hstays
    have hnot : u ∉ uuids := fun hmem => hstays (h u hmem)
    rw [Row.refs_mapReferences_filter, if_pos rfl]
    exact List.mem_filter.mpr ⟨hu, by simpa using hnot⟩

/-- Only the deletion of a port takes a member out of a port group. -/
theorem dropReferences {table : Table} {key : String} (htable : table.isOfGroups = false)
    (hgone : table = .switchPort → gone key) {r : Row} (hr : r.table = .portGroup) :
    Slimmer gone r (dropReferences table key r) := by
  constructor
  · simp
  · rw [refs_dropReferences, hr, if_neg]
    intro htarget
    cases htarget
    cases htable
  · intro u hu
    rw [refs_dropReferences] at hu
    split at hu
    · exact (List.mem_filter.mp hu).1
    · exact hu
  · intro u hu hstays
    rw [refs_dropReferences]
    split
    · rename_i htarget
      rw [hr] at htarget
      cases htarget
      have hne : u ≠ key := by
        intro hsame
        rw [hsame] at hstays
        exact hstays (hgone rfl)
      exact List.mem_filter.mpr ⟨hu, by simpa using hne⟩
    · exact hu

end Slimmer

/-- The rows of security groups are the same, but for members that are gone. -/
structure Spared (gone : String → Prop) (ts us : Tables) : Prop where
  addressSets : ∀ k, (us .addressSet).get? k = (ts .addressSet).get? k
  acls : ∀ k, (us .acl).get? k = (ts .acl).get? k
  portGroups : ∀ k, Option.Rel (Slimmer gone) ((ts .portGroup).get? k) ((us .portGroup).get? k)

theorem rel_refl (gone : String → Prop) (r : Option Row) : Option.Rel (Slimmer gone) r r := by
  cases r with
  | none =>
      exact .none
  | some r =>
      exact .some (.refl gone r)

namespace Spared

theorem of_rows (h : ∀ t k, t.isOfGroups = true → (us t).get? k = (ts t).get? k) :
    Spared gone ts us := by
  constructor
  · intro k
    exact h .addressSet k rfl
  · intro k
    exact h .acl k rfl
  · intro k
    rw [h .portGroup k rfl]
    exact rel_refl gone _

theorem refl (gone : String → Prop) (ts : Tables) : Spared gone ts ts :=
  of_rows fun _ _ _ => rfl

theorem trans (h : Spared gone ts us) (h' : Spared gone us vs) : Spared gone ts vs := by
  constructor
  · intro k
    exact (h'.addressSets k).trans (h.addressSets k)
  · intro k
    exact (h'.acls k).trans (h.acls k)
  · intro k
    have hfirst := h.portGroups k
    have hsecond := h'.portGroups k
    revert hfirst hsecond
    cases (ts .portGroup).get? k <;> cases (us .portGroup).get? k <;>
      cases (vs .portGroup).get? k <;> intro hfirst hsecond <;> cases hfirst <;> cases hsecond
    · exact .none
    · rename_i hrs hst
      exact .some (hrs.trans hst)

/-- A port group that is there was there before. -/
theorem exists_slimmer (h : Spared gone ts us) {k : String} {s : Row}
    (hs : (us .portGroup).get? k = some s) :
    ∃ r, (ts .portGroup).get? k = some r ∧ Slimmer gone r s := by
  have hrel := h.portGroups k
  rw [hs] at hrel
  cases hr : (ts .portGroup).get? k with
  | none =>
      rw [hr] at hrel
      cases hrel
  | some r =>
      rw [hr] at hrel
      cases hrel with
      | some hslimmer =>
          exact ⟨r, rfl, hslimmer⟩

/-- A port group stays. -/
theorem exists_kept (h : Spared gone ts us) {k : String} {r : Row}
    (hr : (ts .portGroup).get? k = some r) :
    ∃ s, (us .portGroup).get? k = some s ∧ Slimmer gone r s := by
  have hrel := h.portGroups k
  rw [hr] at hrel
  cases hs : (us .portGroup).get? k with
  | none =>
      rw [hs] at hrel
      cases hrel
  | some s =>
      rw [hs] at hrel
      cases hrel with
      | some hslimmer =>
          exact ⟨s, rfl, hslimmer⟩

theorem remove (hts : ts.WellFormed) {table : Table} {key : String}
    (htable : table.isOfGroups = false) (hgone : table = .switchPort → gone key) :
    Spared gone ts (ts.remove table key) := by
  have hsame : ∀ t k, t.isOfGroups = true → (∀ c : RefColumn, c.target? t = none) →
      (ts.remove table key t).get? k = (ts t).get? k := by
    intro t k ht hcolumns
    rw [get?_remove, if_neg]
    · cases hr : (ts t).get? k with
      | none =>
          rfl
      | some r =>
          rw [Option.map_some, dropReferences_of_not_refers]
          intro c
          rw [hts.table_eq hr, hcolumns]
          simp
    · intro htk
      rw [htk.1, htable] at ht
      cases ht
  constructor
  · intro k
    exact hsame .addressSet k rfl fun c => by cases c <;> rfl
  · intro k
    exact hsame .acl k rfl fun c => by cases c <;> rfl
  · intro k
    rw [get?_remove, if_neg]
    · cases hr : (ts .portGroup).get? k with
      | none =>
          exact .none
      | some r =>
          exact .some (.dropReferences htable hgone (hts.table_eq hr))
    · intro htk
      rw [← htk.1] at htable
      cases htable

end Spared

/-! ## Operations -/

/-- The operation is on another table, or takes members that are gone out of a port group. -/
inductive Spares (gone : String → Prop) : Operation → Prop where
  | aside {op : Operation} (htable : op.table.isOfGroups = false)
      (hgone : ∀ lookup, op = .delete .switchPort lookup → ∃ u, lookup = .uuid u ∧ gone u) :
      Spares gone op
  | leave {lookup : Lookup} {uuids : List String} (h : ∀ u ∈ uuids, gone u) :
      Spares gone (.removeRefs .portGroup lookup .ports uuids)

theorem Spares.effect (hts : ts.WellFormed) {op : Operation} (h : Spares gone op)
    (hop : Effect ts op us) : Spared gone ts us := by
  cases h with
  | aside htable hgone =>
      have hother : ∀ t : Table, t.isOfGroups = true → ∀ table : Table,
          table.isOfGroups = false → t ≠ table := by
        intro t ht table htable' hsame
        rw [hsame, htable'] at ht
        cases ht
      cases hop with
      | insert _ _ _ =>
          apply Spared.of_rows
          intro t k ht
          rw [get?_put, if_neg fun htk => hother t ht _ htable htk.1]
      | update _ _ _ =>
          apply Spared.of_rows
          intro t k ht
          rw [get?_put, if_neg fun htk => hother t ht _ htable htk.1]
      | @delete table lookup key hkey =>
          apply Spared.remove hts htable
          intro hport
          subst hport
          rcases hgone lookup rfl with ⟨u, rfl, hu⟩
          rw [eq_of_findKey?_uuid hkey]
          exact hu
      | deleteNone _ =>
          exact .refl gone ts
      | removeRefsNone _ _ =>
          exact .refl gone ts
      | _ =>
          apply Spared.of_rows
          intro t k ht
          rw [get?_setRow, if_neg fun htk => hother t ht _ htable htk.1]
  | leave huuids =>
      cases hop with
      | @removeRefs _ _ _ _ key row _ _ hrow =>
          constructor
          · intro k
            rw [get?_setRow, if_neg (by simp)]
          · intro k
            rw [get?_setRow, if_neg (by simp)]
          · intro k
            rw [get?_setRow]
            split
            · rename_i htk
              rw [htk.2, hrow]
              exact .some (.mapReferences huuids row)
            · exact rel_refl gone _
      | removeRefsNone _ _ =>
          exact .refl gone ts

theorem spared_of_applyAll (hts : ts.WellFormed) {ops : List Operation}
    (h : ∀ op ∈ ops, Spares gone op) (hops : ts.applyAll ops = .ok us) : Spared gone ts us := by
  induction ops generalizing ts with
  | nil =>
      cases hops
      exact .refl gone _
  | cons op rest ih =>
      rcases applyAll_cons_eq_ok_iff.mp hops with ⟨vs, hop, hrest⟩
      have hfirst := (h op (by simp)).effect hts (effect_of_apply hts hop)
      exact hfirst.trans (ih (hts.apply hop) (fun op' hop' => h op' (by simp [hop'])) hrest)

end Tables
end LogicalNet
