import LogicalNet.Client.Request
import LogicalNet.Proofs.Store.Effects

/-!
# How plans end

A plan only reads, so what it ends with goes by the tables and by the identifiers
that it draws.  `Ends` says so without a store and without a source of identifiers,
and the lemmas on the building blocks of plans say what each of them ended with.
-/

namespace LogicalNet
namespace Plan

variable {α β : Type} {ts : Tables} {us : List String}

/-- On these tables the plan draws the identifiers, and ends with the value. -/
inductive Ends (ts : Tables) : Plan α → List String → α → Prop where
  | done (a : α) : Ends ts (done a) [] a
  | get {table : Table} {lookup : Lookup} {next : Option Row → Plan α} {us : List String} {a : α}
      (h : Ends ts (next (ts.get? table lookup)) us a) : Ends ts (get table lookup next) us a
  | list {table : Table} {next : List Row → Plan α} {us : List String} {a : α}
      (h : Ends ts (next (ts.list table)) us a) : Ends ts (list table next) us a
  | find {table : Table} {key value : String} {next : List Row → Plan α} {us : List String} {a : α}
      (h : Ends ts (next (ts.find table key value)) us a) : Ends ts (find table key value next) us a
  | uuid {next : String → Plan α} {us : List String} {a : α} (u : String)
      (h : Ends ts (next u) us a) : Ends ts (uuid next) (u :: us) a
  | mac {next : Mac → Plan α} {us : List String} {a : α} (m : Mac)
      (h : Ends ts (next m) us a) : Ends ts (mac next) us a

namespace Ends

/-! ## Sequences -/

theorem of_pure {a b : α} (h : (pure a : Plan α).Ends ts us b) : us = [] ∧ b = a := by
  cases h
  exact ⟨rfl, rfl⟩

theorem of_bind {p : Plan α} {f : α → Plan β} {b : β} (h : (p >>= f).Ends ts us b) :
    ∃ vs a ws, us = vs ++ ws ∧ p.Ends ts vs a ∧ (f a).Ends ts ws b := by
  change (p.bind f).Ends ts us b at h
  induction p generalizing us with
  | done a =>
      exact ⟨[], a, us, rfl, .done a, h⟩
  | fail e =>
      cases h
  | get table lookup next ih =>
      cases h with
      | get h =>
          rcases ih _ h with ⟨vs, a, ws, rfl, hp, hf⟩
          exact ⟨vs, a, ws, rfl, .get hp, hf⟩
  | list table next ih =>
      cases h with
      | list h =>
          rcases ih _ h with ⟨vs, a, ws, rfl, hp, hf⟩
          exact ⟨vs, a, ws, rfl, .list hp, hf⟩
  | find table key value next ih =>
      cases h with
      | find h =>
          rcases ih _ h with ⟨vs, a, ws, rfl, hp, hf⟩
          exact ⟨vs, a, ws, rfl, .find hp, hf⟩
  | uuid next ih =>
      cases h with
      | uuid u h =>
          rcases ih _ h with ⟨vs, a, ws, rfl, hp, hf⟩
          exact ⟨u :: vs, a, ws, rfl, .uuid u hp, hf⟩
  | mac next ih =>
      cases h with
      | mac m h =>
          rcases ih _ h with ⟨vs, a, ws, rfl, hp, hf⟩
          exact ⟨vs, a, ws, rfl, .mac m hp, hf⟩

theorem of_map {p : Plan α} {f : α → β} {b : β} (h : (f <$> p).Ends ts us b) :
    ∃ a, p.Ends ts us a ∧ b = f a := by
  rcases of_bind (f := fun a => pure (f a)) h with ⟨vs, a, ws, rfl, hp, hdone⟩
  rcases of_pure hdone with ⟨rfl, rfl⟩
  rw [List.append_nil]
  exact ⟨a, hp, rfl⟩

theorem of_input {x : Except InputFault α} {a : α} (h : (liftM x : Plan α).Ends ts us a) :
    us = [] ∧ x = .ok a := by
  cases x with
  | error e =>
      cases h
  | ok a =>
      cases h
      exact ⟨rfl, rfl⟩

/-- It is enough to know for every element which results it gives. -/
theorem of_gather {f : α → Plan (List β)} {gives : α → β → Prop} {as : List α} {bs : List β}
    (hf : ∀ a vs cs, (f a).Ends ts vs cs → vs = [] ∧ ∀ b, b ∈ cs ↔ gives a b)
    (h : (gather f as).Ends ts us bs) : us = [] ∧ ∀ b, b ∈ bs ↔ ∃ a ∈ as, gives a b := by
  induction as generalizing us bs with
  | nil =>
      cases h
      simp
  | cons a rest ih =>
      rcases of_bind h with ⟨vs, first, ws, rfl, hfirst, hrest⟩
      rcases of_bind hrest with ⟨vs', later, ws', rfl, hlater, hdone⟩
      rcases of_pure hdone with ⟨rfl, rfl⟩
      rcases hf a vs first hfirst with ⟨rfl, hgives⟩
      rcases ih hlater with ⟨rfl, hmore⟩
      constructor
      · rfl
      · intro b
        rw [List.mem_append, hgives, hmore]
        simp

/-! ## Drawing -/

theorem of_drawUuid {u : String} (h : drawUuid.Ends ts us u) : us = [u] := by
  cases h with
  | uuid v h =>
      cases h
      rfl

theorem of_drawUuids {n : Nat} {vs : List String} (h : (drawUuids n).Ends ts us vs) :
    us = vs ∧ vs.length = n := by
  induction n generalizing us vs with
  | zero =>
      cases h
      exact ⟨rfl, rfl⟩
  | succ n ih =>
      rcases of_bind h with ⟨us₁, first, us₂, rfl, hfirst, hrest⟩
      rcases of_bind hrest with ⟨us₃, rest, us₄, rfl, hlater, hdone⟩
      rcases of_pure hdone with ⟨rfl, rfl⟩
      rcases ih hlater with ⟨rfl, rfl⟩
      rw [of_drawUuid hfirst]
      simp

end Ends
end Plan

/-! ## Reading -/

/-- A row of one kind is read back as it was. -/
class LawfulRowType (ρ : Type) [RowType ρ] : Prop where
  toRow_of_ofRow? : ∀ {r : Row} {a : ρ}, RowType.ofRow? r = some a → r = RowType.toRow a

namespace LawfulRowType

instance : LawfulRowType Switch where
  toRow_of_ofRow? {r _} h := by cases r <;> cases h; rfl

instance : LawfulRowType SwitchPort where
  toRow_of_ofRow? {r _} h := by cases r <;> cases h; rfl

instance : LawfulRowType Router where
  toRow_of_ofRow? {r _} h := by cases r <;> cases h; rfl

instance : LawfulRowType RouterPort where
  toRow_of_ofRow? {r _} h := by cases r <;> cases h; rfl

instance : LawfulRowType StaticRoute where
  toRow_of_ofRow? {r _} h := by cases r <;> cases h; rfl

instance : LawfulRowType Acl where
  toRow_of_ofRow? {r _} h := by cases r <;> cases h; rfl

instance : LawfulRowType AddressSet where
  toRow_of_ofRow? {r _} h := by cases r <;> cases h; rfl

instance : LawfulRowType PortGroup where
  toRow_of_ofRow? {r _} h := by cases r <;> cases h; rfl

instance : LawfulRowType DhcpOptions where
  toRow_of_ofRow? {r _} h := by cases r <;> cases h; rfl

instance : LawfulRowType NatRule where
  toRow_of_ofRow? {r _} h := by cases r <;> cases h; rfl

instance : LawfulRowType LoadBalancer where
  toRow_of_ofRow? {r _} h := by cases r <;> cases h; rfl

variable {ρ : Type} [RowType ρ] [LawfulRowType ρ]

theorem eq_toRow {r : Row} {a : ρ} (h : RowType.ofRow ρ r = .ok a) : r = RowType.toRow a := by
  unfold RowType.ofRow at h
  split at h
  · rename_i b hb
    cases h
    exact toRow_of_ofRow? hb
  · cases h

theorem eq_map_toRow {rs : List Row} {as : List ρ} (h : RowType.ofRows ρ rs = .ok as) :
    rs = as.map RowType.toRow := by
  induction rs generalizing as with
  | nil =>
      cases h
      rfl
  | cons r rest ih =>
      rw [RowType.ofRows] at h
      split at h
      · cases h
      · rename_i a ha
        split at h
        · cases h
        · rename_i later hlater
          cases h
          rw [List.map_cons, ← eq_toRow ha, ← ih hlater]

end LawfulRowType

namespace Plan.Ends

variable {ts : Tables} {us : List String} {ρ : Type} [RowType ρ] [LawfulRowType ρ]

theorem of_fetch {lookup : Lookup} {r : Option ρ} (h : (fetch ρ lookup).Ends ts us r) :
    us = [] ∧ ts.get? (RowType.table ρ) lookup = r.map RowType.toRow := by
  cases h with
  | get h =>
      dsimp only at h
      split at h
      · rename_i hnone
        cases h
        exact ⟨rfl, hnone⟩
      · rename_i row hrow
        split at h
        · rename_i a ha
          cases h
          rw [hrow, LawfulRowType.eq_toRow ha]
          exact ⟨rfl, rfl⟩
        · cases h

theorem of_require {lookup : Lookup} {r : ρ} (h : (require ρ lookup).Ends ts us r) :
    us = [] ∧ ts.get? (RowType.table ρ) lookup = some (RowType.toRow r) := by
  rcases of_bind h with ⟨vs, found, ws, rfl, hfetch, hrest⟩
  rcases of_fetch hfetch with ⟨rfl, hget⟩
  cases found with
  | none =>
      cases hrest
  | some a =>
      cases hrest
      exact ⟨rfl, hget⟩

theorem of_requireParent {parent child : String} {r : ρ}
    (h : (requireParent ρ parent child).Ends ts us r) :
    us = [] ∧ ts.get? (RowType.table ρ) (.name parent) = some (RowType.toRow r) := by
  rcases of_bind h with ⟨vs, found, ws, rfl, hfetch, hrest⟩
  rcases of_fetch hfetch with ⟨rfl, hget⟩
  cases found with
  | none =>
      cases hrest
  | some a =>
      cases hrest
      exact ⟨rfl, hget⟩

theorem of_listAll {rs : List ρ} (h : (listAll ρ).Ends ts us rs) :
    us = [] ∧ ts.list (RowType.table ρ) = rs.map RowType.toRow := by
  cases h with
  | list h =>
      dsimp only at h
      split at h
      · rename_i as has
        cases h
        exact ⟨rfl, LawfulRowType.eq_map_toRow has⟩
      · cases h

theorem of_findAll {key value : String} {rs : List ρ}
    (h : (findAll ρ key value).Ends ts us rs) :
    us = [] ∧ ts.find (RowType.table ρ) key value = rs.map RowType.toRow := by
  cases h with
  | find h =>
      dsimp only at h
      split at h
      · rename_i as has
        cases h
        exact ⟨rfl, LawfulRowType.eq_map_toRow has⟩
      · cases h

/-! ## Calls that only read -/

theorem of_answer {α : Type} {p : Plan α} {t : Transaction α} (h : (answer p).Ends ts us t) :
    t.operations = [] := by
  rcases of_bind h with ⟨vs, a, ws, rfl, _, hwrite⟩
  rcases of_pure hwrite with ⟨_, rfl⟩
  rfl

end Plan.Ends
end LogicalNet
