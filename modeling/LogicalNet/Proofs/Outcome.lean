import LogicalNet.Fault

/-!
# Steps that may fail

Two steps in sequence succeed exactly if the first succeeds and the second succeeds
with what it gave.
-/

namespace LogicalNet
namespace Outcome

variable {ε α β : Type}

theorem bind_eq_ok_iff {x : Except ε α} {f : α → Except ε β} {b : β} :
    x >>= f = .ok b ↔ ∃ a, x = .ok a ∧ f a = .ok b := by
  cases x with
  | error e =>
      constructor
      · intro h
        cases h
      · intro hfound
        rcases hfound with ⟨a, h, _⟩
        cases h
  | ok a =>
      constructor
      · intro h
        exact ⟨a, rfl, h⟩
      · intro hfound
        rcases hfound with ⟨a', h, hf⟩
        cases h
        exact hf

theorem exists_bind_eq_ok_iff {x : Except ε α} {f : α → Except ε β}
    (hf : ∀ a, ∃ b, f a = .ok b) : (∃ b, x >>= f = .ok b) ↔ ∃ a, x = .ok a := by
  constructor
  · intro hfound
    rcases hfound with ⟨b, h⟩
    rcases bind_eq_ok_iff.mp h with ⟨a, ha, _⟩
    exact ⟨a, ha⟩
  · intro hfound
    rcases hfound with ⟨a, ha⟩
    rcases hf a with ⟨b, hb⟩
    exact ⟨b, bind_eq_ok_iff.mpr ⟨a, ha, hb⟩⟩

theorem eq_ok_of_toOption {x : Except ε α} {a : α} (h : x.toOption = some a) : x = .ok a := by
  cases x with
  | error e =>
      cases h
  | ok b =>
      exact congrArg Except.ok (Option.some.inj h)

theorem exists_eq_error_of_toOption {x : Except ε α} (h : x.toOption = none) :
    ∃ e, x = .error e := by
  cases x with
  | error e =>
      exact ⟨e, rfl⟩
  | ok b =>
      cases h

/-! ## Causes of failure

What succeeds does so whichever cause its failure would have.
-/

-- A plain proof by reflexivity would be unfolded together with the steps around it.
theorem lift_read (a : α) : (liftM (.ok a : Except ReadFault α) : Except StoreError α) = .ok a :=
  (rfl)

theorem lift_input (a : α) : (liftM (.ok a : Except InputFault α) : Except StoreError α) = .ok a :=
  (rfl)

theorem bind_ok (a : α) (f : α → Except StoreError β) : (.ok a >>= f) = f a :=
  (rfl)

end Outcome
end LogicalNet
