/-!
# Cutting and joining

A text is cut at a separator into its pieces, or in two at the first or the last
separator.  Joining the pieces with the separator gives the text back, and each
cut gives back the text it was made from.
-/

namespace LogicalNet
namespace Text

/-- The pieces between the separators; `n` separators make `n + 1` pieces. -/
def pieces (sep : Char) : List Char → List (List Char)
  | [] => [[]]
  | c :: rest =>
      if c = sep then
        [] :: pieces sep rest
      else
        match pieces sep rest with
        | p :: ps => (c :: p) :: ps
        | [] => [[c]]

/-- What stands before and after the first separator. -/
def cutFirst? (sep : Char) : List Char → Option (List Char × List Char)
  | [] => none
  | c :: rest =>
      if c = sep then
        some ([], rest)
      else
        (cutFirst? sep rest).map fun p => (c :: p.1, p.2)

/-- What stands before and after the last separator. -/
def cutLast? (sep : Char) (s : List Char) : Option (List Char × List Char) :=
  (cutFirst? sep s.reverse).map fun p => (p.2.reverse, p.1.reverse)

/-- The texts one after another with the separator between them. -/
def join (sep : String) (parts : List String) : String :=
  String.ofList (List.intercalate sep.toList (parts.map String.toList))

theorem pieces_ne_nil (sep : Char) (s : List Char) : pieces sep s ≠ [] := by
  cases s with
  | nil =>
      simp [pieces]
  | cons c rest =>
      rw [pieces]
      split
      · simp
      · split <;> simp

theorem intercalate_pieces (sep : Char) (s : List Char) :
    List.intercalate [sep] (pieces sep s) = s := by
  induction s with
  | nil =>
      simp [pieces, List.intercalate]
  | cons c rest ih =>
      rw [pieces]
      cases hp : pieces sep rest with
      | nil =>
          exact absurd hp (pieces_ne_nil sep rest)
      | cons p ps =>
          rw [hp] at ih
          by_cases h : c = sep
          · subst h
            simp only [if_true, List.intercalate, List.intersperse_cons_cons, List.flatten_cons] at ih ⊢
            rw [ih]
            simp
          · simp only [h, if_false]
            cases ps with
            | nil =>
                simp [List.intercalate] at ih ⊢
                exact ih
            | cons q qs =>
                simp [List.intercalate] at ih ⊢
                exact ih

theorem not_mem_of_mem_pieces {sep : Char} {s p : List Char} (h : p ∈ pieces sep s) :
    sep ∉ p := by
  induction s generalizing p with
  | nil =>
      simp [pieces] at h
      simp [h]
  | cons c rest ih =>
      rw [pieces] at h
      cases hp : pieces sep rest with
      | nil =>
          exact absurd hp (pieces_ne_nil sep rest)
      | cons q qs =>
          rw [hp] at h ih
          by_cases hc : c = sep
          · simp only [hc, if_true, List.mem_cons] at h
            rcases h with h | h
            · simp [h]
            · exact ih (by simpa using h)
          · simp only [hc, if_false, List.mem_cons] at h
            rcases h with h | h
            · subst h
              have := ih (p := q) (by simp)
              simp [this, Ne.symm hc]
            · exact ih (by simp [h])

theorem cutFirst?_eq_some {sep : Char} {s a b : List Char}
    (h : cutFirst? sep s = some (a, b)) : s = a ++ sep :: b ∧ sep ∉ a := by
  induction s generalizing a b with
  | nil =>
      simp [cutFirst?] at h
  | cons c rest ih =>
      rw [cutFirst?] at h
      by_cases hc : c = sep
      · simp only [hc, if_true, Option.some.injEq, Prod.mk.injEq] at h
        obtain ⟨rfl, rfl⟩ := h
        simp [hc]
      · simp only [hc, if_false, Option.map_eq_some_iff] at h
        obtain ⟨⟨a', b'⟩, h', heq⟩ := h
        simp only [Prod.mk.injEq] at heq
        obtain ⟨rfl, rfl⟩ := heq
        obtain ⟨h1, h2⟩ := ih h'
        refine ⟨by rw [h1]; rfl, ?_⟩
        simp [h2, Ne.symm hc]

theorem cutFirst?_eq_none_iff {sep : Char} {s : List Char} :
    cutFirst? sep s = none ↔ sep ∉ s := by
  induction s with
  | nil =>
      simp [cutFirst?]
  | cons c rest ih =>
      rw [cutFirst?]
      by_cases hc : c = sep
      · simp [hc]
      · simp [hc, ih, Ne.symm hc]

theorem cutFirst?_append {sep : Char} {a : List Char} (h : sep ∉ a) (b : List Char) :
    cutFirst? sep (a ++ sep :: b) = some (a, b) := by
  induction a with
  | nil =>
      simp [cutFirst?]
  | cons c rest ih =>
      simp only [List.mem_cons, not_or] at h
      simp [cutFirst?, Ne.symm h.1, ih h.2]

theorem cutLast?_append {sep : Char} {b : List Char} (h : sep ∉ b) (a : List Char) :
    cutLast? sep (a ++ sep :: b) = some (a, b) := by
  have : (a ++ sep :: b).reverse = b.reverse ++ sep :: a.reverse := by
    simp
  rw [cutLast?, this, cutFirst?_append (by simpa using h)]
  simp

end Text
end LogicalNet
