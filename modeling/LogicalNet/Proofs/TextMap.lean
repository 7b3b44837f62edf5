import LogicalNet.TextMap

/-!
# Keys and values of maps

Which keys and values a map has, in terms of its lookup, and two changes made one
after the other.
-/

namespace LogicalNet
namespace TextMap

variable {β γ : Type}

theorem contains_iff {m : TextMap β} {key : String} :
    m.contains key = true ↔ ∃ value, m.get? key = some value := by
  rw [contains, Option.isSome_iff_exists]

theorem contains_eq_false_iff {m : TextMap β} {key : String} :
    m.contains key = false ↔ m.get? key = none := by
  unfold contains
  cases m.get? key <;> simp

theorem mem_values_iff {m : TextMap β} {value : β} :
    value ∈ m.values ↔ ∃ key, m.get? key = some value := by
  unfold values
  constructor
  · intro h
    rcases List.mem_map.mp h with ⟨⟨k, v⟩, he, rfl⟩
    exact ⟨k, get?_eq_some_iff.mpr he⟩
  · intro hfound
    rcases hfound with ⟨key, h⟩
    exact List.mem_map.mpr ⟨(key, value), get?_eq_some_iff.mp h, rfl⟩

theorem get?_insert_self (m : TextMap β) (key : String) (value : β) :
    (m.insert key value).get? key = some value := by
  rw [get?_insert, if_pos rfl]

theorem get?_insert_of_ne (m : TextMap β) {key key' : String} (h : key ≠ key') (value : β) :
    (m.insert key value).get? key' = m.get? key' := by
  rw [get?_insert, if_neg h]

@[simp]
theorem get?_emptyCollection (key : String) : (∅ : TextMap β).get? key = none :=
  rfl

@[simp]
theorem entries_emptyCollection : (∅ : TextMap β).entries = [] :=
  rfl

/-! ## Many insertions -/

theorem get?_insertAll_of_forall_ne {m : TextMap β} {entries : List (String × β)} {key : String}
    (h : ∀ e ∈ entries, e.1 ≠ key) : (m.insertAll entries).get? key = m.get? key := by
  unfold insertAll
  induction entries generalizing m with
  | nil =>
      rfl
  | cons e rest ih =>
      rw [List.foldl_cons, ih fun e' he' => h e' (by simp [he']),
        get?_insert_of_ne m (h e (by simp))]

theorem get?_ofList_of_forall_ne {entries : List (String × β)} {key : String}
    (h : ∀ e ∈ entries, e.1 ≠ key) : (ofList entries).get? key = none :=
  get?_insertAll_of_forall_ne h

/-- An entry whose key does not stand again behind it is found. -/
theorem get?_insertAll_of_mem {m : TextMap β} {entries : List (String × β)} {key : String}
    {value : β} (hnodup : (entries.map Prod.fst).Nodup) (h : (key, value) ∈ entries) :
    (m.insertAll entries).get? key = some value := by
  induction entries generalizing m with
  | nil =>
      cases h
  | cons e rest ih =>
      have hkeys := List.nodup_cons.mp hnodup
      rcases List.mem_cons.mp h with rfl | hmem
      · have hother : ∀ e ∈ rest, e.1 ≠ key := by
          intro e he hkey
          exact hkeys.1 (List.mem_map.mpr ⟨e, he, hkey⟩)
        show ((m.insert key value).insertAll rest).get? key = some value
        rw [get?_insertAll_of_forall_ne hother, get?_insert_self]
      · exact ih hkeys.2 hmem

theorem get?_ofList_of_mem {entries : List (String × β)} {key : String} {value : β}
    (hnodup : (entries.map Prod.fst).Nodup) (h : (key, value) ∈ entries) :
    (ofList entries).get? key = some value :=
  get?_insertAll_of_mem hnodup h

theorem mem_of_get?_insertAll {m : TextMap β} {entries : List (String × β)} {key : String}
    {value : β} (h : (m.insertAll entries).get? key = some value) :
    m.get? key = some value ∨ (key, value) ∈ entries := by
  induction entries generalizing m with
  | nil =>
      exact .inl h
  | cons e rest ih =>
      rcases ih h with hfirst | hrest
      · rw [get?_insert] at hfirst
        split at hfirst
        · rename_i hkey
          rw [← hkey, ← Option.some.inj hfirst]
          exact .inr List.mem_cons_self
        · exact .inl hfirst
      · exact .inr (List.mem_cons_of_mem _ hrest)

theorem mem_of_get?_ofList {entries : List (String × β)} {key : String} {value : β}
    (h : (ofList entries).get? key = some value) : (key, value) ∈ entries := by
  rcases mem_of_get?_insertAll h with hempty | hmem
  · cases hempty
  · exact hmem

/-- The last of the entries with a key is the one that is found. -/
theorem get?_ofList_eq_find? (entries : List (String × β)) (key : String) :
    (ofList entries).get? key = (entries.reverse.find? fun e => e.1 = key).map Prod.snd := by
  have hall : ∀ m : TextMap β, (m.insertAll entries).get? key =
      ((entries.reverse.find? fun e => e.1 = key).map Prod.snd).or (m.get? key) := by
    induction entries with
    | nil =>
        intro m
        rfl
    | cons e rest ih =>
        intro m
        have hfirst : (m.insertAll (e :: rest)).get? key =
            ((m.insert e.1 e.2).insertAll rest).get? key := rfl
        rw [hfirst, ih, List.reverse_cons, List.find?_append, get?_insert]
        cases rest.reverse.find? fun e => e.1 = key with
        | some e' =>
            simp
        | none =>
            by_cases hkey : e.1 = key <;> simp [hkey]
  rw [ofList, hall]
  cases (entries.reverse.find? fun e => e.1 = key) <;> rfl

theorem nodup_keys (m : TextMap β) : (m.entries.map Prod.fst).Nodup := by
  rw [List.Nodup, List.pairwise_map]
  refine m.sorted.imp fun hlt heq => ?_
  rw [heq] at hlt
  exact String.lt_irrefl _ hlt

/-- The entries of a map make up the map. -/
theorem ofList_entries (m : TextMap β) : ofList m.entries = m := by
  refine ext_get? fun key => ?_
  cases h : m.get? key with
  | some value =>
      exact get?_ofList_of_mem m.nodup_keys (get?_eq_some_iff.mp h)
  | none =>
      refine get?_ofList_of_forall_ne fun e he hkey => ?_
      have hfound : m.get? e.1 = some e.2 := get?_eq_some_iff.mpr he
      rw [hkey, h] at hfound
      cases hfound

theorem get?_insertAll_entries {m n : TextMap β} {key : String} (h : n.get? key = none) :
    (m.insertAll n.entries).get? key = m.get? key := by
  apply get?_insertAll_of_forall_ne
  intro hfound he hsame'
  rcases hfound with ⟨k, v⟩
  rcases hsame' with rfl
  rw [get?_eq_some_iff.mpr he] at h
  cases h

end TextMap
end LogicalNet
