/-!
# Maps keyed by text

A finite map from texts, kept as the list of its entries in strictly increasing
order of their keys.  The order is part of the type, so two maps with the same
entries are the same value (`TextMap.ext_get?`) and a listing needs no sorting.
Each operation is described by what it does to `get?`.
-/

namespace LogicalNet

/-- Entries in strictly increasing order of their keys. -/
structure TextMap (β : Type) where
  entries : List (String × β)
  sorted : entries.Pairwise fun a b => a.1 < b.1
  deriving DecidableEq

namespace TextMap

variable {β γ : Type}

def empty : TextMap β where
  entries := []
  sorted := List.Pairwise.nil

instance : Inhabited (TextMap β) := ⟨empty⟩

instance : EmptyCollection (TextMap β) := ⟨empty⟩

def isEmpty (m : TextMap β) : Bool :=
  m.entries.isEmpty

def keys (m : TextMap β) : List String :=
  m.entries.map Prod.fst

def values (m : TextMap β) : List β :=
  m.entries.map Prod.snd

/-! ## Looking up -/

def findEntry (key : String) : List (String × β) → Option β
  | [] => none
  | (k, v) :: rest => if k = key then some v else findEntry key rest

def get? (m : TextMap β) (key : String) : Option β :=
  findEntry key m.entries

def contains (m : TextMap β) (key : String) : Bool :=
  (m.get? key).isSome

/-! ## Changing -/

def insertEntry (key : String) (value : β) : List (String × β) → List (String × β)
  | [] => [(key, value)]
  | (k, v) :: rest =>
      if key < k then
        (key, value) :: (k, v) :: rest
      else if k = key then
        (key, value) :: rest
      else
        (k, v) :: insertEntry key value rest

theorem mem_insertEntry {key : String} {value : β} {entries : List (String × β)}
    {e : String × β} (h : e ∈ insertEntry key value entries) :
    e = (key, value) ∨ e ∈ entries := by
  induction entries with
  | nil =>
      simpa [insertEntry] using h
  | cons head rest ih =>
      obtain ⟨k, v⟩ := head
      rw [insertEntry] at h
      split at h
      · simpa using h
      · split at h
        · rcases List.mem_cons.mp h with h | h
          · exact Or.inl h
          · exact Or.inr (List.mem_cons_of_mem _ h)
        · rcases List.mem_cons.mp h with h | h
          · exact Or.inr (by simp [h])
          · rcases ih h with h | h
            · exact Or.inl h
            · exact Or.inr (List.mem_cons_of_mem _ h)

theorem lt_of_not_lt_of_ne {a b : String} (h : ¬ a < b) (hne : b ≠ a) : b < a := by
  apply Decidable.byContradiction
  intro hba
  exact hne (String.le_antisymm (String.not_lt.mp h) (String.not_lt.mp hba))

theorem pairwise_insertEntry (key : String) (value : β) (entries : List (String × β))
    (h : entries.Pairwise fun a b => a.1 < b.1) :
    (insertEntry key value entries).Pairwise fun a b => a.1 < b.1 := by
  induction entries with
  | nil =>
      simp [insertEntry]
  | cons head rest ih =>
      obtain ⟨k, v⟩ := head
      have hrest := List.pairwise_cons.mp h
      rw [insertEntry]
      split
      · next hlt =>
          refine List.pairwise_cons.mpr ⟨fun e he => ?_, h⟩
          rcases List.mem_cons.mp he with he | he
          · subst he
            exact hlt
          · exact String.lt_trans hlt (hrest.1 e he)
      · next hnlt =>
          split
          · next heq =>
              subst heq
              exact List.pairwise_cons.mpr ⟨fun e he => hrest.1 e he, hrest.2⟩
          · next hne =>
              refine List.pairwise_cons.mpr ⟨fun e he => ?_, ih hrest.2⟩
              rcases mem_insertEntry he with he | he
              · subst he
                exact lt_of_not_lt_of_ne hnlt hne
              · exact hrest.1 e he

/-- The entry is added, or takes the place of the one with the same key. -/
def insert (m : TextMap β) (key : String) (value : β) : TextMap β where
  entries := insertEntry key value m.entries
  sorted := pairwise_insertEntry key value m.entries m.sorted

def erase (m : TextMap β) (key : String) : TextMap β where
  entries := m.entries.filter fun e => e.1 ≠ key
  sorted := m.sorted.filter _

theorem pairwise_map_snd (f : β → γ) (entries : List (String × β))
    (h : entries.Pairwise fun a b => a.1 < b.1) :
    (entries.map fun e => (e.1, f e.2)).Pairwise fun a b => a.1 < b.1 := by
  simpa [List.pairwise_map] using h

/-- The same keys with changed values. -/
def mapValues (f : β → γ) (m : TextMap β) : TextMap γ where
  entries := m.entries.map fun e => (e.1, f e.2)
  sorted := pairwise_map_snd f m.entries m.sorted

/-- The entries one after another; a later entry with the same key wins. -/
def insertAll (m : TextMap β) (entries : List (String × β)) : TextMap β :=
  entries.foldl (fun acc e => acc.insert e.1 e.2) m

def ofList (entries : List (String × β)) : TextMap β :=
  empty.insertAll entries

/-! ## What the operations do to a lookup -/

theorem findEntry_insertEntry (key key' : String) (value : β) (entries : List (String × β))
    (h : entries.Pairwise fun a b => a.1 < b.1) :
    findEntry key' (insertEntry key value entries) =
      if key = key' then some value else findEntry key' entries := by
  induction entries with
  | nil =>
      simp [insertEntry, findEntry]
  | cons head rest ih =>
      obtain ⟨k, v⟩ := head
      have hrest := List.pairwise_cons.mp h
      rw [insertEntry]
      split
      · simp [findEntry]
      · split
        · next heq =>
            subst heq
            by_cases hk : k = key' <;> simp [findEntry, hk]
        · next hne =>
            by_cases hk : k = key'
            · subst hk
              simp [findEntry, Ne.symm hne]
            · simp [findEntry, hk, ih hrest.2]

theorem get?_insert (m : TextMap β) (key key' : String) (value : β) :
    (m.insert key value).get? key' = if key = key' then some value else m.get? key' :=
  findEntry_insertEntry key key' value m.entries m.sorted

theorem findEntry_filter_ne (key key' : String) (entries : List (String × β)) :
    findEntry key' (entries.filter fun e => e.1 ≠ key) =
      if key = key' then none else findEntry key' entries := by
  induction entries with
  | nil =>
      simp [findEntry]
  | cons head rest ih =>
      obtain ⟨k, v⟩ := head
      by_cases hk : k = key
      · subst hk
        simp only [ne_eq, not_true, decide_false, Bool.false_eq_true, not_false_eq_true,
          List.filter_cons_of_neg]
        rw [ih]
        by_cases hk' : k = key' <;> simp [findEntry, hk']
      · simp only [List.filter_cons, ne_eq, hk, not_false_eq_true, decide_true, if_true,
          findEntry]
        rw [ih]
        by_cases hk' : k = key'
        · subst hk'
          simp [Ne.symm hk]
        · simp [hk']

theorem get?_erase (m : TextMap β) (key key' : String) :
    (m.erase key).get? key' = if key = key' then none else m.get? key' :=
  findEntry_filter_ne key key' m.entries

theorem findEntry_map_snd (f : β → γ) (key : String) (entries : List (String × β)) :
    findEntry key (entries.map fun e => (e.1, f e.2)) = (findEntry key entries).map f := by
  induction entries with
  | nil =>
      rfl
  | cons head rest ih =>
      by_cases hk : head.1 = key <;> simp [findEntry, hk, ih]

theorem get?_mapValues (f : β → γ) (m : TextMap β) (key : String) :
    (m.mapValues f).get? key = (m.get? key).map f :=
  findEntry_map_snd f key m.entries

theorem get?_empty (key : String) : (empty : TextMap β).get? key = none :=
  rfl

theorem findEntry_eq_some_of_mem {key : String} {value : β} {entries : List (String × β)}
    (h : entries.Pairwise fun a b => a.1 < b.1) (hmem : (key, value) ∈ entries) :
    findEntry key entries = some value := by
  induction entries with
  | nil =>
      simp at hmem
  | cons head rest ih =>
      obtain ⟨k, v⟩ := head
      have hrest := List.pairwise_cons.mp h
      rcases List.mem_cons.mp hmem with heq | hmem
      · simp only [Prod.mk.injEq] at heq
        simp [findEntry, heq.1, heq.2]
      · have hlt : k < key := hrest.1 _ hmem
        have hne : k ≠ key := by
          intro he
          subst he
          exact String.lt_irrefl _ hlt
        simp [findEntry, hne, ih hrest.2 hmem]

theorem mem_of_findEntry_eq_some {key : String} {value : β} {entries : List (String × β)}
    (h : findEntry key entries = some value) : (key, value) ∈ entries := by
  induction entries with
  | nil =>
      simp [findEntry] at h
  | cons head rest ih =>
      obtain ⟨k, v⟩ := head
      rw [findEntry] at h
      split at h
      · next hk =>
          simp only [Option.some.injEq] at h
          simp [hk, h]
      · exact List.mem_cons_of_mem _ (ih h)

theorem get?_eq_some_iff {m : TextMap β} {key : String} {value : β} :
    m.get? key = some value ↔ (key, value) ∈ m.entries :=
  ⟨mem_of_findEntry_eq_some, findEntry_eq_some_of_mem m.sorted⟩

/-! ## Equality -/

theorem entries_eq_of_mem_iff {s t : List (String × β)}
    (hs : s.Pairwise fun a b => a.1 < b.1) (ht : t.Pairwise fun a b => a.1 < b.1)
    (h : ∀ e, e ∈ s ↔ e ∈ t) : s = t := by
  induction s generalizing t with
  | nil =>
      cases t with
      | nil =>
          rfl
      | cons e rest =>
          exact absurd ((h e).mpr (by simp)) (by simp)
  | cons a s ih =>
      cases t with
      | nil =>
          exact absurd ((h a).mp (by simp)) (by simp)
      | cons b t =>
          have hs' := List.pairwise_cons.mp hs
          have ht' := List.pairwise_cons.mp ht
          have hab : a = b := by
            rcases List.mem_cons.mp ((h a).mp (by simp)) with hab | hat
            · exact hab
            · rcases List.mem_cons.mp ((h b).mpr (by simp)) with hba | hbs
              · exact hba.symm
              · exact absurd (String.lt_trans (ht'.1 a hat) (hs'.1 b hbs)) (String.lt_irrefl _)
          subst hab
          congr 1
          refine ih hs'.2 ht'.2 fun e => ⟨fun he => ?_, fun he => ?_⟩
          · rcases List.mem_cons.mp ((h e).mp (List.mem_cons_of_mem _ he)) with hea | het
            · subst hea
              exact absurd (hs'.1 e he) (String.lt_irrefl _)
            · exact het
          · rcases List.mem_cons.mp ((h e).mpr (List.mem_cons_of_mem _ he)) with hea | hes
            · subst hea
              exact absurd (ht'.1 e he) (String.lt_irrefl _)
            · exact hes

/-- Two maps that answer every lookup alike are equal. -/
theorem ext_get? {m n : TextMap β} (h : ∀ key, m.get? key = n.get? key) : m = n := by
  obtain ⟨s, hs⟩ := m
  obtain ⟨t, ht⟩ := n
  have hst : s = t := by
    refine entries_eq_of_mem_iff hs ht fun e => ?_
    have := h e.1
    constructor
    · intro he
      have hm : get? ⟨s, hs⟩ e.1 = some e.2 := findEntry_eq_some_of_mem hs he
      rw [hm] at this
      exact get?_eq_some_iff.mp this.symm
    · intro he
      have hm : get? ⟨t, ht⟩ e.1 = some e.2 := findEntry_eq_some_of_mem ht he
      rw [hm] at this
      exact get?_eq_some_iff.mp this
  subst hst
  rfl

end TextMap
end LogicalNet
