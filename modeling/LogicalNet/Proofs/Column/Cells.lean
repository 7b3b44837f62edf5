import LogicalNet.Proofs.Row.ColumnKinds
import LogicalNet.Proofs.TextMap

/-!
# Cells of listings

How the value of a column stands in a listing: as a document of its own form, a set of
one also as the bare element, and a column that is empty in every row not at all.
However the value stands there, each accessor of a record reads it.
-/

namespace LogicalNet
namespace Value

/-! ## Values as documents -/

mutual

/-- Identifiers, sets and maps are pairs with a mark in front. -/
def document : Value → Document
  | text s => .text s
  | integer n => .int n
  | boolean b => .bool b
  | uuid s => .list [.text "uuid", .text s]
  | set items => .list [.text "set", .list (itemDocuments items)]
  | map entries => .list [.text "map", .list (entryDocuments entries)]

def itemDocuments : List Value → List Document
  | [] => []
  | v :: rest => document v :: itemDocuments rest

def entryDocuments : List (Value × Value) → List Document
  | [] => []
  | (k, v) :: rest => .list [document k, document v] :: entryDocuments rest

end

/-- What stands in the cell of a value. -/
inductive WrittenAs : Value → Document → Prop where
  | whole (v : Value) : WrittenAs v v.document
  | bare (atom : Value) : WrittenAs (set [atom]) atom.document

/-- The empty set and the empty map. -/
def isVoid : Value → Bool
  | set items => items.isEmpty
  | map entries => entries.isEmpty
  | _ => false

/-! ### Reading documents -/

variable {form : String → Prop}

theorem ofDocument_atom {kind : AtomKind} {v : Value} (h : kind.Holds form v) :
    ofDocument v.document = .ok v := by
  cases h with
  | text s =>
      rfl
  | @integer n hleast hgreatest =>
      rw [document, ofDocument, if_pos]
      simpa using ⟨hleast, hgreatest⟩
  | boolean b =>
      rfl
  | uuid h =>
      rfl

theorem ofItems_itemDocuments {kind : AtomKind} {items : List Value}
    (h : ∀ v ∈ items, kind.Holds form v) : ofItems (itemDocuments items) = .ok items := by
  induction items with
  | nil =>
      rfl
  | cons v items ih =>
      have hv := ofDocument_atom (h v List.mem_cons_self)
      have hrest := ih fun w hw => h w (List.mem_cons_of_mem _ hw)
      simp only [itemDocuments, ofItems, hv, hrest]

theorem ofEntries_entryDocuments {key value : AtomKind} {entries : List (Value × Value)}
    (h : ∀ e ∈ entries, key.Holds form e.1 ∧ value.Holds form e.2) :
    ofEntries (entryDocuments entries) = .ok entries := by
  induction entries with
  | nil =>
      rfl
  | cons e entries ih =>
      have he := h e List.mem_cons_self
      have hrest := ih fun e' he' => h e' (List.mem_cons_of_mem _ he')
      simp only [entryDocuments, ofEntries, ofDocument_atom he.1, ofDocument_atom he.2, hrest]

theorem ofDocument_document {kind : ColumnKind} {v : Value} (h : kind.Holds form v) :
    ofDocument v.document = .ok v := by
  cases h with
  | one h =>
      exact ofDocument_atom h
  | set h =>
      simp only [document, ofDocument, ofItems_itemDocuments h]
  | map h =>
      simp only [document, ofDocument, ofEntries_entryDocuments h]

/-- A cell reads as its value, or as the one element of it. -/
theorem WrittenAs.ofDocument {kind : ColumnKind} {v : Value} {d : Document} (h : v.WrittenAs d)
    (hkind : kind.Holds form v) :
    ∃ w, ofDocument d = .ok w ∧ (v = w ∨ v = .set [w]) := by
  cases h with
  | whole v =>
      exact ⟨v, ofDocument_document hkind, .inl rfl⟩
  | bare atom =>
      cases hkind with
      | one h => cases h
      | set h => exact ⟨atom, ofDocument_atom (h atom List.mem_cons_self), .inr rfl⟩

end Value

/-! ## Columns of records -/

namespace Record

/-- The record has the value in the column, in one of the forms in which it may be listed. -/
inductive Carries (r : Record) (name : String) : Value → Prop where
  | whole {v : Value} (h : r.columns.get? name = some v) : Carries r name v
  | bare {atom : Value} (h : r.columns.get? name = some atom) : Carries r name (.set [atom])
  | absent {v : Value} (h : r.columns.get? name = none) (hvoid : v.isVoid = true) : Carries r name v

variable {r : Record} {name : String} {α : Type}

theorem Carries.uuid {s : String} (h : r.Carries name (.uuid s)) : r.uuid name = .ok s := by
  cases h with
  | whole h => simp only [Record.uuid, column, h]
  | absent _ hvoid => cases hvoid

theorem Carries.text {s : String} (h : r.Carries name (.text s)) : r.text name = .ok s := by
  cases h with
  | whole h => simp only [Record.text, column, h, Value.optional?]
  | absent _ hvoid => cases hvoid

/-- An atom may stand where it might be missing. -/
theorem Carries.optional_atom {read? : Value → Option α} {v : Value} {a : α}
    (h : r.Carries name v) (hatom : v.optional? = some (some v)) (hread : read? v = some a) :
    r.optional name read? = .ok (some a) := by
  cases h with
  | whole h =>
      simp only [optional, h, hatom, hread]
  | bare h =>
      cases hatom
  | absent h hvoid =>
      cases v with
      | set items =>
          rw [List.isEmpty_iff.mp hvoid] at hatom
          cases hatom
      | map entries => cases hatom
      | text s | integer n | boolean b | uuid s => cases hvoid

theorem Carries.optional {read? : Value → Option α} {write : α → Value} {a? : Option α}
    (h : r.Carries name (.set (a?.toList.map write)))
    (hatom : ∀ a, (write a).optional? = some (some (write a)))
    (hread : ∀ a, read? (write a) = some a) : r.optional name read? = .ok a? := by
  cases a? with
  | none =>
      cases h with
      | whole h => simp only [Record.optional, h, Option.toList, List.map_nil, Value.optional?]
      | absent h _ => simp only [Record.optional, h]
  | some a =>
      cases h with
      | whole h =>
          simp only [Record.optional, h, Option.toList, List.map_cons, List.map_nil,
            Value.optional?, hread]
      | bare h => simp only [Record.optional, h, hatom, hread]
      | absent _ hvoid => cases hvoid

theorem Carries.optionalText {s : Option String} (h : r.Carries name (.optionalText s)) :
    r.optionalText name = .ok s :=
  h.optional (fun _ => rfl) fun _ => rfl

theorem Carries.optionalUuid {s : Option String} (h : r.Carries name (.optionalUuid s)) :
    r.optionalUuid name = .ok s :=
  h.optional (fun _ => rfl) fun _ => rfl

theorem Carries.optionalInteger {n : Option Int} (h : r.Carries name (.optionalInteger n)) :
    r.optionalInteger name = .ok n :=
  h.optional (fun _ => rfl) fun _ => rfl

theorem Carries.optionalBoolean {b : Option Bool} (h : r.Carries name (.optionalBoolean b)) :
    r.optionalBoolean name = .ok b :=
  h.optional (fun _ => rfl) fun _ => rfl

theorem Carries.integer {n : Int} (h : r.Carries name (.integer n)) : r.integer name = .ok n := by
  have hread : r.optionalInteger name = .ok (some n) := h.optional_atom rfl rfl
  rw [Record.integer, hread]

/-! ### Sets and maps of texts -/

theorem atomTexts?_map {write : String → Value} (h : ∀ s, (write s).atomText? = some s)
    (ss : List String) : atomTexts? (ss.map write) = some ss := by
  induction ss with
  | nil =>
      rfl
  | cons s ss ih =>
      simp only [List.map_cons, atomTexts?, h s, ih]

theorem Carries.atoms {items : List Value} {ss : List String}
    (h : r.Carries name (.set items)) (hitems : atomTexts? items = some ss) :
    r.texts name = .ok ss := by
  cases h with
  | whole h =>
      simp only [Record.texts, h, hitems]
  | @bare atom h =>
      cases atom with
      | set _ | map _ => cases hitems
      | text _ | integer _ | boolean _ | uuid _ => simp only [Record.texts, h, hitems]
  | absent h hvoid =>
      rw [List.isEmpty_iff.mp hvoid] at hitems
      cases hitems
      simp only [Record.texts, h]

theorem Carries.texts {ss : List String} (h : r.Carries name (.texts ss)) :
    r.texts name = .ok ss :=
  h.atoms (atomTexts?_map (fun _ => rfl) ss)

theorem Carries.uuids {us : List String} (h : r.Carries name (.uuids us)) :
    r.texts name = .ok us :=
  h.atoms (atomTexts?_map (fun _ => rfl) us)

theorem entryTexts?_map (entries : List (String × String)) :
    entryTexts? (entries.map fun e => (.text e.1, .text e.2)) = some entries := by
  induction entries with
  | nil =>
      rfl
  | cons e entries ih =>
      simp only [List.map_cons, entryTexts?, Value.atomText?, ih]

theorem Carries.textMap {m : TextMap String} (h : r.Carries name (.textMap m)) :
    r.textMap name = .ok m := by
  cases h with
  | whole h =>
      have hentries := entryTexts?_map m.entries
      simp only [Record.textMap, h, Value.textMap, hentries, Option.map_some,
        TextMap.ofList_entries]
  | absent h hvoid =>
      have hempty : m.entries = [] := by
        simpa [Value.textMap, Value.isVoid] using hvoid
      have hm : m = {} := TextMap.ext_get? fun key => by
        rw [TextMap.get?, hempty]
        rfl
      simp only [Record.textMap, h, hm]

end Record
end LogicalNet
