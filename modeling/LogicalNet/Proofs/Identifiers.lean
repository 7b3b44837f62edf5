import LogicalNet.Proofs.Address.GeneratedMacs
import Mathlib.Data.List.Nodup
import Mathlib.Data.Nat.ModEq

/-!
# Identifiers from a counter

The sequential source writes the count of the draws into an identifier or an address, as
far as there is room: 48 bits in an identifier, 40 in an address.  So what it gives out
repeats with the period of the room, and not before.  Identifiers and addresses have counts
of their own, and draws of the one kind do not matter to the other.
-/

namespace LogicalNet

/-! ## Fixed-width hexadecimal -/

namespace Text

theorem hexChars_eq_iff {width m n : Nat} :
    hexChars width m = hexChars width n ↔ m % 16 ^ width = n % 16 ^ width := by
  constructor
  · intro h
    have hread := digitsValue?_hexChars width m
    rw [h, digitsValue?_hexChars] at hread
    exact (Option.some.inj hread).symm
  · intro h
    induction width generalizing m n with
    | zero =>
        rfl
    | succ width ih =>
        rw [Nat.pow_succ', Nat.mod_mul, Nat.mod_mul] at h
        have hlow : m % 16 = n % 16 := by omega
        have hhigh : m / 16 % 16 ^ width = n / 16 % 16 ^ width := by omega
        rw [hexChars, hexChars, ih hhigh, hlow]

/-- The digits of hexadecimal in lower case. -/
def hexDigits : List Char :=
  "0123456789abcdef".toList

theorem mem_hexDigits_of_mem_hexChars {width n : Nat} {c : Char} (h : c ∈ hexChars width n) :
    c ∈ hexDigits := by
  have hdigit : ∀ d < 16, Nat.digitChar d ∈ hexDigits := by
    decide
  induction width generalizing n with
  | zero =>
      cases h
  | succ width ih =>
      rcases List.mem_append.mp h with h | h
      · exact ih h
      · rw [List.mem_singleton.mp h]
        exact hdigit _ (Nat.mod_lt n (by decide))

end Text

/-- Groups of 8, 4, 4, 4 and 12 hexadecimal digits in lower case, with dashes between them. -/
def IsUuidText (s : String) : Prop :=
  ∃ groups : List (List Char), groups.map List.length = [8, 4, 4, 4, 12] ∧
    (∀ g ∈ groups, ∀ c ∈ g, c ∈ Text.hexDigits) ∧ s.toList = List.intercalate ['-'] groups

/-! ## Sequences of draws -/

/-- What is drawn from a source. -/
inductive Draw where
  | uuid
  | mac
  deriving DecidableEq

namespace IdSource

variable {ι : Type} [IdSource ι]

/-- The identifiers among what is drawn. -/
def drawnUuids : List Draw → ι → List String
  | [], _ => []
  | .uuid :: rest, ids => (uuid ids).1 :: drawnUuids rest (uuid ids).2
  | .mac :: rest, ids => drawnUuids rest (mac ids).2

/-- The MAC addresses among what is drawn. -/
def drawnMacs : List Draw → ι → List Mac
  | [], _ => []
  | .uuid :: rest, ids => drawnMacs rest (uuid ids).2
  | .mac :: rest, ids => (mac ids).1 :: drawnMacs rest (mac ids).2

end IdSource

/-- What tells numbers apart as far as the period does repeats after a period, and not before. -/
theorem nodup_map_range_iff {α : Type} {f : Nat → α} {period : Nat} (hpos : 0 < period)
    (hf : ∀ i j, f i = f j ↔ i % period = j % period) (start count : Nat) :
    ((List.range count).map fun i => f (start + i)).Nodup ↔ count ≤ period := by
  rw [List.nodup_map_iff_inj_on List.nodup_range]
  constructor
  · intro h
    refine Nat.le_of_not_lt fun hlt => ?_
    have hsame : f (start + 0) = f (start + period) := (hf _ _).mpr (by simp)
    have hzero := h 0 (List.mem_range.mpr (by omega)) period (List.mem_range.mpr hlt) hsame
    omega
  · intro hle i hi j hj h
    have hmod : i ≡ j [MOD period] := Nat.ModEq.add_left_cancel' start ((hf _ _).mp h)
    have hi' := List.mem_range.mp hi
    have hj' := List.mem_range.mp hj
    exact hmod.eq_of_lt_of_lt (by omega) (by omega)

theorem map_range_succ {α : Type} (f : Nat → α) (start count : Nat) :
    ((List.range (count + 1)).map fun i => f (start + i)) =
      f start :: (List.range count).map fun i => f (start + 1 + i) := by
  rw [List.range_succ_eq_map, List.map_cons, List.map_map]
  refine congrArg (f start :: ·) (List.map_congr_left fun i _ => ?_)
  show f (start + (i + 1)) = f (start + 1 + i)
  rw [Nat.add_assoc, Nat.add_comm 1 i]

namespace Sequential

open IdSource (drawnUuids drawnMacs)

/-! ## What the counts make -/

theorem uuidText_eq_iff {m n : Nat} : uuidText m = uuidText n ↔ m % 2 ^ 48 = n % 2 ^ 48 := by
  have hrange : ∀ k : Nat, k % 2 ^ 48 % 16 ^ 12 = k % 2 ^ 48 := by
    intro k
    omega
  unfold uuidText Text.hex
  rw [String.append_right_inj, String.ofList_inj, Text.hexChars_eq_iff, hrange, hrange]

theorem isUuidText_append {count : List Char} (hlength : count.length = 12)
    (hdigits : ∀ c ∈ count, c ∈ Text.hexDigits) :
    IsUuidText ("00000000-0000-0000-0000-" ++ String.ofList count) := by
  let zeros : List (List Char) := [8, 4, 4, 4].map fun width => List.replicate width '0'
  have hzeros : ∀ g ∈ zeros, ∀ c ∈ g, c ∈ Text.hexDigits := by
    intro g hg c hc
    rcases List.mem_map.mp hg with ⟨width, _, rfl⟩
    rw [List.eq_of_mem_replicate hc]
    decide
  refine ⟨zeros ++ [count], ?_, ?_, ?_⟩
  · simp [zeros, hlength]
  · intro g hg
    rcases List.mem_append.mp hg with hg | hg
    · exact hzeros g hg
    · rw [List.mem_singleton.mp hg]
      exact hdigits
  · simp [zeros, List.intercalate, List.replicate]

theorem isUuidText_uuidText (n : Nat) : IsUuidText (uuidText n) :=
  isUuidText_append (Text.length_hexChars 12 _) fun _ => Text.mem_hexDigits_of_mem_hexChars

/-- The address of a count is told by its number. -/
theorem bits_macAddress_eq_iff {m n : Nat} :
    (macAddress m).bits = (macAddress n).bits ↔ m % 2 ^ 40 = n % 2 ^ 40 := by
  rw [← UInt64.toNat_inj, Mac.toNat_bits_macAddress, Mac.toNat_bits_macAddress]
  omega

theorem address_macAddress_eq_iff {m n : Nat} :
    (macAddress m).address = (macAddress n).address ↔ m % 2 ^ 40 = n % 2 ^ 40 := by
  rw [← bits_macAddress_eq_iff]
  constructor
  · intro h
    have hreads := (Mac.assignable_macAddress m).reads
    rw [h, (Mac.assignable_macAddress n).reads] at hreads
    rw [Except.ok.inj hreads]
  · intro h
    rw [macAddress, macAddress, bits_macAddress_eq_iff.mp h]

/-! ## What is drawn -/

theorem drawnUuids_eq (draws : List Draw) (s : Sequential) : drawnUuids draws s =
    (List.range (draws.count .uuid)).map fun i => uuidText (s.uuids + 1 + i) := by
  induction draws generalizing s with
  | nil =>
      rfl
  | cons d rest ih =>
      cases d with
      | uuid =>
          rw [List.count_cons_self, map_range_succ]
          exact congrArg (uuidText (s.uuids + 1) :: ·) (ih ⟨s.uuids + 1, s.macs⟩)
      | mac =>
          rw [List.count_cons_of_ne (by decide)]
          exact ih ⟨s.uuids, s.macs + 1⟩

theorem drawnMacs_eq (draws : List Draw) (s : Sequential) : drawnMacs draws s =
    (List.range (draws.count .mac)).map fun i => macAddress (s.macs + 1 + i) := by
  induction draws generalizing s with
  | nil =>
      rfl
  | cons d rest ih =>
      cases d with
      | uuid =>
          rw [List.count_cons_of_ne (by decide)]
          exact ih ⟨s.uuids + 1, s.macs⟩
      | mac =>
          rw [List.count_cons_self, map_range_succ]
          exact congrArg (macAddress (s.macs + 1) :: ·) (ih ⟨s.uuids, s.macs + 1⟩)

/-- Whatever the counts are before and however the draws of both kinds alternate, all identifiers
have the form of one, and they are different as long as there are no more than `2 ^ 48` of them.  The
addresses are different, as texts and as numbers, as long as there are no more than `2 ^ 40`. -/
theorem draws_differ_iff (s : Sequential) (draws : List Draw) :
    (∀ u ∈ drawnUuids draws s, IsUuidText u) ∧
      ((drawnUuids draws s).Nodup ↔ draws.count .uuid ≤ 2 ^ 48) ∧
      (((drawnMacs draws s).map Mac.address).Nodup ↔ draws.count .mac ≤ 2 ^ 40) ∧
      (((drawnMacs draws s).map Mac.bits).Nodup ↔ draws.count .mac ≤ 2 ^ 40) := by
  rw [drawnUuids_eq, drawnMacs_eq, List.map_map, List.map_map]
  refine ⟨?form, ?uuids, ?addresses, ?numbers⟩
  case form =>
    intro u hu
    rcases List.mem_map.mp hu with ⟨i, _, rfl⟩
    exact isUuidText_uuidText _
  case uuids =>
    exact nodup_map_range_iff (by decide) (fun _ _ => uuidText_eq_iff) _ _
  case addresses =>
    exact nodup_map_range_iff (by decide) (fun _ _ => address_macAddress_eq_iff) _ _
  case numbers =>
    exact nodup_map_range_iff (by decide) (fun _ _ => bits_macAddress_eq_iff) _ _

end Sequential
end LogicalNet
