import LogicalNet.Address.Mac
import LogicalNet.Proofs.Address.RoundTrip

/-!
# MAC addresses read back

The text kept of a MAC address reads as the address itself.  It is the text that was
read in lower case, so letters change to others with the same value as digits, and all
other characters stay as they are.
-/

namespace LogicalNet

namespace Text

/-! ## Lower case -/

variable {c : Char} {s : List Char}

def IsAscii (s : List Char) : Prop :=
  ∀ c ∈ s, c.toNat < 0x80

/-- What holds of the first 128 characters holds of each that is one of them. -/
theorem ascii_induction {p : Char → Prop} (h : ∀ n < 0x80, p (Char.ofNat n))
    (hc : c.toNat < 0x80) : p c := by
  have hp := h c.toNat hc
  rwa [Char.ofNat_toNat] at hp

theorem toNat_toLower (h : c.toNat < 0x80) : c.toLower.toNat < 0x80 :=
  ascii_induction (p := fun c => c.toLower.toNat < 0x80) (by decide) h

theorem toLower_toLower (h : c.toNat < 0x80) : c.toLower.toLower = c.toLower :=
  ascii_induction (p := fun c => c.toLower.toLower = c.toLower) (by decide) h

theorem digitValue?_toLower (h : c.toNat < 0x80) :
    digitValue? 16 c.toLower = digitValue? 16 c :=
  ascii_induction (p := fun c => digitValue? 16 c.toLower = digitValue? 16 c) (by decide) h

/-- What is no letter has no other form. -/
theorem toLower_eq_mark (h : c.toNat < 0x80) {mark : Char} (hmark : mark ∈ [':', '+', '0']) :
    c.toLower = mark ↔ c = mark := by
  simp only [List.mem_cons, List.not_mem_nil, or_false] at hmark
  rcases hmark with rfl | rfl | rfl
  · exact ascii_induction (p := fun c => c.toLower = ':' ↔ c = ':') (by decide) h
  · exact ascii_induction (p := fun c => c.toLower = '+' ↔ c = '+') (by decide) h
  · exact ascii_induction (p := fun c => c.toLower = '0' ↔ c = '0') (by decide) h

theorem IsAscii.of_cons (h : IsAscii (c :: s)) : c.toNat < 0x80 ∧ IsAscii s :=
  ⟨h c List.mem_cons_self, fun d hd => h d (List.mem_cons_of_mem _ hd)⟩

theorem IsAscii.map_toLower (h : IsAscii s) : IsAscii (s.map Char.toLower) := by
  intro d hd
  rcases List.mem_map.mp hd with ⟨c, hc, rfl⟩
  exact toNat_toLower (h c hc)

theorem toList_lower {s : String} (h : IsAscii s.toList) :
    (lower s).toList = s.toList.map Char.toLower := by
  rw [lower, String.toList_ofList, lowerChars_of_ascii _ h]

theorem lower_lower {s : String} (h : IsAscii s.toList) : lower (lower s) = lower s := by
  have htwice : lowerChars (lower s).toList = (lower s).toList := by
    rw [toList_lower h, lowerChars_of_ascii _ h.map_toLower, List.map_map]
    exact List.map_congr_left fun c hc => toLower_toLower (h c hc)
  rw [lower, htwice, String.ofList_toList]

/-- An ASCII text has as many bytes as characters. -/
theorem utf8ByteSize_of_ascii (h : IsAscii s) : (String.ofList s).utf8ByteSize = s.length := by
  induction s with
  | nil =>
      rfl
  | cons c s ih =>
      have hsize : c.utf8Size = 1 :=
        ascii_induction (p := fun c => c.utf8Size = 1) (by decide) h.of_cons.1
      have hlist : String.ofList (c :: s) = String.singleton c ++ String.ofList s := by
        apply String.toList_injective
        simp
      rw [hlist, String.utf8ByteSize_append, String.utf8ByteSize_singleton, hsize, ih h.of_cons.2,
        List.length_cons, Nat.add_comm]

/-! ## Digits and pieces -/

theorem digitsValue?_map_toLower (h : IsAscii s) (value : Nat) :
    digitsValue? 16 value (s.map Char.toLower) = digitsValue? 16 value s := by
  induction s generalizing value with
  | nil =>
      rfl
  | cons c s ih =>
      rw [List.map_cons, digitsValue?, digitsValue?, digitValue?_toLower h.of_cons.1]
      cases digitValue? 16 c with
      | none =>
          rfl
      | some d =>
          exact ih h.of_cons.2 _

theorem dropPlus_map_toLower (h : IsAscii s) :
    dropPlus (s.map Char.toLower) = (dropPlus s).map Char.toLower := by
  cases s with
  | nil =>
      rfl
  | cons c s =>
      have hplus : c.toLower = '+' ↔ c = '+' := toLower_eq_mark h.of_cons.1 (by decide)
      by_cases hc : c = '+'
      · subst hc
        rfl
      · have hlower : c.toLower ≠ '+' := fun hl => hc (hplus.mp hl)
        have hkeep : ∀ (d : Char) (t : List Char), d ≠ '+' → dropPlus (d :: t) = d :: t := by
          intro d t hd
          unfold dropPlus
          split
          · rename_i heq
            exact absurd (List.cons.inj heq).1 hd
          · rfl
        rw [List.map_cons, hkeep _ _ hlower, hkeep _ _ hc, List.map_cons]

theorem isAscii_dropPlus (h : IsAscii s) : IsAscii (dropPlus s) := by
  unfold dropPlus
  split
  · exact h.of_cons.2
  · exact h

/-- Digits have the same value in lower case. -/
theorem readBelow?_map_toLower (h : IsAscii s) (bound : Nat) :
    readBelow? 16 bound (s.map Char.toLower) = readBelow? 16 bound s := by
  have hread : ∀ t : List Char, IsAscii t →
      readDigits? 16 (t.map Char.toLower) = readDigits? 16 t := by
    intro t ht
    cases t with
    | nil => rfl
    | cons c t => exact digitsValue?_map_toLower ht 0
  simp only [readBelow?, dropPlus_map_toLower h, hread _ (isAscii_dropPlus h)]

theorem pieces_map {sep : Char} {f : Char → Char} (h : ∀ c ∈ s, f c = sep ↔ c = sep) :
    pieces sep (s.map f) = (pieces sep s).map (List.map f) := by
  induction s with
  | nil =>
      rfl
  | cons c s ih =>
      have hrest := ih fun d hd => h d (List.mem_cons_of_mem _ hd)
      have hc := h c List.mem_cons_self
      rw [List.map_cons, pieces, pieces, hrest]
      by_cases hsep : c = sep
      · rw [if_pos hsep, if_pos (hc.mpr hsep), List.map_cons, List.map_nil]
      · rw [if_neg hsep, if_neg fun hf => hsep (hc.mp hf)]
        cases pieces sep s with
        | nil => rfl
        | cons p ps => rfl

theorem isAscii_of_readDigits? {n : Nat} (h : readDigits? 16 s = some n) : IsAscii s := by
  intro c hc
  refine Nat.lt_of_not_le fun hlarge => ?_
  have hnone : digitValue? 16 c = none :=
    digitValue?_eq_none (by omega) (by omega) (by omega) 16
  exact not_mem_of_readDigits? hnone h hc

theorem isAscii_of_readBelow? {n bound : Nat} (h : readBelow? 16 bound s = some n) : IsAscii s := by
  unfold readBelow? at h
  cases hread : readDigits? 16 (dropPlus s) with
  | none =>
      rw [hread] at h
      cases h
  | some m =>
      have hascii := isAscii_of_readDigits? hread
      unfold dropPlus at hascii
      split at hascii
      · intro c hc
        rcases List.mem_cons.mp hc with rfl | hc
        · decide
        · exact hascii c hc
      · exact hascii

end Text

/-! ## Addresses -/

namespace Mac

variable {octets : List (List Char)} {os : List UInt8}

theorem isAscii_of_readOctets (h : readOctets octets = .ok os) : ∀ o ∈ octets, Text.IsAscii o := by
  induction octets generalizing os with
  | nil =>
      intro o ho
      cases ho
  | cons o octets ih =>
      rw [readOctets] at h
      cases hread : Text.readBelow? 16 (2 ^ 8) o with
      | none =>
          rw [hread] at h
          cases h
      | some n =>
          cases hrest : readOctets octets with
          | error e =>
              rw [hread, hrest] at h
              cases h
          | ok os' =>
              intro p hp
              rcases List.mem_cons.mp hp with rfl | hp
              · exact Text.isAscii_of_readBelow? hread
              · exact ih hrest p hp

theorem readOctets_map_toLower (h : ∀ o ∈ octets, Text.IsAscii o)
    (hread : readOctets octets = .ok os) :
    readOctets (octets.map (List.map Char.toLower)) = .ok os := by
  induction octets generalizing os with
  | nil =>
      exact hread
  | cons o octets ih =>
      rw [readOctets] at hread
      rw [List.map_cons, readOctets, Text.readBelow?_map_toLower (h o List.mem_cons_self)]
      cases ho : Text.readBelow? 16 (2 ^ 8) o with
      | none =>
          rw [ho] at hread
          cases hread
      | some n =>
          cases hrest : readOctets octets with
          | error e =>
              rw [ho, hrest] at hread
              cases hread
          | ok os' =>
              rw [ho, hrest] at hread
              rw [ih (fun p hp => h p (List.mem_cons_of_mem _ hp)) hrest]
              exact hread

/-- What it takes for a text to read as an address. -/
theorem ofText_eq_ok_iff {s : String} {m : Mac} :
    ofText s = .ok m ↔ s ≠ "00:00:00:00:00:00" ∧
      (∀ o ∈ Text.pieces ':' s.toList, (String.ofList o).utf8ByteSize = 2) ∧
      (Text.pieces ':' s.toList).length = 6 ∧
      ∃ os, readOctets (Text.pieces ':' s.toList) = .ok os ∧
        m = ⟨Text.lower s, (packed os).toUInt64⟩ := by
  have hwidths : (Text.pieces ':' s.toList).find? (fun o => (String.ofList o).utf8ByteSize != 2) =
      none ↔ ∀ o ∈ Text.pieces ':' s.toList, (String.ofList o).utf8ByteSize = 2 := by
    simp [List.find?_eq_none]
  constructor
  · intro h
    unfold ofText at h
    split at h
    · cases h
    rename_i hzero
    dsimp only at h
    split at h
    · cases h
    rename_i hfind
    split at h
    · cases h
    rename_i hcount
    split at h
    · cases h
    rename_i os hread
    cases h
    exact ⟨hzero, hwidths.mp hfind, Decidable.not_not.mp hcount, os, hread, rfl⟩
  · rintro ⟨hzero, hwidth, hcount, os, hread, rfl⟩
    simp only [ofText, if_neg hzero, hwidths.mpr hwidth, if_neg (not_not_intro hcount), hread]

/-- The text that is kept of an address reads as the address. -/
theorem ofText_address {s : String} {m : Mac} (h : ofText s = .ok m) :
    ofText m.address = .ok m := by
  rcases ofText_eq_ok_iff.mp h with ⟨hzero, hwidth, hcount, os, hread, rfl⟩
  have hoctets := isAscii_of_readOctets hread
  have hascii : Text.IsAscii s.toList := by
    intro c hc
    refine Nat.lt_of_not_le fun hlarge => ?_
    have hcolon : c ≠ ':' := by
      rintro rfl
      exact absurd hlarge (by decide)
    refine Text.not_mem_of_not_mem_pieces hcolon (fun p hp hcp => ?_) hc
    exact absurd (hoctets p hp c hcp) (by omega)
  have hlower := Text.toList_lower hascii
  have hpieces : Text.pieces ':' (Text.lower s).toList =
      (Text.pieces ':' s.toList).map (List.map Char.toLower) := by
    rw [hlower]
    exact Text.pieces_map fun c hc => Text.toLower_eq_mark (hascii c hc) (by decide)
  refine ofText_eq_ok_iff.mpr ⟨?_, ?_, ?_, os, ?_, ?_⟩
  · intro (hlow : Text.lower s = "00:00:00:00:00:00")
    apply hzero
    have hall : (Text.lower s).toList.all (· ∈ [':', '+', '0']) = true := by
      rw [hlow]
      decide
    have hmarks : ∀ d ∈ (Text.lower s).toList, d ∈ [':', '+', '0'] := by
      simpa only [List.all_eq_true, decide_eq_true_eq] using hall
    have hsame : s.toList.map Char.toLower = s.toList.map id := by
      refine List.map_congr_left fun c hc => ?_
      have hmem : c.toLower ∈ (Text.lower s).toList := by
        rw [hlower]
        exact List.mem_map_of_mem hc
      exact ((Text.toLower_eq_mark (hascii c hc) (hmarks _ hmem)).mp rfl).symm
    rw [List.map_id, ← hlower] at hsame
    rw [← hlow]
    exact String.toList_injective hsame.symm
  · intro o ho
    rw [hpieces] at ho
    rcases List.mem_map.mp ho with ⟨p, hp, rfl⟩
    rw [Text.utf8ByteSize_of_ascii (hoctets p hp).map_toLower, List.length_map,
      ← Text.utf8ByteSize_of_ascii (hoctets p hp)]
    exact hwidth p hp
  · rw [hpieces, List.length_map]
    exact hcount
  · rw [hpieces]
    exact readOctets_map_toLower hoctets hread
  · rw [Text.lower_lower hascii]

end Mac
end LogicalNet
