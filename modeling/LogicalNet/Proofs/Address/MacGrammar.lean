import Mathlib.Data.List.Forall2
import Mathlib.Data.Nat.Digits.Defs
import LogicalNet.Proofs.Address.MacRoundTrip

/-!
# The texts of MAC addresses

Six groups of two hexadecimal digits make a MAC address.  The reader of the digits takes
a plus sign before them, so that one digit behind a sign makes a group as well.  The zero
address is turned away as one text: its spellings with a sign pass.
-/

namespace LogicalNet

namespace Text

theorem mem_of_mem_pieces {sep c : Char} {s p : List Char} (hp : p ∈ pieces sep s) (hc : c ∈ p) :
    c ∈ s := by
  induction s generalizing p with
  | nil =>
      simp only [pieces, List.mem_singleton] at hp
      rw [hp] at hc
      cases hc
  | cons d rest ih =>
      rw [pieces] at hp
      cases hrest : pieces sep rest with
      | nil =>
          exact absurd hrest (pieces_ne_nil sep rest)
      | cons q qs =>
          rw [hrest] at hp ih
          by_cases hd : d = sep
          · rw [if_pos hd] at hp
            rcases List.mem_cons.mp hp with rfl | hp
            · cases hc
            · exact List.mem_cons_of_mem d (ih hp hc)
          · rw [if_neg hd] at hp
            rcases List.mem_cons.mp hp with rfl | hp
            · rcases List.mem_cons.mp hc with rfl | hc
              · exact List.mem_cons_self
              · exact List.mem_cons_of_mem d (ih List.mem_cons_self hc)
            · exact List.mem_cons_of_mem d (ih (List.mem_cons_of_mem q hp) hc)

end Text

namespace Mac

/-! ## Grammar -/

/-- A hexadecimal digit in either case. -/
def HexDigit (c : Char) (d : Nat) : Prop :=
  d < 16 ∧ (c = Nat.digitChar d ∨ c = (Nat.digitChar d).toUpper)

instance (c : Char) (d : Nat) : Decidable (HexDigit c d) :=
  inferInstanceAs (Decidable (_ ∧ _))

/-- Two hexadecimal digits. -/
inductive Pair : List Char → Nat → Prop where
  | digits {c d : Char} {x y : Nat} (hc : HexDigit c x) (hd : HexDigit d y) :
      Pair [c, d] (16 * x + y)

/-- Two hexadecimal digits, or one with a plus sign. -/
inductive Group : List Char → Nat → Prop where
  | pair {g : List Char} {n : Nat} (h : Pair g n) : Group g n
  | plus {c : Char} {x : Nat} (h : HexDigit c x) : Group ['+', c] x

/-- Six groups with a colon between each and the next, and the octets that they stand for. -/
def Spells (group : List Char → Nat → Prop) (s : String) (octets : List UInt8) : Prop :=
  octets.length = 6 ∧ ∃ groups, List.Forall₂ (fun g o => group g o.toNat) groups octets ∧
    s.toList = List.intercalate [':'] groups

/-- The number that has the octets as its digits, the first the highest. -/
def number (octets : List UInt8) : Nat :=
  Nat.ofDigits 256 (octets.map UInt8.toNat).reverse

variable {c : Char} {n x : Nat} {g : List Char} {groups : List (List Char)}
  {octets : List UInt8} {s : String} {m : Mac}

/-! ## Groups -/

theorem digitValue?_eq_some_iff : Text.digitValue? 16 c = some x ↔ HexDigit c x := by
  constructor
  · intro h
    have hascii : c.toNat < 0x80 := by
      refine Nat.lt_of_not_le fun hlarge => ?_
      have hnone := Text.digitValue?_eq_none (c := c) (by omega) (by omega) (by omega) 16
      rw [hnone] at h
      cases h
    have hread : ∀ y ∈ Text.digitValue? 16 c, HexDigit c y :=
      Text.ascii_induction (p := fun c => ∀ y ∈ Text.digitValue? 16 c, HexDigit c y)
        (by decide +kernel) hascii
    exact hread x h
  · rintro ⟨hx, hc⟩
    have hall : ∀ x < 16, Text.digitValue? 16 (Nat.digitChar x) = some x ∧
        Text.digitValue? 16 (Nat.digitChar x).toUpper = some x := by
      decide +kernel
    rcases hc with rfl | rfl
    · exact (hall x hx).1
    · exact (hall x hx).2

theorem HexDigit.ne_plus (h : HexDigit c x) : c ≠ '+' := by
  rintro rfl
  have hread := digitValue?_eq_some_iff.mpr h
  cases hread

theorem HexDigit.ne_colon (h : HexDigit c x) : c ≠ ':' := by
  rintro rfl
  have hread := digitValue?_eq_some_iff.mpr h
  cases hread

theorem HexDigit.eq_zero (h : HexDigit c 0) : c = '0' := by
  rcases h.2 with rfl | rfl <;> rfl

theorem Pair.lt (h : Pair g n) : n < 256 := by
  cases h with
  | digits hc hd =>
      have hx := hc.1
      have hy := hd.1
      omega

theorem Group.lt (h : Group g n) : n < 256 := by
  cases h with
  | pair h => exact h.lt
  | plus h => exact Nat.lt_trans h.1 (by decide)

theorem Group.not_mem (h : Group g n) : ':' ∉ g := by
  cases h with
  | pair h =>
      cases h with
      | digits hc hd =>
          simp [hc.ne_colon.symm, hd.ne_colon.symm]
  | plus h =>
      simp [h.ne_colon.symm]

/-- A group without a sign has two digits. -/
theorem Group.pair_of_not_mem (h : Group g n) (hplus : '+' ∉ g) : Pair g n := by
  cases h with
  | pair h => exact h
  | plus h => exact absurd List.mem_cons_self hplus

theorem Pair.not_mem (h : Pair g n) : '+' ∉ g := by
  cases h with
  | digits hc hd =>
      simp [hc.ne_plus.symm, hd.ne_plus.symm]

theorem Pair.eq_zeros_iff (h : Pair g n) : g = ['0', '0'] ↔ n = 0 := by
  cases h with
  | @digits c e x y hc he =>
      constructor
      · intro hzeros
        obtain ⟨rfl, rfl⟩ : c = '0' ∧ e = '0' := by simpa using hzeros
        have hx : x = 0 := (Option.some.inj (digitValue?_eq_some_iff.mpr hc)).symm
        have hy : y = 0 := (Option.some.inj (digitValue?_eq_some_iff.mpr he)).symm
        omega
      · intro hzero
        obtain ⟨rfl, rfl⟩ : x = 0 ∧ y = 0 := by omega
        rw [hc.eq_zero, he.eq_zero]

theorem readBelow?_plus : Text.readBelow? 16 (2 ^ 8) ['+', c] = some n ↔ HexDigit c n := by
  rw [← digitValue?_eq_some_iff]
  cases hc : Text.digitValue? 16 c with
  | none =>
      simp [Text.readBelow?, Text.dropPlus, Text.readDigits?, Text.digitsValue?, hc]
  | some x =>
      have hx := (digitValue?_eq_some_iff.mp hc).1
      have hbound : x < 256 := by omega
      simp [Text.readBelow?, Text.dropPlus, Text.readDigits?, Text.digitsValue?, hc, hbound]

theorem readBelow?_pair (hplus : c ≠ '+') {e : Char} :
    Text.readBelow? 16 (2 ^ 8) [c, e] = some n ↔
      ∃ x y, HexDigit c x ∧ HexDigit e y ∧ 16 * x + y = n := by
  have hkeep : Text.dropPlus [c, e] = [c, e] := by
    unfold Text.dropPlus
    split
    · rename_i heq
      exact absurd (List.cons.inj heq).1 hplus
    · rfl
  simp only [← digitValue?_eq_some_iff, Text.readBelow?, hkeep, Text.readDigits?,
    Text.digitsValue?]
  cases hc : Text.digitValue? 16 c with
  | none =>
      simp
  | some x =>
      cases he : Text.digitValue? 16 e with
      | none =>
          simp
      | some y =>
          have hx := (digitValue?_eq_some_iff.mp hc).1
          have hy := (digitValue?_eq_some_iff.mp he).1
          have hbound : x * 16 + y < 256 := by omega
          simp [hbound, Nat.mul_comm 16]

/-- Two characters that read as digits are a group. -/
theorem group_iff :
    Group g n ↔ Text.readBelow? 16 (2 ^ 8) g = some n ∧ (String.ofList g).utf8ByteSize = 2 := by
  constructor
  · intro h
    have hread : Text.readBelow? 16 (2 ^ 8) g = some n ∧ g.length = 2 := by
      cases h with
      | pair h =>
          cases h with
          | digits hc hd =>
              exact ⟨(readBelow?_pair hc.ne_plus).mpr ⟨_, _, hc, hd, rfl⟩, rfl⟩
      | plus h =>
          exact ⟨readBelow?_plus.mpr h, rfl⟩
    rw [Text.utf8ByteSize_of_ascii (Text.isAscii_of_readBelow? hread.1)]
    exact hread
  · rintro ⟨hread, hsize⟩
    rw [Text.utf8ByteSize_of_ascii (Text.isAscii_of_readBelow? hread)] at hsize
    obtain ⟨c, e, rfl⟩ := List.length_eq_two.mp hsize
    by_cases hplus : c = '+'
    · subst hplus
      exact .plus (readBelow?_plus.mp hread)
    · obtain ⟨x, y, hc, he, rfl⟩ := (readBelow?_pair hplus).mp hread
      exact .pair (.digits hc he)

/-! ## Octets -/

theorem readOctets_cons_eq_ok_iff :
    readOctets (g :: groups) = .ok octets ↔ ∃ n rest, Text.readBelow? 16 (2 ^ 8) g = some n ∧
      readOctets groups = .ok rest ∧ n.toUInt8 :: rest = octets := by
  rw [readOctets]
  cases Text.readBelow? 16 (2 ^ 8) g with
  | none =>
      simp
  | some n =>
      cases readOctets groups with
      | error e => simp
      | ok rest => simp

/-- The groups that are read are those of the grammar. -/
theorem readOctets_eq_ok_iff :
    (readOctets groups = .ok octets ∧ ∀ g ∈ groups, (String.ofList g).utf8ByteSize = 2) ↔
      List.Forall₂ (fun g o => Group g o.toNat) groups octets := by
  induction groups generalizing octets with
  | nil =>
      cases octets with
      | nil => simp [readOctets]
      | cons o octets => simp [readOctets]
  | cons g groups ih =>
      rw [readOctets_cons_eq_ok_iff, List.forall_mem_cons]
      constructor
      · rintro ⟨⟨n, rest, hread, hrest, rfl⟩, hsize, hsizes⟩
        have hgroup := group_iff.mpr ⟨hread, hsize⟩
        have hn : n.toUInt8.toNat = n := UInt8.toNat_ofNat_of_lt hgroup.lt
        refine .cons ?_ (ih.mp ⟨hrest, hsizes⟩)
        rwa [hn]
      · intro h
        cases h with
        | @cons _ o _ octets hgroup hgroups =>
            obtain ⟨hread, hsize⟩ := group_iff.mp hgroup
            obtain ⟨hrest, hsizes⟩ := ih.mpr hgroups
            have ho : o.toNat.toUInt8 = o := UInt8.ofNat_toNat
            exact ⟨⟨o.toNat, octets, hread, hrest, by rw [ho]⟩, hsize, hsizes⟩

theorem packed_eq_number (octets : List UInt8) : packed octets = number octets := by
  rw [number, Nat.ofDigits_eq_foldr, List.foldr_reverse, List.foldl_map, packed]
  congr 1
  funext n o
  rw [Nat.cast_id, Nat.add_comm, Nat.mul_comm]

theorem number_lt_pow (octets : List UInt8) : number octets < 256 ^ octets.length := by
  have hbound : number octets < 256 ^ (octets.map UInt8.toNat).reverse.length := by
    refine Nat.ofDigits_lt_base_pow_length (by decide) fun n hn => ?_
    obtain ⟨o, -, rfl⟩ := List.mem_map.mp (List.mem_reverse.mp hn)
    exact o.toNat_lt
  rwa [List.length_reverse, List.length_map] at hbound

/-- Six octets fill 48 bits. -/
theorem number_lt (h : octets.length = 6) : number octets < 2 ^ 48 := by
  have hbound := number_lt_pow octets
  rw [h] at hbound
  exact hbound

theorem toNat_number (h : octets.length = 6) :
    (number octets).toUInt64.toNat = number octets :=
  UInt64.toNat_ofNat_of_lt (Nat.lt_trans (number_lt h) (by decide))

theorem number_eq_zero_iff : number octets = 0 ↔ ∀ o ∈ octets, o = 0 := by
  have hdigits : ∀ l : List Nat, Nat.ofDigits 256 l = 0 ↔ ∀ n ∈ l, n = 0 := by
    intro l
    induction l with
    | nil => simp
    | cons n l ih => simp [Nat.ofDigits_cons, ih]
  rw [number, hdigits]
  simp [← UInt8.toNat_inj]

/-! ## Texts -/

/-- A text is cut into its groups at the colons, as no group has one. -/
theorem spells_iff {group : List Char → Nat → Prop} (hcolon : ∀ {g n}, group g n → ':' ∉ g) :
    Spells group s octets ↔ (Text.pieces ':' s.toList).length = 6 ∧
      List.Forall₂ (fun g o => group g o.toNat) (Text.pieces ':' s.toList) octets := by
  constructor
  · rintro ⟨hlength, groups, hgroups, hs⟩
    have hmarks : ∀ g ∈ groups, ':' ∉ g :=
      ((List.forall₂_and_left _ _).mp (hgroups.imp fun g o h => ⟨hcolon h, h⟩)).1
    have hcount : groups.length = 6 := hgroups.length_eq.trans hlength
    have hne : groups ≠ [] := by
      rintro rfl
      cases hcount
    rw [hs, Text.pieces_intercalate hne hmarks]
    exact ⟨hcount, hgroups⟩
  · rintro ⟨hlength, hgroups⟩
    exact ⟨hgroups.length_eq.symm.trans hlength, _, hgroups, (Text.intercalate_pieces ':' _).symm⟩

/-- Without a plus sign all groups have two digits. -/
theorem spells_pair_iff : Spells Pair s octets ↔ Spells Group s octets ∧ '+' ∉ s.toList := by
  rw [spells_iff fun h => (Group.pair h).not_mem, spells_iff Group.not_mem]
  constructor
  · rintro ⟨hcount, hpairs⟩
    have hplus := ((List.forall₂_and_left _ _).mp (hpairs.imp fun g o h => ⟨h.not_mem, h⟩)).1
    exact ⟨⟨hcount, hpairs.imp fun g o h => .pair h⟩,
      Text.not_mem_of_not_mem_pieces (by decide) hplus⟩
  · rintro ⟨⟨hcount, hgroups⟩, hplus⟩
    have hpieces : ∀ g ∈ Text.pieces ':' s.toList, '+' ∉ g :=
      fun g hg hc => hplus (Text.mem_of_mem_pieces hg hc)
    exact ⟨hcount, ((List.forall₂_and_left _ _).mpr ⟨hpieces, hgroups⟩).imp
      fun g o h => h.2.pair_of_not_mem h.1⟩

theorem Spells.isAscii (h : Spells Group s octets) : Text.IsAscii s.toList := by
  intro c hc
  refine Nat.lt_of_not_le fun hlarge => ?_
  have hcolon : c ≠ ':' := by
    rintro rfl
    exact absurd hlarge (by decide)
  have hgroups : ∀ g ∈ Text.pieces ':' s.toList, c ∉ g := by
    refine ((List.forall₂_and_left _ _).mp (((spells_iff Group.not_mem).mp h).2.imp
      fun g o h => ⟨fun hc => ?_, h⟩)).1
    exact absurd (Text.isAscii_of_readBelow? (group_iff.mp h).1 c hc) (by omega)
  exact Text.not_mem_of_not_mem_pieces hcolon hgroups hc

theorem forall_eq_zeros_iff (h : List.Forall₂ (fun g o => Pair g o.toNat) groups octets) :
    (∀ g ∈ groups, g = ['0', '0']) ↔ ∀ o ∈ octets, o = 0 := by
  induction h with
  | nil =>
      simp
  | @cons g o groups octets hpair hpairs ih =>
      rw [List.forall_mem_cons, List.forall_mem_cons, ih, hpair.eq_zeros_iff, ← UInt8.toNat_inj]
      rfl

/-- Of the texts without a sign only one stands for zeros. -/
theorem Spells.eq_zeros_iff (h : Spells Pair s octets) :
    s = "00:00:00:00:00:00" ↔ ∀ o ∈ octets, o = 0 := by
  obtain ⟨hcount, hpairs⟩ := (spells_iff fun h => (Group.pair h).not_mem).mp h
  rw [← forall_eq_zeros_iff hpairs]
  constructor
  · rintro rfl
    decide +kernel
  · intro hzeros
    have hpieces : Text.pieces ':' s.toList = List.replicate 6 ['0', '0'] :=
      List.eq_replicate_iff.mpr ⟨hcount, hzeros⟩
    apply String.toList_injective
    rw [← Text.intercalate_pieces ':' s.toList, hpieces]
    decide +kernel

/-- An address is read from the texts of the grammar, one text apart. -/
theorem ofText_eq_ok_iff_spells : ofText s = .ok m ↔ s ≠ "00:00:00:00:00:00" ∧
    ∃ octets, Spells Group s octets ∧ m.address.toList = s.toList.map Char.toLower ∧
      m.bits.toNat = number octets := by
  rw [ofText_eq_ok_iff]
  constructor
  · rintro ⟨hzero, hsizes, hcount, octets, hread, rfl⟩
    have hspells : Spells Group s octets :=
      (spells_iff Group.not_mem).mpr ⟨hcount, readOctets_eq_ok_iff.mp ⟨hread, hsizes⟩⟩
    refine ⟨hzero, octets, hspells, Text.toList_lower hspells.isAscii, ?_⟩
    rw [packed_eq_number, toNat_number hspells.1]
  · rintro ⟨hzero, octets, hspells, haddress, hnumber⟩
    obtain ⟨hcount, hgroups⟩ := (spells_iff Group.not_mem).mp hspells
    obtain ⟨hread, hsizes⟩ := readOctets_eq_ok_iff.mpr hgroups
    refine ⟨hzero, hsizes, hcount, octets, hread, ?_⟩
    have htext : m.address = Text.lower s :=
      String.toList_injective (haddress.trans (Text.toList_lower hspells.isAscii).symm)
    have hvalue : m.bits = (number octets).toUInt64 :=
      UInt64.toNat_inj.mp (hnumber.trans (toNat_number hspells.1).symm)
    rw [packed_eq_number, ← htext, ← hvalue]

/-- An address is read from the texts of six groups, one text apart, with the text in lower
case and the number of the octets.  Without a plus sign these are the texts of six pairs of
digits that are not all zeros. -/
theorem ofText_grammar (s : String) :
    (∀ m, ofText s = .ok m ↔ s ≠ "00:00:00:00:00:00" ∧ ∃ octets, Spells Group s octets ∧
      m.address.toList = s.toList.map Char.toLower ∧ m.bits.toNat = number octets) ∧
    ((∃ m, ofText s = .ok m) ∧ '+' ∉ s.toList ↔
      ∃ octets, Spells Pair s octets ∧ ∃ o ∈ octets, o ≠ 0) ∧
    ∀ m, ofText s = .ok m → ofText m.address = .ok m ∧ m.bits.toNat < 2 ^ 48 ∧
      ('+' ∉ s.toList → 0 < m.bits.toNat) := by
  have hnonzero : ∀ {octets}, Spells Pair s octets →
      (s ≠ "00:00:00:00:00:00" ↔ ∃ o ∈ octets, o ≠ 0) := by
    intro octets hspells
    rw [Ne, hspells.eq_zeros_iff]
    simp
  refine ⟨fun m => ofText_eq_ok_iff_spells, ?_, ?_⟩
  · constructor
    · rintro ⟨⟨m, hm⟩, hplus⟩
      obtain ⟨hzero, octets, hspells, -, -⟩ := ofText_eq_ok_iff_spells.mp hm
      have hpairs := spells_pair_iff.mpr ⟨hspells, hplus⟩
      exact ⟨octets, hpairs, (hnonzero hpairs).mp hzero⟩
    · rintro ⟨octets, hpairs, hoctet⟩
      obtain ⟨hspells, hplus⟩ := spells_pair_iff.mp hpairs
      have hread : ofText s = .ok ⟨String.ofList (s.toList.map Char.toLower),
          (number octets).toUInt64⟩ :=
        ofText_eq_ok_iff_spells.mpr
          ⟨(hnonzero hpairs).mpr hoctet, octets, hspells, String.toList_ofList,
            toNat_number hspells.1⟩
      exact ⟨⟨_, hread⟩, hplus⟩
  · intro m hm
    obtain ⟨hzero, octets, hspells, -, hbits⟩ := ofText_eq_ok_iff_spells.mp hm
    refine ⟨ofText_address hm, hbits ▸ number_lt hspells.1, fun hplus => ?_⟩
    have hpairs := spells_pair_iff.mpr ⟨hspells, hplus⟩
    rw [hbits]
    refine Nat.pos_of_ne_zero fun hnumber => ?_
    exact hzero (hpairs.eq_zeros_iff.mpr (number_eq_zero_iff.mp hnumber))

/-- A zero with a sign before it makes a zero address. -/
theorem zero_of_plus : ¬ ∀ s, (∃ m, ofText s = .ok m) ↔
    ∃ octets, Spells Pair s octets ∧ ∃ o ∈ octets, o ≠ 0 := by
  intro h
  have hread : ofText "+0:00:00:00:00:00" = .ok ⟨"+0:00:00:00:00:00", 0⟩ := by
    decide +kernel
  obtain ⟨octets, hpairs, -⟩ := (h _).mp ⟨_, hread⟩
  exact (spells_pair_iff.mp hpairs).2 (by decide +kernel)

end Mac
end LogicalNet
