import LogicalNet.Identifiers
import LogicalNet.Proofs.Address.MacGrammar
import Mathlib.Data.Nat.Bitwise

/-!
# MAC addresses that are made

An address can be made from a number, from octets that are drawn, or from the count of the
addresses drawn so far.  Only the first way goes through the reader of texts.  The others
put text and number together by themselves, so they have to agree with the reader: the
octets in pairs of digits read as the octets, and an octet other than zero is among them.

The first octet of an address has two marks in its lowest bits: one for a group of hosts and
one for an address that is locally administered.  In the number of the address they are the
bits 40 and 41.
-/

namespace LogicalNet

theorem Text.mem_intercalate {sep c : Char} {parts : List (List Char)}
    (h : c ∈ List.intercalate [sep] parts) : c = sep ∨ ∃ p ∈ parts, c ∈ p := by
  induction parts with
  | nil =>
      simp at h
  | cons p parts ih =>
      cases parts with
      | nil =>
          rw [List.intercalate_singleton] at h
          exact .inr ⟨p, List.mem_singleton_self p, h⟩
      | cons q parts =>
          rw [List.intercalate_cons_cons, List.append_assoc, List.singleton_append] at h
          rcases List.mem_append.mp h with h | h
          · exact .inr ⟨p, List.mem_cons_self, h⟩
          · rcases List.mem_cons.mp h with h | h
            · exact .inl h
            · exact (ih h).imp_right fun ⟨r, hr, hc⟩ => ⟨r, List.mem_cons_of_mem p hr, hc⟩

namespace Mac

variable {octets : List UInt8} {o : UInt8} {n : Nat} {m : Mac}

/-! ## Numbers of octets -/

theorem number_cons (o : UInt8) (octets : List UInt8) :
    number (o :: octets) = 256 ^ octets.length * o.toNat + number octets := by
  rw [number, List.map_cons, List.reverse_cons, Nat.ofDigits_append, List.length_reverse,
    List.length_map, Nat.ofDigits_singleton, Nat.add_comm, number]

/-- Six octets keep 48 bits of a number. -/
theorem number_octetsOf (n : Nat) : number (octetsOf n) = n % 2 ^ 48 := by
  rw [← packed_eq_number]
  simp only [packed, octetsOf, List.foldl_cons, List.foldl_nil, Nat.toUInt8_eq, UInt8.toNat_ofNat']
  omega

theorem number_octetsOf_of_lt (h : n < 2 ^ 48) : number (octetsOf n) = n := by
  rw [number_octetsOf, Nat.mod_eq_of_lt h]

theorem toNat_bits_ofOctets (h : octets.length = 6) :
    (ofOctets octets).bits.toNat = number octets := by
  rw [ofOctets, packed_eq_number, toNat_number h]

/-! ## Texts of octets -/

/-- An octet is written as two digits, which stand for it. -/
theorem pair_hexChars (o : UInt8) : Pair (Text.hexChars 2 o.toNat) o.toNat := by
  have hlt := o.toNat_lt
  have hhigh : o.toNat / 16 % 16 < 16 := Nat.mod_lt _ (by decide)
  have hlow : o.toNat % 16 < 16 := Nat.mod_lt _ (by decide)
  have hvalue : 16 * (o.toNat / 16 % 16) + o.toNat % 16 = o.toNat := by omega
  have hpair := Pair.digits ⟨hhigh, .inl rfl⟩ ⟨hlow, .inl rfl⟩
  rwa [hvalue] at hpair

theorem toList_octetsText (octets : List UInt8) : (octetsText octets).toList =
    List.intercalate [':'] (octets.map fun o => Text.hexChars 2 o.toNat) := by
  simp [octetsText, Text.join, Text.hex, Function.comp_def]

theorem spells_octetsText (h : octets.length = 6) : Spells Pair (octetsText octets) octets := by
  refine ⟨h, _, ?_, toList_octetsText octets⟩
  rw [List.forall₂_map_left_iff, List.forall₂_same]
  exact fun o _ => pair_hexChars o

theorem toLower_of_mem_hexChars (width n : Nat) : ∀ c ∈ Text.hexChars width n, c.toLower = c := by
  have hdigit : ∀ d < 16, (Nat.digitChar d).toLower = Nat.digitChar d := by
    decide
  induction width generalizing n with
  | zero =>
      simp [Text.hexChars]
  | succ width ih =>
      intro c hc
      rcases List.mem_append.mp hc with hc | hc
      · exact ih (n / 16) c hc
      · rw [List.mem_singleton.mp hc]
        exact hdigit _ (Nat.mod_lt n (by decide))

/-- The digits are in lower case already. -/
theorem map_toLower_octetsText (octets : List UInt8) :
    (octetsText octets).toList.map Char.toLower = (octetsText octets).toList := by
  conv_rhs => rw [← List.map_id (octetsText octets).toList]
  refine List.map_congr_left fun c hc => ?_
  rw [toList_octetsText] at hc
  rcases Text.mem_intercalate hc with rfl | ⟨p, hp, hc⟩
  · rfl
  · rcases List.mem_map.mp hp with ⟨o, _, rfl⟩
    exact toLower_of_mem_hexChars 2 o.toNat c hc

/-- Octets are read back from their text, unless all are zero. -/
theorem ofText_octetsText (hlength : octets.length = 6) (hpos : 0 < number octets) :
    ofText (octetsText octets) = .ok (ofOctets octets) := by
  have hspells := spells_octetsText hlength
  refine ofText_eq_ok_iff_spells.mpr ⟨fun hzeros => ?_, octets, (spells_pair_iff.mp hspells).1,
    (map_toLower_octetsText octets).symm, toNat_bits_ofOctets hlength⟩
  have hzero := number_eq_zero_iff.mpr (hspells.eq_zeros_iff.mp hzeros)
  omega

/-! ## Addresses of numbers -/

/-- An address is made of the octets of a number, for all numbers but zero that fit. -/
theorem ofNumber_eq_ok_iff :
    ofNumber n = .ok m ↔ 0 < n ∧ n < 2 ^ 48 ∧ m = ofOctets (octetsOf n) := by
  unfold ofNumber
  split
  · rename_i hzero
    simp [hzero]
  · split
    · rename_i hlarge
      simp only [reduceCtorEq, false_iff]
      omega
    · rename_i hzero hlarge
      have hvalue : number (octetsOf n) = n := number_octetsOf_of_lt (by omega)
      rw [ofText_octetsText rfl (by omega)]
      constructor
      · intro h
        exact ⟨by omega, by omega, (Except.ok.inj h).symm⟩
      · rintro ⟨_, _, hm⟩
        rw [hm]

/-- The address of a number has the number, and its text reads as the address. -/
theorem faithful_of_ofNumber (h : ofNumber n = .ok m) :
    m.bits.toNat = n ∧ ofText m.address = .ok m := by
  rcases ofNumber_eq_ok_iff.mp h with ⟨hpos, hlt, rfl⟩
  have hvalue := number_octetsOf_of_lt hlt
  exact ⟨(toNat_bits_ofOctets rfl).trans hvalue, ofText_octetsText rfl (by omega)⟩

/-! ## Marks of the first octet -/

/-- The bit of an address that marks a group of hosts. -/
def groupBit : Nat := 40

/-- The bit of an address that marks it as locally administered. -/
def localBit : Nat := 41

/-- A locally administered address of one host, read back from its own text. -/
structure Assignable (m : Mac) : Prop where
  reads : ofText m.address = .ok m
  unicast : m.bits.toNat.testBit groupBit = false
  administered : m.bits.toNat.testBit localBit = true

theorem Assignable.ofOctets (hlength : octets.length = 6)
    (hunicast : (number octets).testBit groupBit = false)
    (hlocal : (number octets).testBit localBit = true) : (ofOctets octets).Assignable := by
  -- An address with a mark is not the one of zeros.
  have hpos : 0 < number octets := by
    refine Nat.pos_of_ne_zero fun hzero => ?_
    rw [hzero, Nat.zero_testBit] at hlocal
    cases hlocal
  refine ⟨ofText_octetsText hlength hpos, ?_, ?_⟩
  · rwa [toNat_bits_ofOctets hlength]
  · rwa [toNat_bits_ofOctets hlength]

/-- The bits of six octets are those of the first above those of the others. -/
theorem testBit_number (h : octets.length = 5) (i : Nat) :
    (number (o :: octets)).testBit i =
      if i < 40 then (number octets).testBit i else o.toNat.testBit (i - 40) := by
  have hlt := number_lt_pow octets
  have hpow : (256 : Nat) ^ 5 = 2 ^ 40 := by decide
  rw [h, hpow] at hlt
  rw [number_cons, h, hpow]
  exact Nat.testBit_two_pow_mul_add _ hlt i

/-! ## Addresses of drawn octets -/

theorem testBit_marked (o : UInt8) (i : Nat) :
    ((o &&& 0xfe) ||| 0x02).toNat.testBit i =
      if i = 0 then false else if i = 1 then true else o.toNat.testBit i := by
  by_cases hi : i < 8
  · have hall : ∀ n < 256, ∀ i < 8, ((n.toUInt8 &&& 0xfe) ||| 0x02).toNat.testBit i =
        if i = 0 then false else if i = 1 then true else n.toUInt8.toNat.testBit i := by
      decide +kernel
    have hmarked := hall o.toNat o.toNat_lt i hi
    have ho : o.toNat.toUInt8 = o := UInt8.ofNat_toNat
    rwa [ho] at hmarked
  · have hbeyond : ∀ x : UInt8, x.toNat.testBit i = false := fun x =>
      Nat.testBit_lt_two_pow (Nat.lt_of_lt_of_le x.toNat_lt
        (Nat.pow_le_pow_right (by decide) (Nat.le_of_not_lt hi)))
    rw [hbeyond, hbeyond, if_neg (by omega), if_neg (by omega)]

/-- The marks are set and all other bits stay as they were drawn. -/
theorem testBit_localUnicast (a b c d e f : UInt8) (i : Nat) :
    (localUnicast a b c d e f).bits.toNat.testBit i =
      if i = groupBit then false
      else if i = localBit then true
      else (number [a, b, c, d, e, f]).testBit i := by
  rw [localUnicast, toNat_bits_ofOctets rfl, testBit_number rfl, testBit_number (o := a) rfl,
    testBit_marked]
  by_cases hi : i < 40
  · have hgroup : i ≠ groupBit := Nat.ne_of_lt hi
    have hlocal : i ≠ localBit := Nat.ne_of_lt (Nat.lt_trans hi (by decide))
    rw [if_pos hi, if_neg hgroup, if_neg hlocal, if_pos hi]
  · rw [if_neg hi, if_neg hi]
    have hgroup : i - 40 = 0 ↔ i = groupBit := by
      unfold groupBit
      omega
    have hlocal : i - 40 = 1 ↔ i = localBit := by
      unfold localBit
      omega
    simp only [hgroup, hlocal]

theorem assignable_localUnicast (a b c d e f : UInt8) :
    (localUnicast a b c d e f).Assignable := by
  have hbit := testBit_localUnicast a b c d e f
  rw [localUnicast, toNat_bits_ofOctets rfl] at hbit
  exact .ofOctets rfl (hbit groupBit) (hbit localBit)

/-! ## Addresses by their count -/

/-- The first octet is the same for all counts, and the others are the last 40 bits of the count. -/
theorem number_counted (n : Nat) :
    number (octetsOf (0x0a0000000000 + n % 2 ^ 40)) = 2 ^ 40 * 0x0a + n % 2 ^ 40 := by
  rw [number_octetsOf]
  omega

theorem toNat_bits_macAddress (n : Nat) :
    (Sequential.macAddress n).bits.toNat = 2 ^ 40 * 0x0a + n % 2 ^ 40 := by
  rw [Sequential.macAddress, toNat_bits_ofOctets rfl, number_counted]

theorem assignable_macAddress (n : Nat) : (Sequential.macAddress n).Assignable := by
  have hlt : n % 2 ^ 40 < 2 ^ 40 := Nat.mod_lt n (by decide)
  have hbit : ∀ i, (number (octetsOf (0x0a0000000000 + n % 2 ^ 40))).testBit i =
      if i < 40 then (n % 2 ^ 40).testBit i else (0x0a).testBit (i - 40) := by
    intro i
    rw [number_counted]
    exact Nat.testBit_two_pow_mul_add _ hlt i
  exact .ofOctets rfl (hbit groupBit) (hbit localBit)

/-! ## All addresses that are made -/

/-- An address is made from a number exactly if it is not zero and fits 48 bits; it then has the
number, is read back from its text, and shares the text with no other number.  The addresses of
both sources of identifiers are read back from their texts too, are those of one host each, and
are locally administered; all other bits are as drawn, or the count of the address. -/
theorem made_faithful :
    (∀ n, (∃ m, ofNumber n = .ok m) ↔ 0 < n ∧ n < 2 ^ 48) ∧
    (∀ n m, ofNumber n = .ok m → m.bits.toNat = n ∧ ofText m.address = .ok m) ∧
    (∀ n n' m m', ofNumber n = .ok m → ofNumber n' = .ok m' → m.address = m'.address → n = n') ∧
    (∀ a b c d e f, (localUnicast a b c d e f).Assignable ∧
      ∀ i, i ≠ groupBit → i ≠ localBit → (localUnicast a b c d e f).bits.toNat.testBit i =
        (number [a, b, c, d, e, f]).testBit i) ∧
    (∀ r : Random, (IdSource.mac r).1.Assignable) ∧
    ∀ s : Sequential, (IdSource.mac s).1.Assignable ∧
      (IdSource.mac s).1.bits.toNat = 2 ^ 40 * 0x0a + (s.macs + 1) % 2 ^ 40 := by
  refine ⟨?total, fun _ _ => faithful_of_ofNumber, ?distinct, ?drawn,
    fun _ => assignable_localUnicast _ _ _ _ _ _,
    fun s => ⟨assignable_macAddress _, toNat_bits_macAddress _⟩⟩
  case total =>
    intro n
    constructor
    · rintro ⟨m, hm⟩
      rcases ofNumber_eq_ok_iff.mp hm with ⟨hpos, hlt, -⟩
      exact ⟨hpos, hlt⟩
    · rintro ⟨hpos, hlt⟩
      exact ⟨_, ofNumber_eq_ok_iff.mpr ⟨hpos, hlt, rfl⟩⟩
  case distinct =>
    intro n n' m m' hn hn' haddress
    rcases faithful_of_ofNumber hn with ⟨hvalue, hreads⟩
    rcases faithful_of_ofNumber hn' with ⟨hvalue', hreads'⟩
    rw [haddress, hreads'] at hreads
    cases hreads
    exact hvalue.symm.trans hvalue'
  case drawn =>
    intro a b c d e f
    refine ⟨assignable_localUnicast a b c d e f, fun i hgroup hlocal => ?_⟩
    rw [testBit_localUnicast, if_neg hgroup, if_neg hlocal]

end Mac
end LogicalNet
