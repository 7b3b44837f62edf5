import LogicalNet.Proofs.Address.Alphabet

/-!
# Addresses read back

Every address of a host is read back from its text, and every network address too whose
mask is no longer than the addresses of its family.  The double colon of a text of
version six stands for the zeros it was written for, as no other group of the text is
empty.
-/

namespace LogicalNet

namespace Text

/-! ## Pieces -/

variable {sep : Char}

theorem pieces_append {p : List Char} (h : sep ∉ p) (rest : List Char) :
    pieces sep (p ++ sep :: rest) = p :: pieces sep rest := by
  induction p with
  | nil =>
      rw [List.nil_append, pieces, if_pos rfl]
  | cons c p ih =>
      simp only [List.mem_cons, not_or] at h
      rw [List.cons_append, pieces, if_neg (Ne.symm h.1), ih h.2]

/-- The pieces of joined parts are the parts. -/
theorem pieces_intercalate {parts : List (List Char)} (hne : parts ≠ [])
    (h : ∀ p ∈ parts, sep ∉ p) : pieces sep (List.intercalate [sep] parts) = parts := by
  induction parts with
  | nil =>
      exact absurd rfl hne
  | cons p parts ih =>
      have hp := h p List.mem_cons_self
      cases parts with
      | nil =>
          rw [List.intercalate_singleton]
          exact pieces_of_not_mem hp
      | cons q parts =>
          rw [List.intercalate_cons_cons, List.append_assoc, List.singleton_append,
            pieces_append hp, ih (List.cons_ne_nil q parts) fun r hr =>
              h r (List.mem_cons_of_mem _ hr)]

/-! ## Numerals -/

theorem digitValue?_digitChar_radix {radix d : Nat} (hradix : radix ≤ 16) (h : d < radix) :
    digitValue? radix (Nat.digitChar d) = some d := by
  have hall : ∀ radix < 17, ∀ d < radix, digitValue? radix (Nat.digitChar d) = some d := by
    decide
  exact hall radix (Nat.lt_succ_of_le hradix) d h

theorem digitsValue?_toDigits {radix : Nat} (hone : 1 < radix) (hradix : radix ≤ 16) (n : Nat) :
    digitsValue? radix 0 (Nat.toDigits radix n) = some n := by
  induction n using Nat.strongRecOn with
  | ind n ih =>
      rw [Nat.toDigits_eq_if hone]
      split
      · rename_i h
        simp only [digitsValue?, digitValue?_digitChar_radix hradix h, Nat.zero_mul, Nat.zero_add]
      · rename_i h
        have hlast : n % radix < radix := Nat.mod_lt n (by omega)
        have hdiv : n / radix < n := Nat.div_lt_self (by omega) hone
        rw [digitsValue?_append, ih _ hdiv, Option.bind_some]
        simp only [digitsValue?, digitValue?_digitChar_radix hradix hlast]
        rw [Nat.mul_comm, Nat.div_add_mod]

theorem readDigits?_toDigits {radix : Nat} (hone : 1 < radix) (hradix : radix ≤ 16) (n : Nat) :
    readDigits? radix (Nat.toDigits radix n) = some n := by
  have hread := digitsValue?_toDigits hone hradix n
  cases hd : Nat.toDigits radix n with
  | nil =>
      exact absurd hd Nat.toDigits_ne_nil
  | cons c rest =>
      rw [hd] at hread
      exact hread

theorem readDigits?_decimalChars (n : Nat) : readDigits? 10 (decimalChars n) = some n :=
  readDigits?_toDigits (by decide) (by decide) n

/-- Numbers are written without a sign. -/
theorem readBelow?_decimalChars {n bound : Nat} (h : n < bound) :
    readBelow? 10 bound (decimalChars n) = some n := by
  have hread := readDigits?_decimalChars n
  have hplus : dropPlus (decimalChars n) = decimalChars n := by
    unfold dropPlus
    split
    · rename_i rest hlist
      have hmem : '+' ∈ decimalChars n := by
        rw [hlist]
        exact List.mem_cons_self
      exact absurd hmem (not_mem_of_readDigits? (by decide) hread)
    · rfl
  simp only [readBelow?, hplus, hread, if_pos h]

/-! ## Trimming -/

theorem dropWhile_isBlank {s : List Char} (h : ∀ c ∈ s, isBlank c = false) :
    s.dropWhile isBlank = s := by
  cases s with
  | nil =>
      rfl
  | cons c rest =>
      rw [List.dropWhile_cons_of_neg]
      simp [h c List.mem_cons_self]

/-- A text without blanks is trimmed already. -/
theorem trimChars_of_not_isBlank {s : List Char} (h : ∀ c ∈ s, isBlank c = false) :
    trimChars s = s := by
  have hreverse : ∀ c ∈ s.reverse, isBlank c = false := by
    intro c hc
    exact h c (List.mem_reverse.mp hc)
  rw [trimChars, trimLeft, dropWhile_isBlank h, trimRight, dropWhile_isBlank hreverse,
    List.reverse_reverse]

/-- Digits are the decimal digits and the letters in either case. -/
theorem digitValue?_eq_none {c : Char} (hdigit : ¬ (48 ≤ c.toNat ∧ c.toNat ≤ 57))
    (hsmall : ¬ (97 ≤ c.toNat ∧ c.toNat ≤ 122)) (hcapital : ¬ (65 ≤ c.toNat ∧ c.toNat ≤ 90))
    (radix : Nat) : digitValue? radix c = none := by
  simp only [digitValue?, Bool.and_eq_true, decide_eq_true_eq, if_neg hdigit, if_neg hsmall,
    if_neg hcapital, Nat.lt_irrefl, if_false]

theorem digitValue?_of_isBlank {c : Char} (h : isBlank c = true) (radix : Nat) :
    digitValue? radix c = none := by
  simp only [isBlank, Bool.or_eq_true, Bool.and_eq_true, decide_eq_true_eq, beq_iff_eq] at h
  exact digitValue?_eq_none (by omega) (by omega) (by omega) radix

theorem isBlank_of_readDigits? {radix n : Nat} {s : List Char} (h : readDigits? radix s = some n) :
    ∀ c ∈ s, isBlank c = false := by
  intro c hc
  cases hb : isBlank c with
  | false =>
      rfl
  | true =>
      exact absurd hc (not_mem_of_readDigits? (digitValue?_of_isBlank hb radix) h)

end Text

/-! ## Version four -/

namespace IpV4

theorem readOctet?_decimalChars (o : UInt8) : readOctet? (Text.decimalChars o.toNat) = some o := by
  have hall : ∀ n < 256, readOctet? (Text.decimalChars n) = some n.toUInt8 := by
    decide +kernel
  rw [hall o.toNat o.toNat_lt]
  simp

theorem toList_text (x : IpV4) :
    x.text.toList = List.intercalate ['.'] (x.octets.map fun o => Text.decimalChars o.toNat) := by
  simp [text, Text.join, Function.comp_def, Text.decimal]

theorem ofChars?_text (x : IpV4) : ofChars? x.text.toList = some x := by
  have hpieces : Text.pieces '.' x.text.toList =
      x.octets.map fun o => Text.decimalChars o.toNat := by
    rw [toList_text]
    refine Text.pieces_intercalate (by simp [octets]) fun p hp => ?_
    rcases List.mem_map.mp hp with ⟨o, _, rfl⟩
    exact not_mem_of_readOctet? (by decide) (readOctet?_decimalChars o)
  simp only [ofChars?, hpieces, octets, List.map_cons, List.map_nil, readOctet?_decimalChars]

end IpV4

/-! ## Version six -/

namespace IpV6

/-! ### Groups -/

def groupChars (g : UInt16) : List Char :=
  Nat.toDigits 16 g.toNat

theorem readGroup?_groupChars (g : UInt16) : readGroup? (groupChars g) = some g := by
  have hlength : (groupChars g).length ≤ 4 :=
    (Nat.length_toDigits_le_iff (by decide) (by decide)).mpr g.toNat_lt
  have hread : Text.readDigits? 16 (groupChars g) = some g.toNat :=
    Text.readDigits?_toDigits (by decide) (by decide) g.toNat
  rw [readGroup?, if_neg (by omega), hread]
  simp

theorem colon_not_mem_groupChars (g : UInt16) : ':' ∉ groupChars g :=
  not_mem_of_readGroup? (by decide) (readGroup?_groupChars g)

theorem readGroups?_groupChars (dotted : Bool) (gs : List UInt16) :
    readGroups? dotted (gs.map groupChars) = some gs := by
  induction gs with
  | nil =>
      rfl
  | cons g gs ih =>
      cases gs with
      | nil =>
          simp only [List.map_cons, List.map_nil, readGroups?, readGroup?_groupChars]
      | cons g' gs =>
          simp only [List.map_cons] at ih ⊢
          rw [readGroups?]
          · rw [readGroup?_groupChars, ih]
          · exact List.cons_ne_nil _ _

theorem toList_joinGroups (gs : List UInt16) :
    (joinGroups gs).toList = List.intercalate [':'] (gs.map groupChars) := by
  simp only [joinGroups, Text.join, Text.hexShort, List.map_map, Function.comp_def,
    String.toList_ofList]
  rfl

theorem toList_joinGroups_cons (g g' : UInt16) (gs : List UInt16) :
    (joinGroups (g :: g' :: gs)).toList =
      groupChars g ++ ':' :: (joinGroups (g' :: gs)).toList := by
  simp only [toList_joinGroups, List.map_cons, List.intercalate_cons_cons, List.append_assoc,
    List.singleton_append]

/-- Joined groups do not start with a colon. -/
theorem exists_toList_joinGroups (g : UInt16) (gs : List UInt16) :
    ∃ c s, (joinGroups (g :: gs)).toList = c :: s ∧ c ≠ ':' := by
  have hcolon := colon_not_mem_groupChars g
  cases hg : groupChars g with
  | nil =>
      exact absurd hg Nat.toDigits_ne_nil
  | cons c s =>
      have hc : c ≠ ':' := by
        rintro rfl
        rw [hg] at hcolon
        exact hcolon List.mem_cons_self
      cases gs with
      | nil => exact ⟨c, s, by rw [toList_joinGroups]; simp [hg], hc⟩
      | cons g' gs => exact ⟨c, _, by rw [toList_joinGroups_cons, hg]; rfl, hc⟩

theorem pieces_joinGroups {gs : List UInt16} (hne : gs ≠ []) :
    Text.pieces ':' (joinGroups gs).toList = gs.map groupChars := by
  rw [toList_joinGroups]
  refine Text.pieces_intercalate (by simpa using hne) fun p hp => ?_
  rcases List.mem_map.mp hp with ⟨g, _, rfl⟩
  exact colon_not_mem_groupChars g

theorem readSide?_joinGroups (dotted : Bool) (gs : List UInt16) :
    readSide? dotted (joinGroups gs).toList = some gs := by
  cases gs with
  | nil =>
      simp [readSide?, toList_joinGroups]
  | cons g gs =>
      have hpieces := pieces_joinGroups (List.cons_ne_nil g gs)
      rcases exists_toList_joinGroups g gs with ⟨c, s, hlist, _⟩
      have hne : (joinGroups (g :: gs)).toList.isEmpty = false := by
        rw [hlist]
        rfl
      rw [readSide?, hne, hpieces]
      exact readGroups?_groupChars dotted (g :: gs)

/-! ### The double colon -/

/-- The cut with more text in front. -/
def prefixed (front : List Char) (cut : List Char × List Char) : List Char × List Char :=
  (front ++ cut.1, cut.2)

theorem cutDouble?_append {p : List Char} (h : ':' ∉ p) (s : List Char) :
    cutDouble? (p ++ s) = (cutDouble? s).map (prefixed p) := by
  induction p with
  | nil =>
      cases hs : cutDouble? s <;> simp [hs, prefixed]
  | cons c p ih =>
      simp only [List.mem_cons, not_or] at h
      rw [List.cons_append, cutDouble?, ih h.2]
      · cases cutDouble? s <;> rfl
      · intro rest hc
        exact absurd hc.symm h.1

theorem cutDouble?_colon {c : Char} (h : c ≠ ':') (s : List Char) :
    cutDouble? (':' :: c :: s) = (cutDouble? (c :: s)).map (prefixed [':']) := by
  rw [cutDouble?]
  · rfl
  · intro rest _ hrest
    exact h (List.cons.inj hrest).1

/-- No cut falls into groups with single colons between them. -/
theorem cutDouble?_joinGroups (gs : List UInt16) (s : List Char) :
    cutDouble? ((joinGroups gs).toList ++ s) =
      (cutDouble? s).map (prefixed (joinGroups gs).toList) := by
  induction gs with
  | nil =>
      rw [toList_joinGroups]
      exact cutDouble?_append List.not_mem_nil s
  | cons g gs ih =>
      have hg := colon_not_mem_groupChars g
      cases gs with
      | nil =>
          rw [toList_joinGroups, List.map_cons, List.map_nil, List.intercalate_singleton]
          exact cutDouble?_append hg s
      | cons g' gs =>
          rcases exists_toList_joinGroups g' gs with ⟨c, t, hlist, hc⟩
          rw [toList_joinGroups_cons, List.append_assoc, cutDouble?_append hg, List.cons_append]
          rw [hlist, List.cons_append] at ih ⊢
          rw [cutDouble?_colon hc, ih]
          cases cutDouble? s <;> simp [prefixed]

/-! ### The run of zeros -/

theorem replicate_zerosAhead (gs : List UInt16) :
    List.replicate (zerosAhead gs) 0 ++ gs.drop (zerosAhead gs) = gs := by
  induction gs with
  | nil =>
      rfl
  | cons g gs ih =>
      rw [zerosAhead]
      split
      · rename_i hg
        rw [List.replicate_succ, List.drop_succ_cons, List.cons_append, ih, hg]
      · rfl

/-- What stands in front of the run, the run itself and what stands behind it are the groups. -/
theorem longestRun_eq (start : Nat) (gs : List UInt16) :
    ∃ k, (longestRun start gs).1 = start + k ∧
      gs.take k ++ List.replicate (longestRun start gs).2 0 ++
        gs.drop (k + (longestRun start gs).2) = gs := by
  induction gs generalizing start with
  | nil =>
      exact ⟨0, rfl, rfl⟩
  | cons g gs ih =>
      simp only [longestRun]
      split
      · rcases ih (start + 1) with ⟨k, hk, hgs⟩
        refine ⟨k + 1, by omega, ?_⟩
        rw [Nat.add_right_comm, List.take_succ_cons, List.drop_succ_cons, List.cons_append,
          List.cons_append, hgs]
      · refine ⟨0, rfl, ?_⟩
        rw [List.take_zero, List.nil_append, Nat.zero_add]
        exact replicate_zerosAhead (g :: gs)

/-! ### Texts -/

theorem groupsOfV4_v4OfGroups (high low : UInt16) :
    groupsOfV4 (v4OfGroups high low) = [high, low] := by
  have hgroup : ∀ g : UInt16, (g.toNat / 256 % 256 * 256 + g.toNat % 256).toUInt16 = g := by
    intro g
    have hlt := g.toNat_lt
    have hsum : g.toNat / 256 % 256 * 256 + g.toNat % 256 = g.toNat := by omega
    rw [hsum]
    simp
  simp [groupsOfV4, v4OfGroups, hgroup]

theorem ofGroups?_groups (x : IpV6) : ofGroups? x.groups = some x := by
  rw [ofGroups?, dif_pos x.length_eq]

/-- A text with a double colon reads as the groups on its sides with zeros between them. -/
theorem ofChars?_double {x : IpV6} {s front back : List Char} {gs gs' : List UInt16} {zeros : Nat}
    (hcut : cutDouble? s = some (front, back)) (hfront : readSide? false front = some gs)
    (hback : readSide? true back = some gs') (hzeros : 0 < zeros)
    (hgroups : gs ++ List.replicate zeros 0 ++ gs' = x.groups) : ofChars? s = some x := by
  have hlength : gs.length + zeros + gs'.length = 8 := by
    rw [← x.length_eq, ← hgroups]
    simp only [List.length_append, List.length_replicate]
  have hrest : 8 - gs.length - gs'.length = zeros := by omega
  simp only [ofChars?, hcut, hfront, hback, if_pos (by omega : gs.length + gs'.length < 8), hrest,
    hgroups]
  exact ofGroups?_groups x

theorem ofChars?_mapped {x : IpV6} {high low : UInt16}
    (hx : x.groups = [0, 0, 0, 0, 0, 0xffff, high, low]) :
    ofChars? ("::ffff:" ++ (v4OfGroups high low).text).toList = some x := by
  have hlist : ("::ffff:" ++ (v4OfGroups high low).text).toList =
      ':' :: ':' :: ("ffff".toList ++ ':' :: (v4OfGroups high low).text.toList) := by
    simp
  have hcolon : ':' ∉ (v4OfGroups high low).text.toList :=
    IpV4.not_mem_of_ofChars? (by decide) (by decide) (IpV4.ofChars?_text _)
  have hback : readSide? true ("ffff".toList ++ ':' :: (v4OfGroups high low).text.toList) =
      some [0xffff, high, low] := by
    have hdotted : readGroup? (v4OfGroups high low).text.toList = none := by
      cases h : readGroup? (v4OfGroups high low).text.toList with
      | none =>
          rfl
      | some g =>
          have hdot : '.' ∉ (v4OfGroups high low).text.toList :=
            not_mem_of_readGroup? (by decide) h
          rw [IpV4.toList_text] at hdot
          simp [IpV4.octets, List.intercalate_cons_cons] at hdot
    have hffff : readGroup? "ffff".toList = some 0xffff := by decide
    rw [readSide?, if_neg (by simp), Text.pieces_append (by decide), Text.pieces_of_not_mem hcolon]
    simp only [readGroups?, hffff, hdotted, IpV4.ofChars?_text, Option.map_some,
      groupsOfV4_v4OfGroups, if_true]
  rw [hlist]
  exact ofChars?_double rfl rfl hback (show 0 < 5 by decide) hx.symm

theorem ofChars?_text (x : IpV6) : ofChars? x.text.toList = some x := by
  unfold text
  split
  · rename_i high low hx
    exact ofChars?_mapped hx
  · rcases longestRun_eq 0 x.groups with ⟨k, hk, hgroups⟩
    rw [Nat.zero_add] at hk
    simp only [hk]
    split
    · rename_i hrun
      have hcut := cutDouble?_joinGroups (x.groups.take k)
        (':' :: ':' :: (joinGroups (x.groups.drop (k + (longestRun 0 x.groups).2))).toList)
      have hlist : (joinGroups (x.groups.take k) ++ "::" ++
          joinGroups (x.groups.drop (k + (longestRun 0 x.groups).2))).toList =
          (joinGroups (x.groups.take k)).toList ++
            ':' :: ':' :: (joinGroups (x.groups.drop (k + (longestRun 0 x.groups).2))).toList := by
        simp
      rw [hlist]
      refine ofChars?_double hcut ?_ (readSide?_joinGroups true _) (by omega) hgroups
      rw [List.append_nil]
      exact readSide?_joinGroups false _
    · have hne : x.groups ≠ [] := by
        intro h
        have hlength := x.length_eq
        rw [h] at hlength
        cases hlength
      have hcut := cutDouble?_joinGroups x.groups []
      rw [List.append_nil] at hcut
      have hnone : cutDouble? (joinGroups x.groups).toList = none := hcut
      simp only [ofChars?, hnone, pieces_joinGroups hne, readGroups?_groupChars, Option.bind_some]
      exact ofGroups?_groups x

end IpV6

/-! ## Hosts and networks -/

theorem Ip.ofChars?_text (x : Ip) : ofChars? x.text.toList = some x := by
  cases x with
  | v4 x =>
      simp only [ofChars?, text, IpV4.ofChars?_text]
  | v6 x =>
      have hread := IpV6.ofChars?_text x
      have hfour : IpV4.ofChars? x.text.toList = none := by
        cases h : IpV4.ofChars? x.text.toList with
        | none =>
            rfl
        | some y =>
            have hcolon : ':' ∉ x.text.toList := IpV4.not_mem_of_ofChars? (by decide) (by decide) h
            exact absurd (IpV6.colon_mem_of_ofChars? hread) hcolon
      simp only [ofChars?, text, hfour, hread, Option.map_some]

theorem Ip.isBlank_of_ofChars? {s : List Char} {x : Ip} (h : ofChars? s = some x) :
    ∀ c ∈ s, Text.isBlank c = false := by
  intro c hc
  cases hb : Text.isBlank c with
  | false =>
      rfl
  | true =>
      have hmark : c ≠ '.' ∧ c ≠ ':' := by
        constructor
        · rintro rfl
          cases hb
        · rintro rfl
          cases hb
      exact absurd hc (not_mem_of_ofChars? (Text.digitValue?_of_isBlank hb 10)
        (Text.digitValue?_of_isBlank hb 16) hmark.1 hmark.2 h)

namespace NetAddress

/-- The mask is no longer than the addresses of the family. -/
def Fits : NetAddress → Prop
  | host _ => True
  | subnet ip mask => mask.toNat ≤ ip.width

instance (a : NetAddress) : Decidable a.Fits :=
  match a with
  | host _ => inferInstanceAs (Decidable True)
  | subnet ip mask => inferInstanceAs (Decidable (mask.toNat ≤ ip.width))

/-- A network address is read back from its text exactly if its mask fits. -/
theorem ofText?_text_eq (a : NetAddress) : ofText? a.text = if a.Fits then some a else none := by
  have hblank : ∀ x : Ip, ∀ c ∈ x.text.toList, Text.isBlank c = false :=
    fun x => Ip.isBlank_of_ofChars? x.ofChars?_text
  have hslash : ∀ x : Ip, '/' ∉ x.text.toList := fun x =>
    Ip.not_mem_of_ofChars? (by decide) (by decide) (by decide) (by decide) x.ofChars?_text
  cases a with
  | host ip =>
      have hcut := Text.cutFirst?_eq_none_iff.mpr (hslash ip)
      have hfits : (host ip).Fits := trivial
      simp only [ofText?, ofChars?, text, hcut, Text.trimChars_of_not_isBlank (hblank ip),
        Ip.ofChars?_text, Option.map_some, if_pos hfits]
  | subnet ip mask =>
      have hlist : (ip.text ++ "/" ++ Text.decimal mask.toNat).toList =
          ip.text.toList ++ '/' :: Text.decimalChars mask.toNat := by
        simp [Text.decimal]
      have hmask : ∀ c ∈ Text.decimalChars mask.toNat, Text.isBlank c = false :=
        Text.isBlank_of_readDigits? (Text.readDigits?_decimalChars mask.toNat)
      have hsame : mask.toNat.toUInt16 = mask := UInt16.ofNat_toNat
      simp only [ofText?, ofChars?, text, hlist, Text.cutFirst?_append (hslash ip),
        Text.trimChars_of_not_isBlank (hblank ip), Text.trimChars_of_not_isBlank hmask,
        Ip.ofChars?_text, Text.readBelow?_decimalChars mask.toNat_lt, hsame]
      exact ite_congr rfl (fun _ => rfl) fun _ => rfl

theorem ofText?_text {a : NetAddress} (h : a.Fits) : ofText? a.text = some a := by
  rw [ofText?_text_eq, if_pos h]

/-- The mask of an address that is read is no longer than the addresses of the family. -/
theorem fits_of_ofText? {s : String} {a : NetAddress} (h : ofText? s = some a) : a.Fits := by
  unfold ofText? ofChars? at h
  split at h
  · rcases Option.map_eq_some_iff.mp h with ⟨ip, _, rfl⟩
    trivial
  · split at h
    · rename_i ip mask _ hmask
      split at h
      · rename_i hfits
        cases h
        have hwidth : ip.width < 2 ^ 16 := by
          cases ip <;> simp [Ip.width]
        have hsame : mask.toUInt16.toNat = mask :=
          UInt16.toNat_ofNat_of_lt (Nat.lt_of_le_of_lt hfits hwidth)
        rwa [Fits, hsame]
      · cases h
    · cases h

end NetAddress
end LogicalNet
