import LogicalNet.Address.Ip

/-!
# The characters of addresses

A text that reads as an address has no characters but digits, colons, dots, one
slash, a plus sign in front of the mask and blanks, and it has a colon exactly if
the address is of version six.
-/

namespace LogicalNet

/-! ## Trimming and cutting -/

namespace Text

theorem mem_dropWhile_of_not {p : Char → Bool} {c : Char} {s : List Char} (hc : c ∈ s)
    (hp : p c = false) : c ∈ s.dropWhile p := by
  induction s with
  | nil =>
      cases hc
  | cons d rest ih =>
      by_cases hd : p d = true
      · rw [List.dropWhile_cons_of_pos hd]
        rcases List.mem_cons.mp hc with h | h
        · subst h
          rw [hp] at hd
          cases hd
        · exact ih h
      · rw [List.dropWhile_cons_of_neg hd]
        exact hc

/-- Trimming takes away nothing but blanks. -/
theorem mem_trimChars_iff {c : Char} (hc : isBlank c = false) (s : List Char) :
    c ∈ trimChars s ↔ c ∈ s := by
  unfold trimChars trimRight trimLeft
  rw [List.mem_reverse]
  constructor
  · intro h
    have h' := (List.dropWhile_sublist _).subset h
    exact (List.dropWhile_sublist _).subset (List.mem_reverse.mp h')
  · intro h
    refine mem_dropWhile_of_not ?_ hc
    exact List.mem_reverse.mpr (mem_dropWhile_of_not h hc)

theorem mem_trim_iff {c : Char} (hc : isBlank c = false) (s : String) :
    c ∈ (trim s).toList ↔ c ∈ s.toList := by
  rw [trim, String.toList_ofList]
  exact mem_trimChars_iff hc s.toList

theorem not_mem_of_not_mem_pieces {sep c : Char} {s : List Char} (hne : c ≠ sep)
    (h : ∀ p ∈ pieces sep s, c ∉ p) : c ∉ s := by
  induction s with
  | nil =>
      simp
  | cons d rest ih =>
      rw [pieces] at h
      cases hp : pieces sep rest with
      | nil =>
          exact absurd hp (pieces_ne_nil sep rest)
      | cons q qs =>
          rw [hp] at h ih
          by_cases hd : d = sep
          · subst hd
            simp only [if_true, List.mem_cons, forall_eq_or_imp] at h
            simp only [List.mem_cons, not_or]
            refine ⟨hne, ih fun p hp => ?_⟩
            rcases List.mem_cons.mp hp with hp | hp
            · subst hp
              exact h.2.1
            · exact h.2.2 p hp
          · simp only [hd, if_false, List.mem_cons, forall_eq_or_imp, not_or] at h
            simp only [List.mem_cons, not_or]
            refine ⟨h.1.1, ih fun p hp => ?_⟩
            rcases List.mem_cons.mp hp with hp | hp
            · subst hp
              exact h.1.2
            · exact h.2 p hp

theorem pieces_of_not_mem {sep : Char} {s : List Char} (h : sep ∉ s) : pieces sep s = [s] := by
  induction s with
  | nil =>
      rfl
  | cons c rest ih =>
      simp only [List.mem_cons, not_or] at h
      rw [pieces, if_neg (Ne.symm h.1), ih h.2]

/-! ## Numerals -/

theorem not_mem_of_digitsValue? {radix value n : Nat} {c : Char} (hc : digitValue? radix c = none)
    {s : List Char} (h : digitsValue? radix value s = some n) : c ∉ s := by
  induction s generalizing value with
  | nil =>
      simp
  | cons d rest ih =>
      rw [digitsValue?] at h
      cases hd : digitValue? radix d with
      | none =>
          rw [hd] at h
          cases h
      | some v =>
          rw [hd] at h
          simp only [List.mem_cons, not_or]
          refine ⟨?_, ih h⟩
          intro hcd
          subst hcd
          rw [hc] at hd
          cases hd

theorem not_mem_of_readDigits? {radix n : Nat} {c : Char} (hc : digitValue? radix c = none)
    {s : List Char} (h : readDigits? radix s = some n) : c ∉ s := by
  cases s with
  | nil =>
      simp
  | cons d rest =>
      exact not_mem_of_digitsValue? hc h

theorem not_mem_of_readBelow? {radix bound n : Nat} {c : Char} (hc : digitValue? radix c = none)
    (hplus : c ≠ '+') {s : List Char} (h : readBelow? radix bound s = some n) : c ∉ s := by
  unfold readBelow? at h
  cases hd : readDigits? radix (dropPlus s) with
  | none =>
      rw [hd] at h
      cases h
  | some m =>
      have hmem := not_mem_of_readDigits? hc hd
      unfold dropPlus at hmem
      split at hmem
      · simp only [List.mem_cons, not_or]
        exact ⟨hplus, hmem⟩
      · exact hmem

end Text

/-! ## Addresses -/

namespace IpV4

theorem not_mem_of_readOctet? {c : Char} (hc : Text.digitValue? 10 c = none) {s : List Char}
    {o : UInt8} (h : readOctet? s = some o) : c ∉ s := by
  unfold readOctet? at h
  split at h
  · cases h
  · cases hd : Text.readDigits? 10 s with
    | none =>
        rw [hd] at h
        cases h
    | some n =>
        exact Text.not_mem_of_readDigits? hc hd

theorem not_mem_of_ofChars? {c : Char} (hc : Text.digitValue? 10 c = none) (hdot : c ≠ '.')
    {s : List Char} {x : IpV4} (h : ofChars? s = some x) : c ∉ s := by
  unfold ofChars? at h
  split at h
  · rename_i a b d e hp
    split at h
    · rename_i hoa hob hod hoe
      refine Text.not_mem_of_not_mem_pieces hdot fun p hmem => ?_
      rw [hp] at hmem
      simp only [List.mem_cons, List.not_mem_nil, or_false] at hmem
      rcases hmem with rfl | rfl | rfl | rfl
      · exact not_mem_of_readOctet? hc hoa
      · exact not_mem_of_readOctet? hc hob
      · exact not_mem_of_readOctet? hc hod
      · exact not_mem_of_readOctet? hc hoe
    · cases h
  · cases h

end IpV4

namespace IpV6

variable {c : Char}

theorem not_mem_of_readGroup? (hc : Text.digitValue? 16 c = none) {s : List Char} {g : UInt16}
    (h : readGroup? s = some g) : c ∉ s := by
  unfold readGroup? at h
  split at h
  · cases h
  · cases hd : Text.readDigits? 16 s with
    | none =>
        rw [hd] at h
        cases h
    | some n =>
        exact Text.not_mem_of_readDigits? hc hd

theorem not_mem_of_readGroups? (hc : Text.digitValue? 16 c = none)
    (hc' : Text.digitValue? 10 c = none) (hdot : c ≠ '.') {dotted : Bool} :
    ∀ {parts : List (List Char)} {gs : List UInt16}, readGroups? dotted parts = some gs →
      ∀ p ∈ parts, c ∉ p
  | [], _, _ => by
      simp
  | [last], gs, h => by
      intro p hp
      rcases List.mem_singleton.mp hp with rfl
      rw [readGroups?] at h
      split at h
      · rename_i g hg
        exact not_mem_of_readGroup? hc hg
      · split at h
        · rcases Option.map_eq_some_iff.mp h with ⟨x, hx, _⟩
          exact IpV4.not_mem_of_ofChars? hc' hdot hx
        · cases h
  | s :: t :: rest, gs, h => by
      rw [readGroups?] at h
      split at h
      · rename_i g gs' hg hgs
        intro p hp
        rcases List.mem_cons.mp hp with rfl | hp
        · exact not_mem_of_readGroup? hc hg
        · exact not_mem_of_readGroups? hc hc' hdot hgs p hp
      · cases h
      · intro he
        cases he

theorem eq_of_cutDouble? {s front back : List Char} (h : cutDouble? s = some (front, back)) :
    s = front ++ ':' :: ':' :: back := by
  induction s generalizing front with
  | nil =>
      cases h
  | cons d rest ih =>
      unfold cutDouble? at h
      split at h
      · rename_i rest' heq
        cases h
        simpa using heq
      · rename_i d' rest' _ heq
        cases heq
        rcases Option.map_eq_some_iff.mp h with ⟨⟨a, b⟩, hab, hp⟩
        cases hp
        rw [ih hab]
        rfl
      · cases h

theorem not_mem_of_readSide? (hc : Text.digitValue? 16 c = none)
    (hc' : Text.digitValue? 10 c = none) (hdot : c ≠ '.') (hcolon : c ≠ ':') {dotted : Bool}
    {s : List Char} {gs : List UInt16} (h : readSide? dotted s = some gs) : c ∉ s := by
  unfold readSide? at h
  split at h
  · rename_i hs
    rw [List.isEmpty_iff.mp hs]
    simp
  · exact Text.not_mem_of_not_mem_pieces hcolon (not_mem_of_readGroups? hc hc' hdot h)

theorem not_mem_of_ofChars? (hc : Text.digitValue? 16 c = none)
    (hc' : Text.digitValue? 10 c = none) (hdot : c ≠ '.') (hcolon : c ≠ ':') {s : List Char}
    {x : IpV6} (h : ofChars? s = some x) : c ∉ s := by
  unfold ofChars? at h
  split at h
  · rcases Option.bind_eq_some_iff.mp h with ⟨gs, hgs, _⟩
    exact Text.not_mem_of_not_mem_pieces hcolon (not_mem_of_readGroups? hc hc' hdot hgs)
  · rename_i front back hcut
    split at h
    · rename_i gs gs' hfront hback
      rw [eq_of_cutDouble? hcut]
      simp only [List.mem_append, List.mem_cons, not_or]
      exact ⟨not_mem_of_readSide? hc hc' hdot hcolon hfront, hcolon, hcolon,
        not_mem_of_readSide? hc hc' hdot hcolon hback⟩
    · cases h

/-- One piece gives two groups at most, which is too few. -/
theorem colon_mem_of_ofChars? {s : List Char} {x : IpV6} (h : ofChars? s = some x) : ':' ∈ s := by
  by_cases hs : ':' ∈ s
  · exact hs
  unfold ofChars? at h
  split at h
  · rcases Option.bind_eq_some_iff.mp h with ⟨gs, hgs, hx⟩
    rw [Text.pieces_of_not_mem hs, readGroups?] at hgs
    have hlength : gs.length ≤ 2 := by
      split at hgs
      · cases hgs
        simp
      · split at hgs
        · rcases Option.map_eq_some_iff.mp hgs with ⟨y, _, rfl⟩
          simp [groupsOfV4]
        · cases hgs
    unfold ofGroups? at hx
    split at hx
    · omega
    · cases hx
  · rename_i front back hcut
    rw [eq_of_cutDouble? hcut]
    simp

end IpV6

namespace Ip

theorem not_mem_of_ofChars? {c : Char} (hten : Text.digitValue? 10 c = none)
    (hsixteen : Text.digitValue? 16 c = none) (hdot : c ≠ '.') (hcolon : c ≠ ':')
    {s : List Char} {x : Ip} (h : ofChars? s = some x) : c ∉ s := by
  unfold ofChars? at h
  split at h
  · rename_i y hy
    exact IpV4.not_mem_of_ofChars? hten hdot hy
  · rcases Option.map_eq_some_iff.mp h with ⟨y, hy, _⟩
    exact IpV6.not_mem_of_ofChars? hsixteen hten hdot hcolon hy

theorem ampersand_not_mem_of_ofChars? {s : List Char} {x : Ip} (h : ofChars? s = some x) :
    '&' ∉ s :=
  not_mem_of_ofChars? (by decide) (by decide) (by decide) (by decide) h

theorem isV6_iff_of_ofChars? {s : List Char} {x : Ip} (h : ofChars? s = some x) :
    x.isV6 = true ↔ ':' ∈ s := by
  unfold ofChars? at h
  split at h
  · rename_i y hy
    cases h
    have hcolon : ':' ∉ s := IpV4.not_mem_of_ofChars? (by decide) (by decide) hy
    simp [isV6, hcolon]
  · rcases Option.map_eq_some_iff.mp h with ⟨y, hy, rfl⟩
    simp [isV6, IpV6.colon_mem_of_ofChars? hy]

end Ip

namespace NetAddress

/-- A text that reads as a network address has no ampersand. -/
theorem ampersand_not_mem_of_ofChars? {s : List Char} {a : NetAddress}
    (h : ofChars? s = some a) : '&' ∉ s := by
  unfold ofChars? at h
  split at h
  · rcases Option.map_eq_some_iff.mp h with ⟨x, hx, _⟩
    have hmem := Ip.ampersand_not_mem_of_ofChars? hx
    rwa [Text.mem_trimChars_iff (by decide)] at hmem
  · rename_i ip mask hcut
    split at h
    · rename_i x m hx hm
      have hip := Ip.ampersand_not_mem_of_ofChars? hx
      have hmask := Text.not_mem_of_readBelow? (c := '&') (by decide) (by decide) hm
      rw [Text.mem_trimChars_iff (by decide)] at hip hmask
      rw [(Text.cutFirst?_eq_some hcut).1]
      simp [hip, hmask]
    · cases h

/-- The address is of version six exactly if its text has a colon. -/
theorem isV6_iff_of_ofChars? {s : List Char} {a : NetAddress} (h : ofChars? s = some a) :
    a.isV6 = true ↔ ':' ∈ s := by
  unfold ofChars? at h
  split at h
  · rcases Option.map_eq_some_iff.mp h with ⟨x, hx, rfl⟩
    exact (Ip.isV6_iff_of_ofChars? hx).trans (Text.mem_trimChars_iff (by decide) s)
  · rename_i ip mask hcut
    split at h
    · rename_i x m hx hm
      split at h
      · cases h
        have hmask := Text.not_mem_of_readBelow? (c := ':') (by decide) (by decide) hm
        rw [Text.mem_trimChars_iff (by decide)] at hmask
        rw [(Text.cutFirst?_eq_some hcut).1]
        have hip := (Ip.isV6_iff_of_ofChars? hx).trans (Text.mem_trimChars_iff (by decide) ip)
        refine hip.trans ?_
        simp [hmask]
      · cases h
    · cases h

end NetAddress
end LogicalNet
