import LogicalNet.Command.Remote
import LogicalNet.Proofs.Address.RoundTrip
import Mathlib.Data.List.DropRight

/-!
# Written addresses of the database

A remote at a port is written as its scheme, its host and its port with colons between them,
and the host may stand in brackets; a remote at a path is written as the path behind its
scheme.  The address is cut at its first colon and at its last one, so that the host may have
colons of its own, and brackets count at the ends of the host only.

The texts of each remote are those of a grammar.  A remote that is read is written in the
usual ways by two forms or one, and each of them reads as the remote, with blanks around it
or not.
-/

namespace LogicalNet
namespace Text

/-! ## Both ends of a text -/

variable {p q : Char → Bool} {s front body back : List Char}

/-- The text without what `p` holds of in front and `q` behind. -/
def strip (p q : Char → Bool) (s : List Char) : List Char :=
  (s.dropWhile p).rdropWhile q

/-- A text with nothing to strip at its ends. -/
structure Bare (p q : Char → Bool) (s : List Char) : Prop where
  ne_nil : s ≠ []
  head : ∀ c ∈ s.head?, p c = false
  last : ∀ c ∈ s.getLast?, q c = false

theorem dropWhile_append_append (hne : body ≠ []) (hhead : ∀ c ∈ body.head?, p c = false)
    (hfront : ∀ c ∈ front, p c = true) (back : List Char) :
    (front ++ body ++ back).dropWhile p = body ++ back := by
  rw [List.append_assoc, List.dropWhile_append_of_pos hfront]
  cases body with
  | nil =>
      exact absurd rfl hne
  | cons c body =>
      rw [List.cons_append, List.dropWhile_cons_of_neg]
      simp [hhead c rfl]

theorem Bare.strip_append (h : Bare p q body) (hfront : ∀ c ∈ front, p c = true)
    (hback : ∀ c ∈ back, q c = true) : strip p q (front ++ body ++ back) = body := by
  have hlast : ∀ c ∈ body.reverse.head?, q c = false := by
    rw [List.head?_reverse]
    exact h.last
  have hmirrored : ((body ++ back).reverse).dropWhile q = body.reverse := by
    have hdrop : (back.reverse ++ body.reverse ++ []).dropWhile q = body.reverse ++ [] :=
      dropWhile_append_append (by simpa using h.ne_nil) hlast
        (fun c hc => hback c (List.mem_reverse.mp hc)) []
    rwa [List.append_nil, List.append_nil, ← List.reverse_append] at hdrop
  rw [strip, dropWhile_append_append h.ne_nil h.head hfront, List.rdropWhile, hmirrored,
    List.reverse_reverse]

theorem bare_strip (h : strip p q s ≠ []) : Bare p q (strip p q s) where
  ne_nil := h
  head := by
    intro c hc
    rcases List.head?_eq_some_iff.mp hc with ⟨rest, hrest⟩
    rcases List.rdropWhile_prefix q (s.dropWhile p) with ⟨back, hback⟩
    have hfirst := List.head?_dropWhile_not p s
    rw [← hback, ← strip, hrest] at hfirst
    exact hfirst
  last := by
    intro c hc
    have hlast := List.rdropWhile_last_not q (s.dropWhile p) h
    rw [List.getLast?_eq_getLast_of_ne_nil h, Option.mem_some_iff] at hc
    rw [← hc]
    exact Bool.eq_false_iff.mpr hlast

/-- Stripping takes away a part in front and a part behind. -/
theorem exists_eq_append_strip (p q : Char → Bool) (s : List Char) :
    ∃ front back, s = front ++ strip p q s ++ back ∧ (∀ c ∈ front, p c = true) ∧
      ∀ c ∈ back, q c = true := by
  refine ⟨s.takeWhile p, (s.dropWhile p).rtakeWhile q, ?_, fun c => List.mem_takeWhile_imp,
    fun c => List.mem_rtakeWhile_imp⟩
  rw [strip, List.append_assoc, List.rdropWhile_append_rtakeWhile, List.takeWhile_append_dropWhile]

theorem cutLast?_eq_some_iff {sep : Char} {s a b : List Char} :
    cutLast? sep s = some (a, b) ↔ s = a ++ sep :: b ∧ sep ∉ b := by
  constructor
  · intro h
    rcases Option.map_eq_some_iff.mp h with ⟨⟨behind, before⟩, hcut, hparts⟩
    cases hparts
    rcases cutFirst?_eq_some hcut with ⟨hs, hsep⟩
    refine ⟨?_, by simpa using hsep⟩
    rw [← List.reverse_reverse s, hs]
    simp
  · rintro ⟨rfl, hsep⟩
    exact cutLast?_append hsep a

theorem lt_of_readBelow? {radix bound n : Nat} (h : readBelow? radix bound s = some n) :
    n < bound := by
  unfold readBelow? at h
  split at h
  · split at h
    · rename_i hlt
      cases h
      exact hlt
    · cases h
  · cases h

end Text

namespace Remote

/-! ## Grammar -/

/-- A host with nothing of the brackets around it. -/
def BareHost (host : List Char) : Prop :=
  Text.Bare (· == '[') (· == ']') host

/-- Host and port with a colon between them, the host in any number of brackets. -/
inductive HostPort : String → UInt16 → List Char → Prop where
  | mk {host front back numeral : List Char} {port : UInt16} (hhost : BareHost host)
      (hfront : ∀ c ∈ front, c = '[') (hback : ∀ c ∈ back, c = ']')
      (hport : Text.readBelow? 10 (2 ^ 16) numeral = some port.toNat) :
      HostPort (String.ofList host) port (front ++ host ++ back ++ ':' :: numeral)

/-- The texts of a remote. -/
inductive Spells : Remote → List Char → Prop where
  | tcp {host : String} {port : UInt16} {s : List Char} (h : HostPort host port s) :
      Spells (.tcp host port) ("tcp".toList ++ ':' :: s)
  | ssl {host : String} {port : UInt16} {s : List Char} (h : HostPort host port s) :
      Spells (.ssl host port) ("ssl".toList ++ ':' :: s)
  | path {path : List Char} (hne : path ≠ []) :
      Spells (.path (String.ofList path)) ("unix".toList ++ ':' :: path)

theorem dropBrackets_eq_strip (host : List Char) :
    dropBrackets host = Text.strip (· == '[') (· == ']') host :=
  rfl

/-- Host and port are cut at the last colon, which a numeral does not have. -/
theorem readHostPort_eq_ok_iff {s : List Char} {host : String} {port : UInt16} :
    readHostPort s = .ok (host, port) ↔ HostPort host port s := by
  constructor
  · intro h
    unfold readHostPort at h
    split at h
    · cases h
    · rename_i written numeral hcut
      dsimp only at h
      split at h
      · cases h
      rename_i hne
      split at h
      · rename_i n hport
        cases h
        rcases Text.cutLast?_eq_some_iff.mp hcut with ⟨rfl, -⟩
        rw [dropBrackets_eq_strip] at hne ⊢
        obtain ⟨front, back, hwritten, hfront, hback⟩ :=
          Text.exists_eq_append_strip (· == '[') (· == ']') written
        have hbare : BareHost (Text.strip (· == '[') (· == ']') written) :=
          Text.bare_strip (by simpa using hne)
        have hvalue : n.toUInt16.toNat = n := UInt16.toNat_ofNat_of_lt (Text.lt_of_readBelow? hport)
        rw [← hvalue] at hport
        have hspelled := HostPort.mk hbare (by simpa using hfront) (by simpa using hback) hport
        rwa [← hwritten] at hspelled
      · cases h
  · intro h
    cases h with
    | @mk host front back numeral port hhost hfront hback hport =>
        have hcolon : ':' ∉ numeral :=
          Text.not_mem_of_readBelow? (by decide) (by decide) hport
        have hstrip : dropBrackets (front ++ host ++ back) = host :=
          Text.Bare.strip_append hhost (by simpa using hfront) (by simpa using hback)
        have hne : host.isEmpty = false := by
          simpa using hhost.ne_nil
        have hsame : port.toNat.toUInt16 = port := UInt16.ofNat_toNat
        simp only [readHostPort, Text.cutLast?_append hcolon, hstrip, hne, hport, hsame]
        rfl

theorem ofChars_tcp (s : List Char) :
    ofChars ("tcp".toList ++ ':' :: s) = (readHostPort s).map fun p => tcp p.1 p.2 := by
  have hcut := Text.cutFirst?_append (show ':' ∉ "tcp".toList by decide) s
  simp only [ofChars, hcut, String.ofList_toList]
  rfl

theorem ofChars_ssl (s : List Char) :
    ofChars ("ssl".toList ++ ':' :: s) = (readHostPort s).map fun p => ssl p.1 p.2 := by
  have hcut := Text.cutFirst?_append (show ':' ∉ "ssl".toList by decide) s
  simp only [ofChars, hcut, String.ofList_toList]
  rfl

theorem ofChars_unix (s : List Char) : ofChars ("unix".toList ++ ':' :: s) =
    if s.isEmpty then .error .unsupported else .ok (path (String.ofList s)) := by
  have hcut := Text.cutFirst?_append (show ':' ∉ "unix".toList by decide) s
  simp only [ofChars, hcut, String.ofList_toList]
  rfl

/-- What is made of host and port is made of the host and the port that are written. -/
theorem map_readHostPort_eq_ok_iff {make : String × UInt16 → Remote} {s : List Char} {r : Remote} :
    (readHostPort s).map make = .ok r ↔
      ∃ host port, HostPort host port s ∧ make (host, port) = r := by
  simp only [← readHostPort_eq_ok_iff]
  cases readHostPort s with
  | error e =>
      simp [Except.map]
  | ok written =>
      simp [Except.map, Prod.ext_iff]

theorem ofChars_eq_ok_iff {s : List Char} {r : Remote} : ofChars s = .ok r ↔ Spells r s := by
  constructor
  · intro h
    have hscheme : ∀ {scheme : List Char} {name : String}, String.ofList scheme = name →
        scheme = name.toList := by
      rintro scheme name rfl
      exact String.toList_ofList.symm
    unfold ofChars at h
    split at h
    · cases h
    split at h
    · cases h
    rename_i scheme rest hcut
    rcases Text.cutFirst?_eq_some hcut with ⟨rfl, -⟩
    split at h
    · rename_i hname
      rcases map_readHostPort_eq_ok_iff.mp h with ⟨host, port, hwritten, rfl⟩
      rw [hscheme hname]
      exact .tcp hwritten
    · rename_i hname
      rcases map_readHostPort_eq_ok_iff.mp h with ⟨host, port, hwritten, rfl⟩
      rw [hscheme hname]
      exact .ssl hwritten
    · rename_i hname
      split at h
      · cases h
      · rename_i hne
        cases h
        rw [hscheme hname]
        exact .path (by simpa using hne)
    · cases h
  · intro h
    cases h with
    | tcp h =>
        rw [ofChars_tcp]
        exact map_readHostPort_eq_ok_iff.mpr ⟨_, _, h, rfl⟩
    | ssl h =>
        rw [ofChars_ssl]
        exact map_readHostPort_eq_ok_iff.mpr ⟨_, _, h, rfl⟩
    | path hne =>
        rw [ofChars_unix, if_neg (by simpa using hne)]

/-- An address that reads as a remote is one of the texts of the remote, with blanks around it. -/
theorem ofText_eq_ok_iff_spells {s : String} {r : Remote} :
    ofText s = .ok r ↔ Spells r (Text.trimChars s.toList) := by
  rw [← ofChars_eq_ok_iff, ofText]
  split
  · rename_i h
    simp [h]
  · rename_i h
    simp [h]

/-! ## Usual forms -/

/-- The ways to write a host and a port behind a scheme. -/
def portForms (scheme host : String) (port : UInt16) : List String :=
  [scheme ++ ":" ++ host ++ ":" ++ Text.decimal port.toNat,
    scheme ++ ":[" ++ host ++ "]:" ++ Text.decimal port.toNat]

/-- The usual ways to write a remote. -/
def forms : Remote → List String
  | tcp host port => portForms "tcp" host port
  | ssl host port => portForms "ssl" host port
  | .path p => ["unix:" ++ p]

/-- A remote that can be written: a host has no bracket at the ends where brackets are taken
away, and a path no blank where blanks are. -/
def Sound : Remote → Prop
  | tcp host _ | ssl host _ =>
      host ≠ "" ∧ host.toList.head? ≠ some '[' ∧ host.toList.getLast? ≠ some ']'
  | .path p => p ≠ "" ∧ ∀ c ∈ p.toList.getLast?, Text.isBlank c = false

/-! ### Ends of the texts -/

/-- The host and port are behind a text without a blank end. -/
theorem HostPort.last {host : String} {port : UInt16} {s : List Char} (h : HostPort host port s) :
    s ≠ [] ∧ ∀ c ∈ s.getLast?, Text.isBlank c = false := by
  cases h with
  | @mk host front back numeral port hhost hfront hback hport =>
      have hne : numeral ≠ [] := by
        rintro rfl
        cases hport
      refine ⟨by simp, fun c hc => ?_⟩
      have hmem : c ∈ numeral := by
        rw [List.append_cons, List.getLast?_append_of_ne_nil _ hne] at hc
        exact List.mem_of_getLast? hc
      cases hblank : Text.isBlank c with
      | false =>
          rfl
      | true =>
          have hplus : c ≠ '+' := by
            rintro rfl
            cases hblank
          exact absurd hmem
            (Text.not_mem_of_readBelow? (Text.digitValue?_of_isBlank hblank 10) hplus hport)

theorem HostPort.sound {host : String} {port : UInt16} {s : List Char} (h : HostPort host port s) :
    host ≠ "" ∧ host.toList.head? ≠ some '[' ∧ host.toList.getLast? ≠ some ']' := by
  cases h with
  | @mk host front back numeral port hhost hfront hback hport =>
      refine ⟨?_, ?_, ?_⟩
      · intro hempty
        exact hhost.ne_nil (by simpa using congrArg String.toList hempty)
      · intro hhead
        rw [String.toList_ofList] at hhead
        cases hhost.head '[' hhead
      · intro hlast
        rw [String.toList_ofList] at hlast
        cases hhost.last ']' hlast

theorem bare_behind_scheme {scheme s : List Char}
    (hscheme : (scheme ++ [':']).any Text.isBlank = false)
    (h : s ≠ [] ∧ ∀ c ∈ s.getLast?, Text.isBlank c = false) :
    Text.Bare Text.isBlank Text.isBlank (scheme ++ ':' :: s) := by
  rw [List.append_cons]
  refine ⟨by simp, fun c hc => ?_, ?_⟩
  · rw [List.head?_append_of_ne_nil _ (by simp)] at hc
    exact Bool.eq_false_iff.mpr (List.any_eq_false.mp hscheme c (List.mem_of_head? hc))
  · rw [List.getLast?_append_of_ne_nil _ h.1]
    exact h.2

/-- The texts of a remote that can be written have no blanks at their ends. -/
theorem Spells.bare {r : Remote} {s : List Char} (h : Spells r s) (hsound : r.Sound) :
    Text.Bare Text.isBlank Text.isBlank s := by
  cases h with
  | tcp h =>
      exact bare_behind_scheme (by decide) h.last
  | ssl h =>
      exact bare_behind_scheme (by decide) h.last
  | @path path hne =>
      have hlast := hsound.2
      rw [String.toList_ofList] at hlast
      exact bare_behind_scheme (by decide) ⟨hne, hlast⟩

/-- What is read without blanks at its ends can be written. -/
theorem Spells.sound {r : Remote} {s : List Char} (h : Spells r s)
    (hbare : Text.Bare Text.isBlank Text.isBlank s) : r.Sound := by
  cases h with
  | tcp h =>
      exact h.sound
  | ssl h =>
      exact h.sound
  | @path path hne =>
      refine ⟨fun hempty => hne (by simpa using congrArg String.toList hempty), fun c hc => ?_⟩
      rw [String.toList_ofList] at hc
      refine hbare.last c ?_
      rw [List.append_cons, List.getLast?_append_of_ne_nil _ hne]
      exact hc

/-! ### Reading what is written -/

theorem hostPort_of_sound {host : String} (h : host ≠ "" ∧ host.toList.head? ≠ some '[' ∧
    host.toList.getLast? ≠ some ']') (port : UInt16) {front back : List Char}
    (hfront : ∀ c ∈ front, c = '[') (hback : ∀ c ∈ back, c = ']') : HostPort host port
      (front ++ host.toList ++ back ++ ':' :: Text.decimalChars port.toNat) := by
  have hbare : BareHost host.toList := by
    refine ⟨fun hempty => h.1 (String.toList_eq_nil_iff.mp hempty), fun c hc => ?_, fun c hc => ?_⟩
    · refine beq_eq_false_iff_ne.mpr fun hbracket => h.2.1 ?_
      rw [← hbracket]
      exact hc
    · refine beq_eq_false_iff_ne.mpr fun hbracket => h.2.2 ?_
      rw [← hbracket]
      exact hc
  have hspelled := HostPort.mk hbare hfront hback (Text.readBelow?_decimalChars port.toNat_lt)
  rwa [String.ofList_toList] at hspelled

theorem hostPort_of_mem_portForms {scheme host form : String} {port : UInt16}
    (h : host ≠ "" ∧ host.toList.head? ≠ some '[' ∧ host.toList.getLast? ≠ some ']')
    (hform : form ∈ portForms scheme host port) :
    ∃ s, HostPort host port s ∧ form.toList = scheme.toList ++ ':' :: s := by
  simp only [portForms, List.mem_cons, List.not_mem_nil, or_false] at hform
  rcases hform with rfl | rfl
  · have hplain : HostPort host port
        ([] ++ host.toList ++ [] ++ ':' :: Text.decimalChars port.toNat) :=
      hostPort_of_sound h port (by simp) (by simp)
    exact ⟨_, hplain, by simp [Text.decimal]⟩
  · have hbracketed : HostPort host port
        (['['] ++ host.toList ++ [']'] ++ ':' :: Text.decimalChars port.toNat) :=
      hostPort_of_sound h port (by simp) (by simp)
    exact ⟨_, hbracketed, by simp [Text.decimal]⟩

/-- The usual forms are texts of the remote. -/
theorem Sound.spells {r : Remote} (h : r.Sound) {form : String} (hform : form ∈ r.forms) :
    Spells r form.toList := by
  cases r with
  | tcp host port =>
      rcases hostPort_of_mem_portForms h hform with ⟨s, hs, hlist⟩
      rw [hlist]
      exact .tcp hs
  | ssl host port =>
      rcases hostPort_of_mem_portForms h hform with ⟨s, hs, hlist⟩
      rw [hlist]
      exact .ssl hs
  | path p =>
      have hne : p.toList ≠ [] := fun hempty => h.1 (String.toList_eq_nil_iff.mp hempty)
      have hspelled := Spells.path hne
      rw [String.ofList_toList] at hspelled
      rw [List.mem_singleton.mp hform, String.toList_append]
      exact hspelled

/-- Blanks around a text of a remote do not count. -/
theorem ofText_of_spells {r : Remote} (h : r.Sound) {form before after : String}
    (hform : Spells r form.toList) (hbefore : Text.isBlankText before = true)
    (hafter : Text.isBlankText after = true) : ofText (before ++ form ++ after) = .ok r := by
  have htrim : Text.trimChars (before ++ form ++ after).toList = form.toList := by
    rw [String.toList_append, String.toList_append]
    exact (hform.bare h).strip_append (List.all_eq_true.mp hbefore) (List.all_eq_true.mp hafter)
  rw [ofText_eq_ok_iff_spells, htrim]
  exact hform

theorem sound_of_ofText {s : String} {r : Remote} (h : ofText s = .ok r) : r.Sound := by
  have hspells := ofText_eq_ok_iff_spells.mp h
  refine hspells.sound (Text.bare_strip fun hempty => ?_)
  have hnone : Text.trimChars s.toList = [] := hempty
  rw [hnone] at hspells
  cases hspells

/-- A remote whose host or path can be written is read from each of its usual forms, with blanks
around it or not.  Every address that reads as a remote is a text of it with blanks around it; the
remote can be written, and each of its usual forms reads as the remote again.  Every other address
has a connection error that names it as it was given. -/
theorem ofText_usual_forms :
    (∀ r : Remote, r.Sound → ∀ form ∈ r.forms, ∀ before after, Text.isBlankText before = true →
      Text.isBlankText after = true → ofText (before ++ form ++ after) = .ok r) ∧
    (∀ s r, ofText s = .ok r ↔ Spells r (Text.trimChars s.toList)) ∧
    (∀ s r, ofText s = .ok r → r.Sound ∧ ∀ form ∈ r.forms, ofText form = .ok r) ∧
    ∀ s e, ofText s = .error e → ∃ cause, e = .connection s cause := by
  refine ⟨fun r h form hform before after => ofText_of_spells h (h.spells hform),
    fun s r => ofText_eq_ok_iff_spells, ?again, ?failure⟩
  case again =>
    intro s r h
    have hsound := sound_of_ofText h
    refine ⟨hsound, fun form hform => ?_⟩
    have hread : ofText ("" ++ form ++ "") = .ok r :=
      ofText_of_spells hsound (hsound.spells hform) rfl rfl
    rwa [String.append_empty, String.empty_append] at hread
  case failure =>
    intro s e h
    unfold ofText at h
    split at h
    · cases h
    · cases h
      exact ⟨_, rfl⟩

/-- The last colon is that of the port, also for a host with colons. -/
example : ofChars "tcp:fd00::1:6641".toList = .ok (.tcp "fd00::1" 6641) := by
  decide +kernel

end Remote
end LogicalNet
