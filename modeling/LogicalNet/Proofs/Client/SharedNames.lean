import LogicalNet.Proofs.Client.Listing

/-!
# Names that different ids share

The ports on both sides of an interface are named for the router and the network, with a
separator in between that may stand in an id as well.  So a name may be cut at more than
one place, and each cut gives a router and a network of its own.  The same way the peer of
an interface may have the name of the port to a physical network, as the id of a router may
end like the name of such a port.

Ports of machines share their names with no others.  All other names are apart as long as
no id of a router or of a network has the separator in it.
-/

namespace LogicalNet

/-! ## Texts that can be cut in two ways -/

namespace Text

/-- The word with a dash on either side. -/
def dashed (word : List Char) : List Char :=
  '-' :: word ++ ['-']

/-- Two places at which the word stands between dashes have at most a dash in common. -/
def MeetsInDash (word : List Char) : Prop :=
  ∀ d < word.length, ¬ (dashed word).drop (d + 1) <+: dashed word

instance (word : List Char) : Decidable (MeetsInDash word) :=
  inferInstanceAs (Decidable (∀ d < word.length, _))

/-- The word stands twice in the text between dashes, the second time in front of `b'`. -/
theorem exists_rest_of_dashed_append_eq {word b v b' : List Char} (hword : MeetsInDash word)
    (h : dashed word ++ b = v ++ (dashed word ++ b')) (hv : v ≠ []) :
    ∃ rest, v ++ ['-'] = dashed word ++ rest ∧ b = rest ++ (word ++ '-' :: b') := by
  have hlong : word.length < v.length := by
    refine Nat.lt_of_not_le fun hle => ?_
    have hpos := List.length_pos_iff.mpr hv
    have hoverlap : (dashed word).drop v.length <+: dashed word := by
      have hbehind := congrArg (List.drop v.length) h
      rw [List.drop_left, List.drop_append_of_le_length (by simp [dashed]; omega)] at hbehind
      refine List.prefix_of_prefix_length_le (List.prefix_append _ b) ?_ (by simp)
      rw [hbehind]
      exact List.prefix_append _ b'
    have hmeets := hword (v.length - 1) (by omega)
    rw [Nat.sub_add_cancel hpos] at hmeets
    exact hmeets hoverlap
  have hshift : dashed word ++ b = (v ++ ['-']) ++ (word ++ '-' :: b') := by
    rw [h]
    simp [dashed]
  rcases List.append_eq_append_iff.mp hshift with ⟨rest, hrest, hb⟩ | ⟨rest, hrest, hb⟩
  · exact ⟨rest, hrest, hb⟩
  · have hlength := congrArg List.length hrest
    simp only [dashed, List.length_append, List.length_cons, List.length_nil] at hlength
    have hnil : rest = [] := List.length_eq_zero_iff.mp (by omega)
    subst hnil
    exact ⟨[], by simpa using hrest.symm, by simpa using hb.symm⟩

/-- Both pairs read the same with the word in the middle, between dashes, but the second is cut at a
later place; the two places may share a dash. -/
def CutLater (word a b a' b' : String) : Prop :=
  ∃ rest, a' ++ "-" = a ++ "-" ++ word ++ "-" ++ rest ∧ b = rest ++ word ++ "-" ++ b'

variable {word a b a' b' : String}

theorem CutLater.eq (h : CutLater word a b a' b') :
    a ++ "-" ++ word ++ "-" ++ b = a' ++ "-" ++ word ++ "-" ++ b' := by
  rcases h with ⟨rest, ha, hb⟩
  rw [ha, hb]
  simp only [String.append_assoc]

theorem cutLater_of_append_eq (hword : MeetsInDash word.toList) {v : List Char} (hv : v ≠ [])
    (ha : a'.toList = a.toList ++ v)
    (h : dashed word.toList ++ b.toList = v ++ (dashed word.toList ++ b'.toList)) :
    CutLater word a b a' b' := by
  rcases exists_rest_of_dashed_append_eq hword h hv with ⟨rest, hrest, hb⟩
  refine ⟨String.ofList rest, String.toList_inj.mp ?_, String.toList_inj.mp ?_⟩
  · simpa [ha, dashed] using hrest
  · simpa using hb

/-- Two pairs with the word in the middle read the same only if they are the same or the place of the
word moves. -/
theorem append_dashed_append_eq_iff (hword : MeetsInDash word.toList) :
    a ++ "-" ++ word ++ "-" ++ b = a' ++ "-" ++ word ++ "-" ++ b' ↔
      (a = a' ∧ b = b') ∨ CutLater word a b a' b' ∨ CutLater word a' b' a b := by
  constructor
  · intro h
    have hlist : a.toList ++ (dashed word.toList ++ b.toList) =
        a'.toList ++ (dashed word.toList ++ b'.toList) := by
      simpa [dashed] using congrArg String.toList h
    rcases List.append_eq_append_iff.mp hlist with ⟨v, ha, hv⟩ | ⟨v, ha, hv⟩
    · cases v with
      | nil =>
          refine .inl ⟨String.toList_inj.mp (by simpa using ha.symm), String.toList_inj.mp ?_⟩
          exact List.append_cancel_left hv
      | cons c v =>
          exact .inr (.inl (cutLater_of_append_eq hword (List.cons_ne_nil c v) ha hv))
    · cases v with
      | nil =>
          refine .inl ⟨String.toList_inj.mp (by simpa using ha), String.toList_inj.mp ?_⟩
          exact (List.append_cancel_left hv).symm
      | cons c v =>
          exact .inr (.inr (cutLater_of_append_eq hword (List.cons_ne_nil c v) ha hv))
  · rintro (⟨rfl, rfl⟩ | h | h)
    · rfl
    · exact h.eq
    · exact h.eq.symm

theorem CutLater.isInfix (h : CutLater word a b a' b') : '-' :: word.toList <:+: a'.toList := by
  rcases h with ⟨rest, ha, _⟩
  have hlist : a'.toList ++ ['-'] =
      (a.toList ++ '-' :: word.toList) ++ ('-' :: rest.toList) := by
    simpa using congrArg String.toList ha
  have hlength := congrArg List.length hlist
  have hprefix : a.toList ++ '-' :: word.toList <+: a'.toList ++ ['-'] := by
    rw [hlist]
    exact List.prefix_append _ _
  have hprefix : a.toList ++ '-' :: word.toList <+: a'.toList := by
    refine List.prefix_of_prefix_length_le hprefix (List.prefix_append _ _) ?_
    simp only [List.length_append, List.length_cons, List.length_nil] at hlength ⊢
    omega
  exact (List.suffix_append _ _).isInfix.trans hprefix.isInfix

end Text

/-! ## Names of ports -/

namespace Name

theorem routerPort_eq (router network : String) :
    routerPort (Name.router router) (switch network) =
      "lr-" ++ (router ++ "-" ++ "to-ls" ++ "-" ++ network) := by
  apply String.toList_inj.mp
  simp [routerPort, Name.router, switch]

theorem routerPeer_eq (router network : String) :
    routerPeer (Name.router router) (switch network) =
      "ls-" ++ (network ++ "-" ++ "to-lr" ++ "-" ++ router) := by
  apply String.toList_inj.mp
  simp [routerPeer, Name.router, switch]

variable {router network port router' network' port' : String}

theorem routerPort_eq_iff :
    routerPort (Name.router router) (switch network) =
        routerPort (Name.router router') (switch network') ↔
      (router = router' ∧ network = network') ∨
        Text.CutLater "to-ls" router network router' network' ∨
        Text.CutLater "to-ls" router' network' router network := by
  rw [← Text.append_dashed_append_eq_iff (by decide), routerPort_eq, routerPort_eq,
    String.append_right_inj]

theorem routerPeer_eq_iff :
    routerPeer (Name.router router) (switch network) =
        routerPeer (Name.router router') (switch network') ↔
      (network = network' ∧ router = router') ∨
        Text.CutLater "to-lr" network router network' router' ∨
        Text.CutLater "to-lr" network' router' network router := by
  rw [← Text.append_dashed_append_eq_iff (by decide), routerPeer_eq, routerPeer_eq,
    String.append_right_inj]

/-- The id of the router ends like the name of a port to a physical network, and that of the other
network goes on up to there. -/
theorem routerPeer_eq_localnet_iff :
    routerPeer (Name.router router) (switch network) = localnet (switch network') ↔
      ∃ rest, "-" ++ router = rest ++ "-localnet" ∧ network' = network ++ "-to-lr" ++ rest := by
  have hlocalnet : localnet (switch network') = "ls-" ++ (network' ++ "-localnet") := by
    rw [localnet, switch, String.append_assoc]
  have hpeer : network ++ "-" ++ "to-lr" ++ "-" ++ router =
      network ++ "-to-lr" ++ ("-" ++ router) := by
    apply String.toList_inj.mp
    simp
  rw [routerPeer_eq, hlocalnet, String.append_right_inj, hpeer]
  constructor
  · intro h
    have hlist : (network ++ "-to-lr").toList ++ '-' :: router.toList =
        network'.toList ++ '-' :: "localnet".toList := by
      simpa using congrArg String.toList h
    rcases List.append_eq_append_iff.mp hlist with ⟨v, hv, hrouter⟩ | ⟨v, hv, hlocal⟩
    · refine ⟨String.ofList v, String.toList_inj.mp ?_, String.toList_inj.mp ?_⟩
      · simpa using hrouter
      · simpa using hv
    · cases v with
      | nil =>
          refine ⟨"", String.toList_inj.mp ?_, String.toList_inj.mp ?_⟩
          · simpa using hlocal.symm
          · simpa using hv.symm
      | cons c v =>
          -- The name of a port to a physical network has no dash behind its first one.
          have hdash : '-' ∈ "localnet".toList := by
            rw [(List.cons.inj hlocal).2]
            simp
          exact absurd hdash (by decide)
  · intro hfound
    rcases hfound with ⟨rest, hrouter, hnetwork⟩
    rw [hrouter, hnetwork]
    simp only [String.append_assoc]

theorem switchPort_inj : switchPort port = switchPort port' ↔ port = port' := by
  rw [switchPort, switchPort, String.append_right_inj]

theorem localnet_inj :
    localnet (switch network) = localnet (switch network') ↔ network = network' := by
  rw [localnet, localnet, String.append_left_inj, switch, switch, String.append_right_inj]

/-- The port of a router has one name for each pair of ids but for those that are cut at different
places of the same name, and so has its peer on the switch.  Among the ports of switches those of
machines share no name, and the port to a physical network shares one with the peer of an interface
only if the id of the router ends like it. -/
theorem port_names_shared_iff (router network port router' network' port' : String) :
    (routerPort (Name.router router) (switch network) =
        routerPort (Name.router router') (switch network') ↔
      (router = router' ∧ network = network') ∨
        Text.CutLater "to-ls" router network router' network' ∨
        Text.CutLater "to-ls" router' network' router network) ∧
    (routerPeer (Name.router router) (switch network) =
        routerPeer (Name.router router') (switch network') ↔
      (network = network' ∧ router = router') ∨
        Text.CutLater "to-lr" network router network' router' ∨
        Text.CutLater "to-lr" network' router' network router) ∧
    (routerPeer (Name.router router) (switch network) = localnet (switch network') ↔
      ∃ rest, "-" ++ router = rest ++ "-localnet" ∧ network' = network ++ "-to-lr" ++ rest) ∧
    switchPort port ≠ routerPeer (Name.router router) (switch network) ∧
    switchPort port ≠ localnet (switch network) ∧
    (switchPort port = switchPort port' ↔ port = port') ∧
    (localnet (switch network) = localnet (switch network') ↔ network = network') :=
  ⟨routerPort_eq_iff, routerPeer_eq_iff, routerPeer_eq_localnet_iff,
    Client.switchPort_ne_routerPeer _ _ _, Client.switchPort_ne_localnet _ _, switchPort_inj,
    localnet_inj⟩

/-- An id with the separator in it makes each of the names one of two pairs. -/
theorem not_port_names_apart :
    (¬ ∀ router network router' network', routerPort (Name.router router) (switch network) =
        routerPort (Name.router router') (switch network') →
      router = router' ∧ network = network') ∧
    (¬ ∀ router network router' network', routerPeer (Name.router router) (switch network) =
        routerPeer (Name.router router') (switch network') →
      router = router' ∧ network = network') ∧
    ¬ ∀ router network network',
      routerPeer (Name.router router) (switch network) ≠ localnet (switch network') := by
  refine ⟨fun h => ?_, fun h => ?_, fun h => ?_⟩
  · exact absurd (h "a" "b-to-ls-c" "a-to-ls-b" "c" (by decide)) (by decide)
  · exact absurd (h "a-to-lr-b" "c" "b" "c-to-lr-a" (by decide)) (by decide)
  · exact h "y-localnet" "x" "x-to-lr-y" (by decide)

end Name

/-! ## Calls with names of their own -/

namespace Client

/-- Ids without the separators keep all names apart. -/
theorem namesApart_of_not_isInfix {calls : List Call}
    (hrouter : ∀ router network, UsesInterface calls router network →
      ¬ "-to-ls".toList <:+: router.toList)
    (hnetwork : ∀ router network, UsesInterface calls router network →
      ¬ "-to-lr".toList <:+: network.toList)
    (hlocalnet : ∀ network, UsesLocalnet calls network →
      ¬ "-to-lr".toList <:+: network.toList) : NamesApart calls := by
  refine ⟨⟨?port, ?peer⟩, ?localnet⟩
  case port =>
    intro router network router' network' huses huses' h
    rcases Name.routerPort_eq_iff.mp h with hsame | hlater | hlater
    · exact hsame
    · exact absurd hlater.isInfix (hrouter router' network' huses')
    · exact absurd hlater.isInfix (hrouter router network huses)
  case peer =>
    intro router network router' network' huses huses' h
    rcases Name.routerPeer_eq_iff.mp h with hsame | hlater | hlater
    · exact hsame.symm
    · exact absurd hlater.isInfix (hnetwork router' network' huses')
    · exact absurd hlater.isInfix (hnetwork router network huses)
  case localnet =>
    intro router network network' _ huses' h
    rcases Name.routerPeer_eq_localnet_iff.mp h with ⟨rest, _, rfl⟩
    refine hlocalnet _ huses' ⟨network.toList, rest.toList, ?_⟩
    simp

end Client
end LogicalNet
