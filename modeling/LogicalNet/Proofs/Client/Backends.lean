import Mathlib.Data.List.Nodup
import LogicalNet.Client.Balancers
import LogicalNet.Proofs.Address.RoundTrip
import LogicalNet.Proofs.TextMap

/-!
# The members behind a virtual address

A virtual address has the list of the members of one listener: the last one at the port
that any member serves.  Members of other listeners at the same port are in no list.
Without commas in their addresses the members of a list are read back from its text.
-/

namespace LogicalNet
namespace Client

open Tenant (Balancer BalancerSpec Listener Member)

/-- The last listener at a port that a member serves. -/
def answering? (spec : BalancerSpec) (port : UInt16) : Option Listener :=
  (spec.listeners.filter fun l => l.port == port && spec.members.any fun m => serves m l).getLast?

/-- The endpoints in a list with commas between them. -/
def listed (list : String) : List String :=
  (Text.pieces ',' list.toList).map String.ofList

/-- Each member is in the list of every listener that it serves. -/
def LosesNone (spec : BalancerSpec) (vips : TextMap String) : Prop :=
  ∀ l ∈ spec.listeners, ∀ m ∈ spec.members, serves m l = true →
    ∃ list, vips.get? (endpoint spec.vip l.port) = some list ∧
      endpoint m.address m.port ∈ listed list

/-- Each list has the members of a listener at its address, in their order. -/
def InventsNone (spec : BalancerSpec) (vips : TextMap String) : Prop :=
  ∀ key list, vips.get? key = some list → ∃ l ∈ spec.listeners,
    key = endpoint spec.vip l.port ∧ listed list = backends spec l

variable {spec : BalancerSpec} {l a : Listener} {m : Member} {port : UInt16}

/-! ## Endpoints -/

theorem endpoint_injective {address : String} {p q : UInt16}
    (h : endpoint address p = endpoint address q) : p = q := by
  have hdecimal : Text.decimal p.toNat = Text.decimal q.toNat := by
    unfold endpoint at h
    split at h <;> exact String.append_right_inj _ |>.mp h
  exact UInt16.toNat_inj.mp (Text.decimal_injective hdecimal)

theorem comma_not_mem_endpoint {address : String} (h : ',' ∉ address.toList) (port : UInt16) :
    ',' ∉ (endpoint address port).toList := by
  have hdigits : ',' ∉ Text.decimalChars port.toNat :=
    Text.not_mem_of_readDigits? (by decide) (Text.readDigits?_decimalChars port.toNat)
  unfold endpoint
  split <;> simp [Text.decimal, h, hdigits]

theorem listed_join {parts : List String} (hne : parts ≠ [])
    (h : ∀ p ∈ parts, ',' ∉ p.toList) : listed (Text.join "," parts) = parts := by
  have hpieces : Text.pieces ',' (Text.join "," parts).toList = parts.map String.toList := by
    rw [Text.join, String.toList_ofList]
    refine Text.pieces_intercalate (by simpa using hne) fun p hp => ?_
    obtain ⟨s, hs, rfl⟩ := List.mem_map.mp hp
    exact h s hs
  rw [listed, hpieces, List.map_map]
  simp [Function.comp_def]

/-! ## Members -/

theorem mem_backends_iff {e : String} : e ∈ backends spec l ↔
    ∃ m ∈ spec.members, serves m l = true ∧ endpoint m.address m.port = e := by
  simp [backends, and_assoc]

theorem backends_ne_nil_iff : backends spec l ≠ [] ↔ ∃ m ∈ spec.members, serves m l = true := by
  simp [backends]

theorem answering?_eq_find? : answering? spec port =
    spec.listeners.reverse.find? fun l => l.port == port && !(backends spec l).isEmpty := by
  have hserved : ∀ l, (spec.members.any fun m => serves m l) = !(backends spec l).isEmpty := by
    intro l
    rw [Bool.eq_iff_iff]
    simp [backends]
  simp only [answering?, hserved, List.getLast?_eq_head?_reverse, ← List.filter_reverse,
    List.head?_filter]

theorem of_answering? (h : answering? spec port = some a) :
    a ∈ spec.listeners ∧ a.port = port ∧ backends spec a ≠ [] := by
  rw [answering?_eq_find?] at h
  have hmem := List.mem_of_find?_eq_some h
  have hfound := List.find?_some h
  simp only [Bool.and_eq_true, beq_iff_eq, Bool.not_eq_true', List.isEmpty_eq_false_iff] at hfound
  exact ⟨List.mem_reverse.mp hmem, hfound⟩

/-- Some listener answers at each port that a member serves. -/
theorem exists_answering? (hl : l ∈ spec.listeners) (hm : m ∈ spec.members)
    (h : serves m l = true) : ∃ a, answering? spec l.port = some a := by
  have hserved : backends spec l ≠ [] := backends_ne_nil_iff.mpr ⟨m, hm, h⟩
  rw [answering?_eq_find?, ← Option.isSome_iff_exists, List.find?_isSome]
  exact ⟨l, List.mem_reverse.mpr hl, by simpa using hserved⟩

/-! ## Virtual addresses -/

theorem get?_balancerVips (spec : BalancerSpec) (port : UInt16) :
    (balancerVips spec).get? (endpoint spec.vip port) =
      (answering? spec port).map fun l => Text.join "," (backends spec l) := by
  have hkey : ∀ l : Listener, decide (endpoint spec.vip l.port = endpoint spec.vip port) =
      (l.port == port) := by
    intro l
    rw [Bool.eq_iff_iff, decide_eq_true_eq, beq_iff_eq]
    exact ⟨endpoint_injective, congrArg (endpoint spec.vip)⟩
  simp only [balancerVips, TextMap.get?_ofList_eq_find?, ← List.map_reverse, List.find?_map,
    Function.comp_def, hkey, ← List.filter_reverse, List.find?_filter, answering?_eq_find?,
    Option.map_map, Bool.decide_and, Bool.decide_eq_true, Bool.and_comm]

/-- A list belongs to the listener that answers at its address. -/
theorem get?_balancerVips_eq_some_iff {key list : String} :
    (balancerVips spec).get? key = some list ↔ ∃ port a, answering? spec port = some a ∧
      key = endpoint spec.vip port ∧ list = Text.join "," (backends spec a) := by
  constructor
  · intro h
    have hmem := TextMap.mem_of_get?_ofList h
    obtain ⟨l, -, hl⟩ := List.mem_map.mp hmem
    obtain ⟨rfl, -⟩ := Prod.mk.inj hl
    have hfound := h
    rw [get?_balancerVips, Option.map_eq_some_iff] at hfound
    obtain ⟨a, ha, hlist⟩ := hfound
    exact ⟨l.port, a, ha, rfl, hlist.symm⟩
  · rintro ⟨port, a, ha, rfl, rfl⟩
    rw [get?_balancerVips, ha]
    rfl

theorem listed_backends (hcomma : ∀ m ∈ spec.members, ',' ∉ m.address.toList)
    (ha : answering? spec port = some a) :
    listed (Text.join "," (backends spec a)) = backends spec a := by
  refine listed_join (of_answering? ha).2.2 fun e he => ?_
  obtain ⟨m, hm, -, rfl⟩ := mem_backends_iff.mp he
  exact comma_not_mem_endpoint (hcomma m hm) m.port

theorem inventsNone (hcomma : ∀ m ∈ spec.members, ',' ∉ m.address.toList) :
    InventsNone spec (balancerVips spec) := by
  intro key list h
  obtain ⟨port, a, ha, rfl, rfl⟩ := get?_balancerVips_eq_some_iff.mp h
  obtain ⟨hmem, hport, -⟩ := of_answering? ha
  exact ⟨a, hmem, by rw [hport], listed_backends hcomma ha⟩

/-- No member is lost exactly if the listener that answers at a port has the members of all
listeners at that port. -/
theorem losesNone_iff (hcomma : ∀ m ∈ spec.members, ',' ∉ m.address.toList) :
    LosesNone spec (balancerVips spec) ↔ ∀ l ∈ spec.listeners, ∀ a,
      answering? spec l.port = some a → backends spec l ⊆ backends spec a := by
  constructor
  · intro h l hl a ha e he
    obtain ⟨m, hm, hserves, rfl⟩ := mem_backends_iff.mp he
    obtain ⟨list, hlist, hlisted⟩ := h l hl m hm hserves
    rw [get?_balancerVips, ha, Option.map_some, Option.some.injEq] at hlist
    rwa [← hlist, listed_backends hcomma ha] at hlisted
  · intro h l hl m hm hserves
    obtain ⟨a, ha⟩ := exists_answering? hl hm hserves
    refine ⟨Text.join "," (backends spec a), ?_, ?_⟩
    · rw [get?_balancerVips, ha]
      rfl
    · rw [listed_backends hcomma ha]
      exact h l hl a ha (mem_backends_iff.mpr ⟨m, hm, hserves, rfl⟩)

/-- With one listener at each port no member is lost. -/
theorem losesNone_of_nodup (hcomma : ∀ m ∈ spec.members, ',' ∉ m.address.toList)
    (hports : (spec.listeners.map Listener.port).Nodup) : LosesNone spec (balancerVips spec) := by
  refine (losesNone_iff hcomma).mpr fun l hl a ha => ?_
  obtain ⟨hmem, hport, -⟩ := of_answering? ha
  rw [List.inj_on_of_nodup_map hports hmem hl hport]
  exact List.Subset.refl _

theorem exists_balancerRow (balancer : Balancer) (uuid : String) {ip : Ip}
    (h : NetAddress.read balancer.spec.vip = .ok (.host ip)) :
    ∃ row, balancerRow balancer uuid = .ok row ∧ row.vips = balancerVips balancer.spec := by
  simp only [balancerRow, h]
  exact ⟨_, rfl, rfl⟩

/-- The row of a load balancer has an entry at each port of a listener that a member serves,
with the members of the listener that answers there.  Unless an address has a comma nothing
else is listed, and nothing is lost exactly if that listener has the members of all listeners
at its port. -/
theorem balancerRow_backends (balancer : Balancer) (uuid : String) {ip : Ip}
    (h : NetAddress.read balancer.spec.vip = .ok (.host ip)) :
    ∃ row, balancerRow balancer uuid = .ok row ∧
      (∀ key list, row.vips.get? key = some list ↔
        ∃ port a, answering? balancer.spec port = some a ∧
          key = endpoint balancer.spec.vip port ∧
          list = Text.join "," (backends balancer.spec a)) ∧
      (∀ l ∈ balancer.spec.listeners, ∀ m ∈ balancer.spec.members, serves m l = true →
        ∃ list, row.vips.get? (endpoint balancer.spec.vip l.port) = some list) ∧
      ((∀ m ∈ balancer.spec.members, ',' ∉ m.address.toList) →
        InventsNone balancer.spec row.vips ∧
        (LosesNone balancer.spec row.vips ↔ ∀ l ∈ balancer.spec.listeners, ∀ a,
          answering? balancer.spec l.port = some a →
            backends balancer.spec l ⊆ backends balancer.spec a) ∧
        ((balancer.spec.listeners.map Listener.port).Nodup →
          LosesNone balancer.spec row.vips)) := by
  obtain ⟨row, hrow, hvips⟩ := exists_balancerRow balancer uuid h
  refine ⟨row, hrow, ?_⟩
  rw [hvips]
  refine ⟨fun key list => get?_balancerVips_eq_some_iff, fun l hl m hm hserves => ?_, ?_⟩
  · obtain ⟨a, ha⟩ := exists_answering? hl hm hserves
    exact ⟨_, get?_balancerVips_eq_some_iff.mpr ⟨l.port, a, ha, rfl, rfl⟩⟩
  · intro hcomma
    exact ⟨inventsNone hcomma, losesNone_iff hcomma, losesNone_of_nodup hcomma⟩

/-- Two listeners at one port, each with a member of its own. -/
def twoAtOnePort : Balancer where
  id := "lb"
  spec := {
    vip := "10.0.0.1"
    listeners := [⟨"a", 80⟩, ⟨"b", 80⟩]
    members := [⟨"a", "10.0.1.1", 8080⟩, ⟨"b", "10.0.1.2", 8080⟩] }

theorem vip_twoAtOnePort :
    NetAddress.read twoAtOnePort.spec.vip = .ok (.host (.v4 ⟨10, 0, 0, 1⟩)) := by
  have hread : NetAddress.ofText? twoAtOnePort.spec.vip = some (.host (.v4 ⟨10, 0, 0, 1⟩)) := by
    decide +kernel
  rw [NetAddress.read, hread]

theorem balancerRow_backends_twoAtOnePort :
    NetAddress.read twoAtOnePort.spec.vip = .ok (.host (.v4 ⟨10, 0, 0, 1⟩)) ∧
      ∃ row, balancerRow twoAtOnePort "1" = .ok row ∧
        row.vips.get? "10.0.0.1:80" = some "10.0.1.2:8080" := by
  obtain ⟨row, hrow, hentry, -⟩ := balancerRow_backends twoAtOnePort "1" vip_twoAtOnePort
  have hlist : ∃ port a, answering? twoAtOnePort.spec port = some a ∧
      "10.0.0.1:80" = endpoint twoAtOnePort.spec.vip port ∧
      "10.0.1.2:8080" = Text.join "," (backends twoAtOnePort.spec a) :=
    ⟨80, ⟨"b", 80⟩, by decide +kernel⟩
  exact ⟨vip_twoAtOnePort, row, hrow, (hentry _ _).mpr hlist⟩

/-- The member of the first of two listeners at a port is in no list. -/
theorem not_losesNone_twoAtOnePort : ¬ ∀ (balancer : Balancer) (uuid : String) (ip : Ip),
    NetAddress.read balancer.spec.vip = .ok (.host ip) →
      ∃ row, balancerRow balancer uuid = .ok row ∧ LosesNone balancer.spec row.vips ∧
        InventsNone balancer.spec row.vips := by
  intro h
  obtain ⟨row, hrow, hloses, -⟩ := h twoAtOnePort "1" _ vip_twoAtOnePort
  obtain ⟨row', hrow', hvips⟩ := exists_balancerRow twoAtOnePort "1" vip_twoAtOnePort
  rw [hrow, Except.ok.injEq] at hrow'
  rw [hrow', hvips, losesNone_iff (by decide +kernel)] at hloses
  have hsubset := hloses ⟨"a", 80⟩ (by decide) ⟨"b", 80⟩ (by decide +kernel)
  have hlost : "10.0.1.1:8080" ∉ backends twoAtOnePort.spec ⟨"b", 80⟩ := by
    decide +kernel
  exact hlost (hsubset (by decide +kernel))

end Client
end LogicalNet
