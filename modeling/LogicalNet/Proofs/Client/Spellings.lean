import LogicalNet.Proofs.Client.Cascades

/-!
# Deletions by address

An address has many spellings.  A static route is compared with what the text of a
deletion reads as.  A rule for a floating ip is found by the text that it was made
with, so that a deletion leaves the rules for the same address that were made with
another one.
-/

namespace LogicalNet
namespace Client

open Tables Plan.Ends

variable {calls : List Call} {ts us : Tables} {drawn : List String}
  {r : Request} {rule : NatRule} {u : String}

/-! ## Rules and the texts that they were made with -/

theorem Made.of_nat {owner : Option Row} (h : Made ts r (.nat rule) owner) :
    (∃ router text internal, r = .createFloatingIp router text internal) ∨
      ∃ router external subnet, r = .createSnat router external subnet := by
  generalize hrow : Row.nat rule = row at h
  cases h with
  | floatingIp _ _ =>
      exact .inl ⟨_, _, _, rfl⟩
  | snat _ _ =>
      exact .inr ⟨_, _, _, rfl⟩
  | group _ hmem =>
      rw [← hrow] at hmem
      rcases mem_storedRows.mp hmem with heq | ⟨_, _, heq⟩ | heq <;> cases heq
  | _ =>
      cases hrow

theorem rule_of_attachment (hts : ts.WellFormed) {new : NatRule} {key : String}
    (hops : ts.applyAll (attachment (.nat new) .router key .nat) = .ok us)
    (hrule : (us .nat).get? u = some (.nat rule)) :
    (ts .nat).get? u = some (.nat rule) ∨ rule = new := by
  have hcreated := created_of_attachment hts rfl hops
  by_cases hplace : (Table.nat, u) ∈ [Row.nat new].map Row.place
  · obtain ⟨row, hrow, _, rfl⟩ := place_mem_iff.mp hplace
    have hstored := hcreated.stored row hrow
    rw [List.mem_singleton.mp hrow] at hstored hrule
    have hsame := hstored.symm.trans hrule
    cases hsame
    exact .inr rfl
  · have hus := hts.applyAll hops
    exact .inl (hcreated.beside.get?_of_bare hts hus (Table.bare_of_owner? rfl) hplace hrule)

/-- A request that makes rules puts a single one on its router, for the source or for the text of a
floating ip. -/
theorem exists_attached_rule {owner : Option Row} {t : Transaction Answer}
    (hends : r.plan.Ends ts drawn t) (hmade : Made ts r (.nat rule) owner) :
    ∃ (new : NatRule) (key : String),
      t.operations = attachment (.nat new) .router key .nat ∧
      (new.kind = .source ∨ ∃ router text internal,
        r = .createFloatingIp router text internal ∧ new.Floats text) := by
  obtain ⟨router, text, internal, rfl⟩ | ⟨router, external, subnet, rfl⟩ := hmade.of_nat
  · obtain ⟨t', ht', heq⟩ := of_translated hends
    obtain ⟨hfloats, key, hoperations⟩ := operations_createFloatingIp ht'
    rw [← heq] at hoperations
    exact ⟨t'.result, key, hoperations, .inr ⟨router, text, internal, rfl, hfloats⟩⟩
  · obtain ⟨t', ht', heq⟩ := of_translated hends
    obtain ⟨hkind, key, hoperations⟩ := operations_createSnat ht'
    rw [← heq] at hoperations
    exact ⟨t'.result, key, hoperations, .inl hkind⟩

/-- A rule was there before, or it has been made; only floating ips are for both directions. -/
theorem Request.Writes.old_or_floats (hts : Sound (listing calls) nothing ts)
    (hcall : .request r ∈ calls) (h : r.Writes ts us)
    (hrule : (us .nat).get? u = some (.nat rule)) :
    (ts .nat).get? u = some (.nat rule) ∨ rule.kind = .source ∨
      ∃ router text internal, r = .createFloatingIp router text internal ∧ rule.Floats text := by
  obtain ⟨ops, hchange⟩ := h.exists_change hts hcall
  obtain ⟨row, horigin, htable, _, hrevised⟩ := hchange.exists_row hrule
  have hsame : Row.nat rule = row := by
    apply eq_of_revised hrevised
    · rw [htable]
      exact Table.bare_of_owner? rfl
    · intro lookup c entries hop
      rw [htable] at hop
      cases hchange.footprints _ hop
  subst hsame
  rcases horigin with hold | ⟨owner, hmade⟩ | hnew
  · exact .inl hold
  · -- the plan of the request says what rule it is
    cases h with
    | dhcp hr _ _ =>
        subst hr
        obtain ⟨_, _, _, hr⟩ | ⟨_, _, _, hr⟩ := hmade.of_nat <;> cases hr
    | call hends hops =>
        obtain ⟨new, key, hoperations, hnew⟩ := exists_attached_rule hends hmade
        rw [hoperations] at hops
        cases rule_of_attachment hts.wellFormed hops hrule with
        | inl hold =>
            exact .inl hold
        | inr hsame =>
            rw [hsame]
            exact .inr hnew
  · cases hnew

/-- Every rule for both directions was made by one of the calls, with the text that it records. -/
def Recorded (calls : List Call) (ts : Tables) : Prop :=
  ∀ u rule, (ts .nat).get? u = some (.nat rule) → rule.kind = .both →
    ∃ router text internal,
      .request (.createFloatingIp router text internal) ∈ calls ∧ rule.Floats text

theorem recorded_history {ι : Type} [IdSource ι] (calls : List Call) (ids : ι) :
    Recorded calls (history calls ids).1.tables := by
  apply history_induction (motive := Recorded calls) calls ids
  · intro u rule hrule
    rw [rows_empty] at hrule
    cases hrule
  · intro r ts us hts hcall hrecorded hwrites u rule hrule hkind
    rcases hwrites.old_or_floats hts hcall hrule with
      hold | hsource | ⟨router, text, internal, rfl, hfloats⟩
    · exact hrecorded u rule hold hkind
    · rw [hkind] at hsource
      cases hsource
    · exact ⟨router, text, internal, hcall, hfloats⟩

/-! ## Rules that a deletion leaves -/

theorem bears_iff {t : Table} {row : Row} (hrow : (ts t).get? u = some row) {key value : String} :
    Bears ts t key value u ↔ row.externalIds.get? key = some value := by
  simp [Bears, hrow]

/-- The rule of the identifier translates the address in both directions. -/
def Translates (ts : Tables) (address : NetAddress) (u : String) : Prop :=
  ∃ rule : NatRule, (ts .nat).get? u = some (.nat rule) ∧ rule.kind = .both ∧
    rule.external = address

/-- The rules that are left are those that record another text. -/
theorem Reduces.get?_nat_iff {text : String} {t : Transaction Unit}
    (h : Reduces t.operations ts us) (hends : (deleteFloatingIp text).Ends ts drawn t) :
    (us .nat).get? u = some (.nat rule) ↔ (ts .nat).get? u = some (.nat rule) ∧
      rule.externalIds.get? ExternalId.floatingIp ≠ some text := by
  have hmem := mem_deleteFloatingIp_iff h.wellFormed hends
  constructor
  · intro hrule
    have hold := h.get?_of_bare (Table.bare_of_owner? rfl) hrule
    refine ⟨hold, fun hrecords => ?_⟩
    have huuid : rule.uuid = u := h.wellFormed.uuid_eq hold
    subst huuid
    have hdelete := (hmem _).mpr ⟨rule, hold, hrecords, .inr rfl⟩
    rw [h.get?_uuid_eq_none hdelete] at hrule
    cases hrule
  · rintro ⟨hold, hother⟩
    obtain ⟨row, hrow⟩ := exists_of_applyAll h.wellFormed h.applied hold fun lookup hlookup => by
      obtain ⟨rule', hrule', hrecords, ⟨_, _, _, _, _, heq⟩ | heq⟩ := (hmem _).mp hlookup
      · cases heq
      · cases heq
        refine ⟨_, rfl, fun hsame => ?_⟩
        rw [hsame, hold] at hrule'
        cases hrule'
        exact hother hrecords
    have hsame := h.get?_of_bare (Table.bare_of_owner? rfl) hrow
    rw [hold] at hsame
    cases hsame
    exact hrow

theorem Reduces.translates_iff {text : String} {t : Transaction Unit}
    (h : Reduces t.operations ts us) (hends : (deleteFloatingIp text).Ends ts drawn t)
    {address : NetAddress} : Translates us address u ↔
      Translates ts address u ∧ ¬ Bears ts .nat ExternalId.floatingIp text u := by
  constructor
  · rintro ⟨rule, hrule, htranslates⟩
    obtain ⟨hold, hother⟩ := (h.get?_nat_iff hends).mp hrule
    exact ⟨⟨rule, hold, htranslates⟩, mt (bears_iff hold).mp hother⟩
  · rintro ⟨⟨rule, hold, htranslates⟩, hother⟩
    exact ⟨rule, (h.get?_nat_iff hends).mpr ⟨hold, mt (bears_iff hold).mpr hother⟩, htranslates⟩

/-! ## Creations that have succeeded -/

section Creations

variable {ι : Type} [IdSource ι] {m : Memory} {ids : ι} {a : Answer} {router text : String}

theorem exists_rule_of_createFloatingIp (hm : m.tables.WellFormed) {internal : String}
    (h : ((Request.createFloatingIp router text internal).perform m ids).1 = .ok a) :
    ∃ rule : NatRule, a = .row (.nat rule) ∧ rule.Floats text ∧
      (((Request.createFloatingIp router text internal).perform m ids).2.1.tables .nat).get?
        rule.uuid = some (.nat rule) := by
  obtain ⟨_, t, us, hends, hops, rfl, hwritten⟩ := written_of_request h
  obtain ⟨hfloats, key, hoperations⟩ := operations_createFloatingIp hends
  rw [hoperations] at hops
  have htables : ((Request.createFloatingIp router text internal).perform m ids).2.1.tables = us :=
    congrArg Memory.tables hwritten
  rw [htables]
  have hcreated := created_of_attachment hm rfl hops
  exact ⟨t.result, rfl, hfloats, hcreated.stored _ List.mem_cons_self⟩

theorem exists_route_of_addRoute (hm : m.tables.WellFormed) {nextHop : String}
    {address : NetAddress} (htext : NetAddress.read text = .ok address)
    (h : ((Request.addRoute router text nextHop).perform m ids).1 = .ok a) :
    ∃ route : StaticRoute, a = .row (.staticRoute route) ∧ ∃ key,
      RouteOf ((Request.addRoute router text nextHop).perform m ids).2.1.tables router address key
        route.uuid := by
  obtain ⟨_, t, us, hends, hops, rfl, hwritten⟩ := written_of_request h
  obtain ⟨hdestination, _, key, hroute⟩ := routeOf_addRoute hm hends hops
  rw [htext] at hdestination
  cases hdestination
  have htables : ((Request.addRoute router text nextHop).perform m ids).2.1.tables = us :=
    congrArg Memory.tables hwritten
  rw [htables]
  exact ⟨t.result, rfl, key, hroute⟩

end Creations

/-! ## Every history -/

section Histories

variable {ι : Type} [IdSource ι] {text other : String} {address : NetAddress}

/-- The deletion of a floating ip leaves the rules that record another text, and each of these was
made with a text that reads as its address. -/
theorem deleteFloatingIp_history (calls : List Call) (start ids : ι) (text : String)
    (address : NetAddress) :
    let before := (history calls start).1
    let deleted := (Request.deleteFloatingIp text).perform before ids
    let after := deleted.2.1.tables
    deleted.1 = .ok .done ∧
      (∀ u, Translates after address u ↔
        Translates before.tables address u ∧
          ¬ Bears before.tables .nat ExternalId.floatingIp text u) ∧
      ∀ u, Translates after address u → ∃ router text' internal,
        .request (.createFloatingIp router text' internal) ∈ calls ∧
          NetAddress.read text' = .ok address ∧ text' ≠ text ∧
          Bears after .nat ExternalId.floatingIp text' u := by
  intro before deleted after
  have hsound : Sound (listing (calls ++ [.request (.deleteFloatingIp text)])) nothing
      before.tables := sound_history (fun _ hcall => List.mem_append_left _ hcall) start
  obtain ⟨_, t, us, hends, hreduces, _, hdone, hwritten⟩ :=
    (sweeps_deleteFloatingIp text).perform_sound (r := .deleteFloatingIp text) rfl rfl hsound
      (List.mem_append_right _ List.mem_cons_self) ids
  have hafter : after = us := congrArg Memory.tables hwritten
  rw [hafter]
  refine ⟨hdone, fun u => hreduces.translates_iff hends, fun u htranslates => ?_⟩
  obtain ⟨rule, hrule, hkind, rfl⟩ := htranslates
  obtain ⟨hold, hother⟩ := (hreduces.get?_nat_iff hends).mp hrule
  obtain ⟨router, text', internal, hcall, hfloats⟩ :=
    recorded_history calls start u rule hold hkind
  refine ⟨router, text', internal, hcall, hfloats.external, ?_, _, hrule, hfloats.recorded⟩
  intro hsame
  rw [← hsame] at hother
  exact hother hfloats.recorded

/-- The deletion of a route leaves none to what its text reads as, neither in the list of the router
nor with its name. -/
theorem deleteRoute_history (calls : List Call) (start ids : ι) (router : String)
    (htext : NetAddress.read text = .ok address) :
    let deleted := (Request.deleteRoute router text).perform (history calls start).1 ids
    let after := deleted.2.1.tables
    deleted.1 = .ok .done ∧ (∀ key u, ¬ RouteOf after router address key u) ∧
      ∀ u route, (after .staticRoute).get? u = some (.staticRoute route) →
        route.destination = address →
          route.externalIds.get? ExternalId.router ≠ some (Name.router router) := by
  intro deleted after
  have hsound : Sound (listing (calls ++ [.request (.deleteRoute router text)])) nothing
      (history calls start).1.tables :=
    sound_history (fun _ hcall => List.mem_append_left _ hcall) start
  obtain ⟨_, t, us, hends, hreduces, _, hdone, hwritten⟩ :=
    (sweeps_deleteRoute htext router).perform_sound (r := .deleteRoute router text)
      (isDeletion_deleteRoute htext router) rfl hsound
      (List.mem_append_right _ List.mem_cons_self) ids
  have hafter : after = us := congrArg Memory.tables hwritten
  rw [hafter]
  refine ⟨hdone, fun key u hroute => ?_, fun u route hrow hdestination hnames => ?_⟩
  · have hnone := hreduces.get?_of_routeOf htext hends (hreduces.routeOf hroute)
    obtain ⟨_, _, _, hrow, _⟩ := hroute
    rw [hnone] at hrow
    cases hrow
  · have hold := hreduces.get?_of_bare (Table.bare_of_owner? rfl) hrow
    obtain ⟨owner, hget, hlisted⟩ := listedIn_of_names calls start rfl hold hnames
    have hroute : RouteOf (history calls start).1.tables router address owner.uuid u :=
      ⟨⟨owner, hget, rfl⟩, ⟨owner, hget, hlisted⟩, route, hold, hdestination⟩
    rw [hreduces.get?_of_routeOf htext hends hroute] at hrow
    cases hrow

/-- After any calls, a floating ip and a route are made, and deleted again with another text that
reads as the same address.  Of the rules for the address the deletion takes those that record its
own text, so the new one is left when the texts differ, and what is left was made with another text
for the address.  The deletion of the route takes every route to the address. -/
theorem spellings_history (calls : List Call) (start ids : ι) (router internal nextHop : String)
    (htext : NetAddress.read text = .ok address) (hother : NetAddress.read other = .ok address) :
    let before := history calls start
    let create := Request.createFloatingIp router text internal
    let created := create.perform before.1 before.2
    let deleted := (Request.deleteFloatingIp other).perform created.2.1 ids
    let added := (Request.addRoute router text nextHop).perform before.1 before.2
    let deleted' := (Request.deleteRoute router other).perform added.2.1 ids
    let rules := deleted.2.1.tables
    let routes := deleted'.2.1.tables
    (deleted.1 = .ok .done ∧
      (∀ u, Translates rules address u ↔ Translates created.2.1.tables address u ∧
        ¬ Bears created.2.1.tables .nat ExternalId.floatingIp other u) ∧
      (∀ u, Translates rules address u → ∃ router' text' internal',
        .request (.createFloatingIp router' text' internal') ∈ calls ++ [.request create] ∧
          NetAddress.read text' = .ok address ∧ text' ≠ other ∧
          Bears rules .nat ExternalId.floatingIp text' u) ∧
      ∀ a, created.1 = .ok a → ∃ rule : NatRule, a = .row (.nat rule) ∧
        Translates created.2.1.tables address rule.uuid ∧
        (text ≠ other → Translates rules address rule.uuid)) ∧
    deleted'.1 = .ok .done ∧ (∀ key u, ¬ RouteOf routes router address key u) ∧
      (∀ u route, (routes .staticRoute).get? u = some (.staticRoute route) →
        route.destination = address →
          route.externalIds.get? ExternalId.router ≠ some (Name.router router)) ∧
      ∀ a, added.1 = .ok a → ∃ route : StaticRoute, a = .row (.staticRoute route) ∧
        ∃ key, RouteOf added.2.1.tables router address key route.uuid := by
  intro before create created deleted added deleted' rules routes
  have hwell := (sound_history (fun _ hcall => hcall) start :
    Sound (listing calls) nothing before.1.tables).wellFormed
  have hcreated : (history (calls ++ [.request create]) start).1 = created.2.1 := by
    rw [history_append_singleton]
    rfl
  have hadded : (history (calls ++ [.request (.addRoute router text nextHop)]) start).1 =
      added.2.1 := by
    rw [history_append_singleton]
    rfl
  have hrules := deleteFloatingIp_history (calls ++ [.request create]) start ids other address
  have hroutes := deleteRoute_history (calls ++ [.request (.addRoute router text nextHop)]) start
    ids router hother
  rw [hcreated] at hrules
  rw [hadded] at hroutes
  obtain ⟨hdone, hleft, hmade⟩ := hrules
  obtain ⟨hdone', hunlisted, hunnamed⟩ := hroutes
  refine ⟨⟨hdone, hleft, hmade, fun a ha => ?_⟩, hdone', hunlisted, hunnamed, fun a ha =>
    exists_route_of_addRoute hwell htext ha⟩
  obtain ⟨rule, rfl, hfloats, hrow⟩ := exists_rule_of_createFloatingIp hwell ha
  have hexternal := htext.symm.trans hfloats.external
  have htranslates : Translates created.2.1.tables address rule.uuid :=
    ⟨rule, hrow, hfloats.kind, (Except.ok.inj hexternal).symm⟩
  refine ⟨rule, rfl, htranslates, fun hne => (hleft _).mpr ⟨htranslates, ?_⟩⟩
  rw [bears_iff hrow]
  intro hrecords
  exact hne (Option.some.inj (hfloats.recorded.symm.trans hrecords))

/-- The address that both `2001:DB8::1` and `2001:db8::1` spell. -/
def spelledTwice : NetAddress :=
  .host (.v6 ⟨[0x2001, 0xdb8, 0, 0, 0, 0, 0, 1], rfl⟩)

theorem spellings_history_twoSpellings :
    let before := history [.request (.createRouter "r" "" false)] (Counter.mk 1)
    let created := (Request.createFloatingIp "r" "2001:DB8::1" "fd00::1").perform before.1 before.2
    let deleted := (Request.deleteFloatingIp "2001:db8::1").perform created.2.1 (Counter.mk 9)
    let added := (Request.addRoute "r" "2001:DB8::1" "fe80::1").perform before.1 before.2
    let deleted' := (Request.deleteRoute "r" "2001:db8::1").perform added.2.1 (Counter.mk 9)
    NetAddress.read "2001:DB8::1" = .ok spelledTwice ∧
      NetAddress.read "2001:db8::1" = .ok spelledTwice ∧
      (∃ rule : NatRule, created.1 = .ok (.row (.nat rule)) ∧
        deleted.1 = .ok .done ∧ Translates deleted.2.1.tables spelledTwice rule.uuid) ∧
      (∃ key u, RouteOf added.2.1.tables "r" spelledTwice key u) ∧
      deleted'.1 = .ok .done ∧ ∀ key u, ¬ RouteOf deleted'.2.1.tables "r" spelledTwice key u := by
  intro before created deleted added deleted'
  have hupper : NetAddress.read "2001:DB8::1" = .ok spelledTwice :=
    read_eq_ok_iff.mpr (by decide +kernel)
  have hlower : NetAddress.read "2001:db8::1" = .ok spelledTwice :=
    read_eq_ok_iff.mpr (by decide +kernel)
  obtain ⟨⟨hdone, _, _, hrule⟩, hdone', hnone, _, hroute⟩ :=
    spellings_history [.request (.createRouter "r" "" false)] (Counter.mk 1) (Counter.mk 9) "r"
      "fd00::1" "fe80::1" hupper hlower
  have hcreated : created.1.isOk = true := by
    decide +kernel
  have hadded : added.1.isOk = true := by
    decide +kernel
  refine ⟨hupper, hlower, ?_, ?_, hdone', hnone⟩
  · cases ha : created.1 with
    | error e =>
        rw [ha] at hcreated
        cases hcreated
    | ok a =>
        obtain ⟨rule, rfl, _, hleft⟩ := hrule a ha
        exact ⟨rule, rfl, hdone, hleft (by decide)⟩
  · cases ha : added.1 with
    | error e =>
        rw [ha] at hadded
        cases hadded
    | ok a =>
        obtain ⟨route, _, key, hkey⟩ := hroute a ha
        exact ⟨key, route.uuid, hkey⟩

/-- It is not so that the deletion leaves no rule for the address whatever text it is given. -/
theorem not_deleted_by_value :
    ¬ ∀ (calls : List Call) (start ids : Counter) (router internal text other : String)
      (address : NetAddress), NetAddress.read text = .ok address →
        NetAddress.read other = .ok address →
        let before := history calls start
        let created := (Request.createFloatingIp router text internal).perform before.1 before.2
        ∀ u, ¬ Translates
          ((Request.deleteFloatingIp other).perform created.2.1 ids).2.1.tables address u := by
  intro h
  have hnone := h [.request (.createRouter "r" "" false)] (Counter.mk 1) (Counter.mk 9) "r"
    "fd00::1" "2001:DB8::1" "2001:db8::1" spelledTwice
    (read_eq_ok_iff.mpr (by decide +kernel)) (read_eq_ok_iff.mpr (by decide +kernel))
    (Text.decimal 2)
  apply hnone
  refine ⟨{
    uuid := Text.decimal 2
    kind := .both
    external := spelledTwice
    logical := .host (.v6 ⟨[0xfd00, 0, 0, 0, 0, 0, 0, 1], rfl⟩)
    externalIds := .ofPairs [(ExternalId.floatingIp, "2001:DB8::1"),
      (ExternalId.router, Name.router "r")] }, ?_, rfl, rfl⟩
  decide +kernel

end Histories
end Client
end LogicalNet
