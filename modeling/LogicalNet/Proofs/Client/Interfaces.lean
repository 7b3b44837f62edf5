import LogicalNet.Proofs.Client.Labels
import LogicalNet.Proofs.Client.Membership

/-!
# Both sides of an interface

The interface of a router on a network is a port of the router and its peer, a port of
the switch that names the port of the router.  The peer is never there without the
port, but a deletion of the switch takes only the peer away.  The other half then
stays until the interface is removed or its router goes.
-/

namespace LogicalNet

/-! ## Peers -/

namespace Row

/-- The port of a router that the row names as that on the other side. -/
def peerOf? : Row → Option String
  | switchPort port => port.options.get? "router-port"
  | _ => none

@[simp]
theorem peerOf?_mapReferences (f : List String → List String) (c : RefColumn) (r : Row) :
    (r.mapReferences f c).peerOf? = r.peerOf? := by
  cases c <;> cases r <;> rfl

theorem peerOf?_mapKeys_of_ne (f : TextMap String → TextMap String) {c : MapColumn}
    (h : c ≠ .options) (r : Row) : (r.mapKeys f c).peerOf? = r.peerOf? := by
  cases c <;> cases r <;> first | rfl | exact absurd rfl h

theorem peerOf?_host (host : String) (r : Row) :
    (r.mapKeys (·.insertAll (TextMap.ofList [("requested-chassis", host)]).entries)
      .options).peerOf? = r.peerOf? := by
  cases r with
  | switchPort port =>
      have hne : "requested-chassis" ≠ "router-port" := by
        decide
      exact TextMap.get?_insert_of_ne port.options hne host
  | _ =>
      rfl

end Row

namespace Client

open Tables Plan.Ends

variable {calls : List Call} {ts us : Tables} {drawn : List String} {r : Request}
  {ops : List Operation} {router network : String}

/-- What goes by the name of a row, by the router that it names and by the port on the other side
lasts. -/
theorem lasting_of_alike {K : Row → Prop}
    (h : ∀ {row s : Row}, row.Alike s → s.peerOf? = row.peerOf? → K row → K s) : Lasting K := by
  constructor
  · intro row f c hrow
    exact h (.mapReferences f c row) (Row.peerOf?_mapReferences f c row) hrow
  · intro row vm hrow
    refine h (.mapKeys ?_ _ row) (Row.peerOf?_mapKeys_of_ne _ (by decide) row) hrow
    exact TextMap.get?_ofList_of_forall_ne (by simp [ExternalId.vm, ExternalId.router])
  · intro row host hrow
    refine h (.mapKeys ?_ _ row) (Row.peerOf?_host host row) hrow
    exact TextMap.get?_ofList_of_forall_ne (by simp [ExternalId.router])

theorem lasting_peerOf? (x : Option String) : Lasting fun row => row.peerOf? = x :=
  lasting_of_alike fun _ hsame h => hsame.trans h

/-! ## Interfaces -/

/-- The name of the router's side. -/
def portName (router network : String) : String :=
  Name.routerPort (Name.router router) (Name.switch network)

/-- The name of the switch's side. -/
def peerName (router network : String) : String :=
  Name.routerPeer (Name.router router) (Name.switch network)

/-- There is the port of the interface, and the router lists it. -/
def RouterSide (ts : Tables) (router network : String) : Prop :=
  ∃ port ∈ ts.get? .routerPort (.name (portName router network)),
    ∃ owner ∈ ts.get? .router (.name (Name.router router)), port.uuid ∈ owner.refs .ports

/-- There is the peer of the interface, which names the port, and the switch lists it. -/
def SwitchSide (ts : Tables) (router network : String) : Prop :=
  ∃ peer ∈ ts.get? .switchPort (.name (peerName router network)),
    peer.peerOf? = some (portName router network) ∧
      ∃ owner ∈ ts.get? .switch (.name (Name.switch network)), peer.uuid ∈ owner.refs .ports

instance (ts : Tables) (router network : String) : Decidable (RouterSide ts router network) :=
  inferInstanceAs (Decidable (∃ _ ∈ _, _))

instance (ts : Tables) (router network : String) : Decidable (SwitchSide ts router network) :=
  inferInstanceAs (Decidable (∃ _ ∈ _, _))

/-- The names of the interface are not those of another that the calls make or remove. -/
structure InterfaceApart (calls : List Call) (router network : String) : Prop where
  port : ∀ {router' network'}, UsesInterface calls router' network' →
    portName router' network' = portName router network → router' = router ∧ network' = network
  peer : ∀ {router' network'}, UsesInterface calls router' network' →
    peerName router' network' = peerName router network → router' = router ∧ network' = network

/-- The second row bears the name and the router of the peer of the interface, and the first is its
switch. -/
structure PeerOn (router network : String) (o p : Row) : Prop where
  owner : o.name? = some (Name.switch network)
  name : p.name? = some (peerName router network)
  router : p.externalIds.get? ExternalId.router = some (Name.router router)

/-- If the row names a port of a router, it is the peer of an interface that the calls use, and the
other row is its switch. -/
def StandsOn (calls : List Call) (o p : Row) : Prop :=
  ∀ x, p.peerOf? = some x → ∃ router network, UsesInterface calls router network ∧
    x = portName router network ∧ PeerOn router network o p

theorem lasting_standsOn (calls : List Call) (o : Row) : Lasting (StandsOn calls o) := by
  apply lasting_of_alike
  intro p s halike hsame h x hx
  rw [hsame] at hx
  rcases h x hx with ⟨router, network, huses, hport, howner, hname, hrouter⟩
  exact ⟨router, network, huses, hport, howner, halike.name?.trans hname,
    halike.router.trans hrouter⟩

theorem lasting_standsOn_owner (calls : List Call) (p : Row) :
    Lasting fun o => StandsOn calls o p := by
  apply lasting_of_alike
  intro o s halike _ h x hx
  rcases h x hx with ⟨router, network, huses, hport, howner, hname, hrouter⟩
  exact ⟨router, network, huses, hport, halike.name?.trans howner, hname, hrouter⟩

theorem peerOf?_portRow (port : Tenant.Port) (mac : Mac) (uuid : String) (dhcp : Option String) :
    (Row.switchPort (portRow port mac uuid dhcp)).peerOf? = none := by
  show (portOptions port).get? "router-port" = none
  unfold portOptions
  split
  · split
    · rfl
    · exact TextMap.get?_ofList_of_forall_ne (by simp)
  · split
    · rfl
    · exact TextMap.get?_ofList_of_forall_ne (by simp)
  · rfl

/-- Of the new rows only the peer of an interface names the port of a router. -/
theorem Made.of_peerOf? {p : Row} {owner : Option Row} {x : String} (h : Made ts r p owner)
    (hx : p.peerOf? = some x) : ∃ router network gateway,
      r = .addInterface router network gateway ∧ x = portName router network ∧
        ∀ o ∈ owner, PeerOn router network o p := by
  cases h with
  | port howner hdhcp =>
      rw [peerOf?_portRow] at hx
      cases hx
  | localnet howner =>
      rw [Row.peerOf?, localnetRow, TextMap.get?_ofList_of_forall_ne (by simp)] at hx
      cases hx
  | @interfacePeer router network gateway _ o howner =>
      refine ⟨router, network, gateway, rfl, (Option.some.inj hx).symm, fun o' ho' => ?_⟩
      cases ho'
      exact ⟨howner, rfl, get?_interfaceIds_router router network⟩
  | group hplan hrow =>
      rcases mem_storedRows.mp hrow with rfl | ⟨_, _, rfl⟩ | rfl <;> cases hx
  | _ =>
      cases hx

theorem Made.standsOn {o p : Row} (hcall : .request r ∈ calls) (h : Made ts r p (some o)) :
    StandsOn calls o p := by
  intro x hx
  rcases h.of_peerOf? hx with ⟨router, network, gateway, rfl, hname, hon⟩
  exact ⟨router, network, .inl ⟨gateway, hcall⟩, hname, hon o rfl⟩

/-! ## Owners of both sides -/

/-- Every peer of the port of a router stands on the switch of its interface. -/
def PeersStand (calls : List Call) (ts : Tables) : Prop :=
  AllListed ts .switch .switchPort .ports (StandsOn calls)

/-- There is a row that names the port of the interface as that on the other side. -/
def HasPeer (ts : Tables) (router network : String) : Prop :=
  ∃ k p, (ts .switchPort).get? k = some p ∧ p.peerOf? = some (portName router network)

def HasPort (ts : Tables) (router network : String) : Prop :=
  ts.HasNamed .routerPort (portName router network)

section Owners

variable {k : String} {row : Row}

/-- The port of an interface is listed by its router. -/
theorem InterfaceApart.exists_router (hapart : InterfaceApart calls router network)
    (hts : Sound (listing calls) nothing ts) (hrow : (ts .routerPort).get? k = some row)
    (hname : row.name? = some (portName router network)) :
    ∃ key o, (ts .router).get? key = some o ∧ o.name? = some (Name.router router) ∧
      k ∈ o.refs .ports := by
  rcases hts.listed (t := .routerPort) rfl hrow id with ⟨key, o, ho, hk⟩
  rcases exists_lists hts ho rfl hk with ⟨row', hrow', hfits⟩
  rw [hrow] at hrow'
  cases hrow'
  rcases hfits with ⟨router', network', huses, howner, hname'⟩
  rw [hname] at hname'
  rcases hapart.port huses (Option.some.inj hname').symm with ⟨rfl, rfl⟩
  exact ⟨key, o, ho, howner, hk⟩

/-- The peer of an interface is listed by its switch. -/
theorem InterfaceApart.exists_switch (hapart : InterfaceApart calls router network)
    (hts : Sound (listing calls) nothing ts) (hpeers : PeersStand calls ts)
    (hrow : (ts .switchPort).get? k = some row)
    (hpeer : row.peerOf? = some (portName router network)) :
    ∃ key o, (ts .switch).get? key = some o ∧ k ∈ o.refs .ports ∧
      PeerOn router network o row := by
  rcases hts.listed (t := .switchPort) rfl hrow id with ⟨key, o, ho, hk⟩
  rcases hpeers key k o row ho hk hrow _ hpeer with ⟨router', network', huses, hname, hon⟩
  rcases hapart.port huses hname.symm with ⟨rfl, rfl⟩
  exact ⟨key, o, ho, hk, hon⟩

theorem InterfaceApart.routerSide_iff (hapart : InterfaceApart calls router network)
    (hts : Sound (listing calls) nothing ts) :
    RouterSide ts router network ↔ HasPort ts router network := by
  have hwell := hts.wellFormed
  constructor
  · intro h
    rcases h with ⟨port, hport, _⟩
    rcases (hwell.get?_name_iff rfl).mp hport with ⟨hrow, hname⟩
    exact ⟨port.uuid, port, hrow, hname⟩
  · intro h
    rcases h with ⟨k, row, hrow, hname⟩
    rcases hapart.exists_router hts hrow hname with ⟨key, o, ho, howner, hk⟩
    refine ⟨row, (hwell.name?_eq_iff rfl hrow).mp hname, o, (hwell.name?_eq_iff rfl ho).mp howner,
      ?_⟩
    rw [hwell.uuid_eq hrow]
    exact hk

theorem InterfaceApart.switchSide_iff (hapart : InterfaceApart calls router network)
    (hts : Sound (listing calls) nothing ts) (hpeers : PeersStand calls ts) :
    SwitchSide ts router network ↔ HasPeer ts router network := by
  have hwell := hts.wellFormed
  constructor
  · intro h
    rcases h with ⟨peer, hget, hpeer, _⟩
    exact ⟨peer.uuid, peer, ((hwell.get?_name_iff rfl).mp hget).1, hpeer⟩
  · intro h
    rcases h with ⟨k, row, hrow, hpeer⟩
    rcases hapart.exists_switch hts hpeers hrow hpeer with ⟨key, o, ho, hk, hon⟩
    refine ⟨row, (hwell.name?_eq_iff rfl hrow).mp hon.name, hpeer, o,
      (hwell.name?_eq_iff rfl ho).mp hon.owner, ?_⟩
    rw [hwell.uuid_eq hrow]
    exact hk

end Owners

/-! ## What one transaction does to both sides -/

/-- The request takes both sides of the interface away. -/
def Request.Disconnects (r : Request) (router network : String) : Prop :=
  r = .removeInterface router network ∨ r = .deleteRouter router

def Request.Connects (r : Request) (router network : String) : Prop :=
  ∃ gateway, r = .addInterface router network gateway

theorem router_name_inj {a b : String} (h : Name.router a = Name.router b) : a = b :=
  (String.append_right_inj "lr-").mp h

theorem switch_name_inj {a b : String} (h : Name.switch a = Name.switch b) : a = b :=
  (String.append_right_inj "ls-").mp h

section Steps

variable {k : String} {row s : Row}

/-- Only the request that connects both makes the port of an interface. -/
theorem Change.port_before (h : Change calls r ts us ops) (hcall : .request r ∈ calls)
    (hapart : InterfaceApart calls router network) (hr : ¬ r.Connects router network)
    (hs : (us .routerPort).get? k = some s) (hname : s.name? = some (portName router network)) :
    ∃ row, (ts .routerPort).get? k = some row ∧ row.name? = some (portName router network) := by
  rcases h.exists_row hs with ⟨row, hold | ⟨owner, hmade⟩ | hnew, htable, _, hrevised⟩
  · exact ⟨row, hold, hrevised.name?.symm.trans hname⟩
  · rw [hrevised.name?] at hname
    cases hmade with
    | @interfacePort router' network' gateway _ _ _ _ =>
        rcases hapart.port (.inl ⟨gateway, hcall⟩) (Option.some.inj hname) with ⟨rfl, rfl⟩
        exact absurd ⟨gateway, rfl⟩ hr
    | group _ hrow =>
        rcases mem_storedRows.mp hrow with rfl | ⟨_, _, rfl⟩ | rfl <;> cases htable
    | _ =>
        cases htable
  · cases hnew <;> cases htable

theorem Change.peer_before (h : Change calls r ts us ops) (hcall : .request r ∈ calls)
    (hapart : InterfaceApart calls router network) (hr : ¬ r.Connects router network)
    (hs : (us .switchPort).get? k = some s)
    (hpeer : s.peerOf? = some (portName router network)) :
    ∃ row, (ts .switchPort).get? k = some row ∧
      row.peerOf? = some (portName router network) := by
  rcases h.exists_row hs with ⟨row, hold | ⟨owner, hmade⟩ | hnew, htable, _, hrevised⟩
  all_goals have hsame : s.peerOf? = row.peerOf? := h.lasting (lasting_peerOf? _) hrevised rfl
  · exact ⟨row, hold, hsame.symm.trans hpeer⟩
  · rcases hmade.of_peerOf? (hsame.symm.trans hpeer) with ⟨_, _, gateway, rfl, hname, _⟩
    rcases hapart.port (.inl ⟨gateway, hcall⟩) hname.symm with ⟨rfl, rfl⟩
    exact absurd ⟨gateway, rfl⟩ hr
  · cases hnew <;> cases htable

/-- The port of an interface goes with the interface or with its router. -/
theorem InterfaceApart.not_deletes_port (hapart : InterfaceApart calls router network)
    (hts : Sound (listing calls) nothing ts) (hcall : .request r ∈ calls)
    (hr : ¬ r.Disconnects router network) (hrow : (ts .routerPort).get? k = some row)
    (hname : row.name? = some (portName router network)) : ¬ r.Deletes ts .routerPort k := by
  intro hdeletes
  cases r <;> try exact hdeletes.elim
  case deleteRouter router' =>
    rcases (listedIn_iff hts.wellFormed rfl).mp hdeletes with ⟨key', o', ho', howner', hk'⟩
    rcases hapart.exists_router hts hrow hname with ⟨key, o, ho, howner, hk⟩
    have hkey := hts.one (t := .routerPort) rfl ho ho' hk hk'
    rw [hkey, ho'] at ho
    cases ho
    rw [howner] at howner'
    rw [router_name_inj (Option.some.inj howner')] at hr
    exact hr (.inr rfl)
  case removeInterface router' network' =>
    rcases (stored_iff hts.wellFormed rfl).mp hdeletes with ⟨row', hrow', hname'⟩
    rw [hrow] at hrow'
    cases hrow'
    rw [hname] at hname'
    rcases hapart.port (.inr hcall) (Option.some.inj hname').symm with ⟨rfl, rfl⟩
    exact hr (.inl rfl)

/-- The peer of an interface goes with the interface, with its router or with its switch. -/
theorem InterfaceApart.not_deletes_peer (hapart : InterfaceApart calls router network)
    (hts : Sound (listing calls) nothing ts) (hpeers : PeersStand calls ts)
    (hcall : .request r ∈ calls) (hr : ¬ r.Disconnects router network)
    (hswitch : r ≠ .deleteSwitch network) (hrow : (ts .switchPort).get? k = some row)
    (hpeer : row.peerOf? = some (portName router network)) : ¬ r.Deletes ts .switchPort k := by
  rcases hapart.exists_switch hts hpeers hrow hpeer with ⟨key, o, ho, hk, hon⟩
  intro hdeletes
  cases r <;> try exact hdeletes.elim
  case deletePort port =>
    rcases (stored_iff hts.wellFormed rfl).mp hdeletes with ⟨row', hrow', hname'⟩
    rw [hrow] at hrow'
    cases hrow'
    rw [hon.name] at hname'
    exact switchPort_ne_routerPeer _ _ _ (Option.some.inj hname').symm
  case deleteSwitch network' =>
    rcases (listedIn_iff hts.wellFormed rfl).mp hdeletes with ⟨key', o', ho', howner', hk'⟩
    have hkey := hts.one (t := .switchPort) rfl ho ho' hk hk'
    rw [hkey, ho'] at ho
    cases ho
    rw [hon.owner] at howner'
    rw [switch_name_inj (Option.some.inj howner')] at hswitch
    exact hswitch rfl
  case deleteRouter router' =>
    rcases hdeletes with ⟨_, row', hrow', hrouter'⟩
    rw [hrow] at hrow'
    cases hrow'
    rw [hon.router] at hrouter'
    rw [router_name_inj (Option.some.inj hrouter')] at hr
    exact hr (.inr rfl)
  case removeInterface router' network' =>
    rcases (stored_iff hts.wellFormed rfl).mp hdeletes with ⟨row', hrow', hname'⟩
    rw [hrow] at hrow'
    cases hrow'
    rw [hon.name] at hname'
    rcases hapart.peer (.inr hcall) (Option.some.inj hname').symm with ⟨rfl, rfl⟩
    exact hr (.inl rfl)

theorem Request.Disconnects.not_connects (hr : r.Disconnects router network) :
    ¬ r.Connects router network := by
  intro h
  rcases h with ⟨gateway, rfl⟩
  rcases hr with hr | hr <;> cases hr

/-- A request that disconnects leaves neither side. -/
theorem Request.Writes.disconnected (h : r.Writes ts us) (hcall : .request r ∈ calls)
    (hapart : InterfaceApart calls router network) (hts : Sound (listing calls) nothing ts)
    (hpeers : PeersStand calls ts) (hboth : HasPeer ts router network → HasPort ts router network)
    (hr : r.Disconnects router network) :
    ¬ HasPort us router network ∧ ¬ HasPeer us router network := by
  rcases h.exists_change hts hcall with ⟨ops, hchange⟩
  have hwell := hts.wellFormed
  constructor
  · intro hport
    rcases hport with ⟨k, s, hs, hname⟩
    rcases hchange.port_before hcall hapart hr.not_connects hs hname with ⟨row, hrow, hname⟩
    have hdeletes : r.Deletes ts .routerPort k := by
      rcases hr with rfl | rfl
      · exact (stored_iff hwell rfl).mpr ⟨row, hrow, hname⟩
      · rcases hapart.exists_router hts hrow hname with ⟨key, o, ho, howner, hk⟩
        exact (listedIn_iff hwell rfl).mpr ⟨key, o, ho, howner, hk⟩
    rw [h.gone hwell hdeletes] at hs
    cases hs
  · intro hpeer
    rcases hpeer with ⟨k, s, hs, hpeer⟩
    rcases hchange.peer_before hcall hapart hr.not_connects hs hpeer with ⟨row, hrow, hpeer⟩
    rcases hapart.exists_switch hts hpeers hrow hpeer with ⟨_, _, _, _, hon⟩
    have hdeletes : r.Deletes ts .switchPort k := by
      rcases hr with rfl | rfl
      · exact (stored_iff hwell rfl).mpr ⟨row, hrow, hon.name⟩
      · rcases hboth ⟨k, row, hrow, hpeer⟩ with ⟨_, port, hport, hname⟩
        rcases hapart.exists_router hts hport hname with ⟨key, o, ho, howner, _⟩
        exact ⟨⟨key, (stored_iff hwell rfl).mpr ⟨o, ho, howner⟩⟩, row, hrow, hon.router⟩
    rw [h.gone hwell hdeletes] at hs
    cases hs

/-- The peer goes with its switch. -/
theorem Request.Writes.not_hasPeer (h : (Request.deleteSwitch network).Writes ts us)
    (hcall : .request (.deleteSwitch network) ∈ calls)
    (hapart : InterfaceApart calls router network) (hts : Sound (listing calls) nothing ts)
    (hpeers : PeersStand calls ts) : ¬ HasPeer us router network := by
  rcases h.exists_change hts hcall with ⟨ops, hchange⟩
  intro hpeer
  rcases hpeer with ⟨k, s, hs, hpeer⟩
  have hr : ¬ (Request.deleteSwitch network).Connects router network := by
    simp [Request.Connects]
  rcases hchange.peer_before hcall hapart hr hs hpeer with ⟨row, hrow, hpeer⟩
  rcases hapart.exists_switch hts hpeers hrow hpeer with ⟨key, o, ho, hk, hon⟩
  have hdeletes : (Request.deleteSwitch network).Deletes ts .switchPort k :=
    (listedIn_iff hts.wellFormed rfl).mpr ⟨key, o, ho, hon.owner, hk⟩
  rw [h.gone hts.wellFormed hdeletes] at hs
  cases hs

theorem Request.Writes.hasPort_iff (h : r.Writes ts us) (hcall : .request r ∈ calls)
    (hapart : InterfaceApart calls router network) (hts : Sound (listing calls) nothing ts)
    (hconnects : ¬ r.Connects router network) (hdisconnects : ¬ r.Disconnects router network) :
    HasPort us router network ↔ HasPort ts router network := by
  rcases h.exists_change hts hcall with ⟨ops, hchange⟩
  constructor
  · intro hport
    rcases hport with ⟨k, s, hs, hname⟩
    exact ⟨k, hchange.port_before hcall hapart hconnects hs hname⟩
  · intro hport
    rcases hport with ⟨k, row, hrow, hname⟩
    have hnot := hapart.not_deletes_port hts hcall hdisconnects hrow hname
    rcases hchange.exists_of_not_deletes rfl hrow hnot with ⟨s, hs⟩
    exact ⟨k, s, hs, (hchange.revised rfl rfl hrow hs).name?.trans hname⟩

theorem Request.Writes.hasPeer_iff (h : r.Writes ts us) (hcall : .request r ∈ calls)
    (hapart : InterfaceApart calls router network) (hts : Sound (listing calls) nothing ts)
    (hpeers : PeersStand calls ts) (hconnects : ¬ r.Connects router network)
    (hdisconnects : ¬ r.Disconnects router network) (hswitch : r ≠ .deleteSwitch network) :
    HasPeer us router network ↔ HasPeer ts router network := by
  rcases h.exists_change hts hcall with ⟨ops, hchange⟩
  constructor
  · intro hpeer
    rcases hpeer with ⟨k, s, hs, hpeer⟩
    exact ⟨k, hchange.peer_before hcall hapart hconnects hs hpeer⟩
  · intro hpeer
    rcases hpeer with ⟨k, row, hrow, hpeer⟩
    have hnot := hapart.not_deletes_peer hts hpeers hcall hdisconnects hswitch hrow hpeer
    rcases hchange.exists_of_not_deletes rfl hrow hnot with ⟨s, hs⟩
    have hsame : s.peerOf? = row.peerOf? :=
      hchange.lasting (lasting_peerOf? _) (hchange.revised rfl rfl hrow hs) rfl
    exact ⟨k, s, hs, hsame.trans hpeer⟩

/-- Both sides are made at once. -/
theorem inserts_addInterface {gateway : String} {t : Transaction RouterPort}
    (h : (addInterface router network gateway).Ends ts drawn t) : ∃ uuid mac peerUuid,
      .insert (.routerPort (interfacePort router network gateway uuid mac)) ∈ t.operations ∧
        .insert (.switchPort (interfacePeer router network peerUuid)) ∈ t.operations := by
  rcases of_bind h with ⟨_, address, _, _, _, hrest⟩
  split at hrest
  · cases hrest
  · rcases of_bind hrest with ⟨_, routerRow, _, _, _, hrest⟩
    rcases of_bind hrest with ⟨_, switchRow, _, _, _, hrest⟩
    rcases of_bind hrest with ⟨_, uuid, _, _, _, hrest⟩
    rcases of_bind hrest with ⟨_, mac, _, _, _, hrest⟩
    rcases of_bind hrest with ⟨_, peerUuid, _, _, _, hwrite⟩
    rcases of_pure hwrite with ⟨_, rfl⟩
    refine ⟨uuid, mac, peerUuid, List.mem_cons_self, ?_⟩
    exact List.mem_cons_of_mem _ (List.mem_cons_of_mem _ List.mem_cons_self)

/-- An interface is made only where its port is not there yet. -/
theorem Request.Writes.connected (h : r.Writes ts us) (hcall : .request r ∈ calls)
    (hts : Sound (listing calls) nothing ts) (hr : r.Connects router network) :
    ¬ HasPort ts router network ∧ HasPort us router network ∧ HasPeer us router network := by
  rcases hr with ⟨gateway, rfl⟩
  cases h with
  | dhcp heq _ _ =>
      cases heq
  | call hends hops =>
      have hchange : Change calls (.addInterface router network gateway) ts us _ :=
        ⟨hts, ⟨_, issued_plan hts hcall hends⟩, footprints_plan hts.wellFormed hends, hops⟩
      rcases of_translated hends with ⟨t, ht, heq⟩
      rw [heq] at hchange
      rcases inserts_addInterface ht with ⟨uuid, mac, peerUuid, hport, hpeer⟩
      have hports : ∃ s, (us .routerPort).get? uuid = some s :=
        hchange.exists_of_insert hport rfl
      have hpeers : ∃ s, (us .switchPort).get? peerUuid = some s :=
        hchange.exists_of_insert hpeer rfl
      rcases hports with ⟨s, hs⟩
      rcases hpeers with ⟨s', hs'⟩
      have hname : s.name? = some (portName router network) :=
        (hchange.revised_of_insert hport rfl rfl hs).name?
      have hpeer : s'.peerOf? = some (portName router network) :=
        hchange.lasting (lasting_peerOf? _) (hchange.revised_of_insert hpeer rfl rfl hs') rfl
      refine ⟨fun hold => ?_, ⟨uuid, s, hs, hname⟩, ⟨peerUuid, s', hs', hpeer⟩⟩
      -- an old port would still be there and share its name with the new one
      rcases hold with ⟨k, row, hrow, hname'⟩
      rcases hchange.exists_of_not_deletes (k := k) rfl hrow id with ⟨s'', hs''⟩
      have hname'' : s''.name? = some (portName router network) :=
        (hchange.revised rfl rfl hrow hs'').name?.trans hname'
      have hkey := (hts.wellFormed.applyAll hchange.applied).key_eq_of_name rfl hs hs'' hname
        hname''
      have hnone : (ts .routerPort).get? uuid = none :=
        get?_eq_none_of_insert hts.wellFormed hchange.applied hport
          (hchange.leaves_of_insert hport rfl)
      rw [← hkey, hnone] at hrow
      cases hrow

end Steps

/-! ## What calls do to both sides -/

/-- What every history keeps: there is no peer of the interface without its port. -/
structure Paired (calls : List Call) (ts : Tables) (router network : String) : Prop where
  sound : Sound (listing calls) nothing ts
  peers : PeersStand calls ts
  port : HasPeer ts router network → HasPort ts router network

theorem Paired.routerSide_of_switchSide (h : Paired calls ts router network)
    (hapart : InterfaceApart calls router network) (hside : SwitchSide ts router network) :
    RouterSide ts router network :=
  (hapart.routerSide_iff h.sound).mpr
    (h.port ((hapart.switchSide_iff h.sound h.peers).mp hside))

theorem Paired.empty : Paired calls Tables.empty router network := by
  refine ⟨.empty, .empty _ _ _ _, fun h => ?_⟩
  rcases h with ⟨k, p, hp, _⟩
  rw [rows_empty] at hp
  cases hp

theorem Request.Writes.peersStand (h : r.Writes ts us) (hcall : .request r ∈ calls)
    (hts : Sound (listing calls) nothing ts) (hpeers : PeersStand calls ts) :
    PeersStand calls us :=
  h.listed_lasts (t := .switchPort) (lasting_standsOn_owner calls) (lasting_standsOn calls) hts
    hcall (fun hmade => hmade.standsOn hcall) rfl (by decide) hpeers

theorem Paired.writes (hpaired : Paired calls ts router network) (hcall : .request r ∈ calls)
    (hapart : InterfaceApart calls router network) (h : r.Writes ts us) :
    Paired calls us router network := by
  refine ⟨h.sound hpaired.sound hcall, h.peersStand hcall hpaired.sound hpaired.peers, ?_⟩
  intro hpeer
  by_cases hconnects : r.Connects router network
  · exact (h.connected hcall hpaired.sound hconnects).2.1
  by_cases hdisconnects : r.Disconnects router network
  · have hnot := h.disconnected hcall hapart hpaired.sound hpaired.peers hpaired.port hdisconnects
    exact absurd hpeer hnot.2
  rw [h.hasPort_iff hcall hapart hpaired.sound hconnects hdisconnects]
  by_cases hswitch : r = .deleteSwitch network
  · subst hswitch
    exact absurd hpeer (h.not_hasPeer hcall hapart hpaired.sound hpaired.peers)
  · rw [h.hasPeer_iff hcall hapart hpaired.sound hpaired.peers hconnects hdisconnects hswitch]
      at hpeer
    exact hpaired.port hpeer

/-- Only the port of the interface is there. -/
def Half (ts : Tables) (router network : String) : Prop :=
  HasPort ts router network ∧ ¬ HasPeer ts router network

section Histories

variable {ι : Type} [IdSource ι] {m : Memory} {ids : ι}

theorem total_removeInterface (hts : ts.WellFormed) (router network : String) :
    (removeInterface router network).Total ts := by
  apply Plan.Total.bind (.fetch hts _)
  intro _ port _
  apply Plan.Total.bind (.fetch hts _)
  intro _ peer _
  exact .done _

theorem total_deleteRouter (hts : ts.WellFormed) (router : String) :
    (deleteRouter router).Total ts := by
  apply Plan.Total.bind (.fetch hts _)
  intro _ found _
  cases found with
  | none =>
      exact .done _
  | some row =>
      have hleave : ∀ peer : SwitchPort,
          ((leaveSwitches peer.uuid).bind fun off =>
            Plan.done (off ++ [deleteOperation .switchPort peer.uuid])).Total ts := by
        intro peer
        apply Plan.Total.bind (total_leaveSwitches hts peer.uuid)
        intro _ off _
        exact .done _
      apply Plan.Total.bind (.findAll hts _ _)
      intro _ peers _
      apply Plan.Total.bind (.gather hleave peers)
      intro _ peersGone _
      exact .done _

/-- The requests that take an interface away never fail. -/
theorem Request.Disconnects.exists_perform (h : r.Disconnects router network)
    (hts : m.tables.WellFormed) (ids : ι) : ∃ a, (r.perform m ids).1 = .ok a := by
  rcases h with rfl | rfl
  · apply Plan.exists_perform_translated (total_removeInterface hts router network)
    intro us ids' t _ hends
    exact exists_applyAll_of_removes (removes_removeInterface hends) _
  · apply Plan.exists_perform_translated (total_deleteRouter hts router)
    intro us ids' t _ hends
    exact exists_applyAll_of_removes (removes_deleteRouter hts hends) _

/-- A request of one call that cannot fail is written. -/
theorem Request.writes_of_succeeds (hr : ¬ ∃ network, r = .createSwitch network)
    (hok : ∃ a, (r.perform m ids).1 = .ok a) : r.Writes m.tables (r.perform m ids).2.1.tables := by
  rcases Request.ends_of_succeeds hr hok with ⟨drawn, t, hends, hops⟩
  exact .call hends hops

theorem Paired.perform (h : Paired calls m.tables router network)
    (hapart : InterfaceApart calls router network) (hcall : .request r ∈ calls) (ids : ι) :
    Paired calls (r.perform m ids).2.1.tables router network :=
  Request.perform_induction (motive := fun ts => Paired calls ts router network) r m ids h
    fun hts hwrites => hts.writes hcall hapart hwrites

/-- An interface loses its peer alone when its switch is deleted, and stays so until it is taken
away. -/
theorem Paired.half_perform_iff (h : Paired calls m.tables router network)
    (hapart : InterfaceApart calls router network) (hcall : .request r ∈ calls) (ids : ι) :
    Half (r.perform m ids).2.1.tables router network ↔
      (r = .deleteSwitch network ∧ HasPeer m.tables router network) ∨
        (Half m.tables router network ∧ ¬ r.Disconnects router network) := by
  by_cases hconnects : r.Connects router network
  · rcases hconnects with ⟨gateway, rfl⟩
    rcases Request.perform_spec (r := .addInterface router network gateway) (by simp) m ids with
      ⟨_, hsame⟩ | ⟨_, drawn, t, hends, hops⟩
    · rw [hsame]
      simp [Request.Disconnects]
    · have hwrites : Request.Writes _ m.tables _ := .call hends hops
      have hboth := hwrites.connected hcall h.sound ⟨gateway, rfl⟩
      simp [Half, hboth.1, hboth.2.2]
  by_cases hdisconnects : r.Disconnects router network
  · have hr : ¬ ∃ network, r = .createSwitch network := by
      rcases hdisconnects with rfl | rfl <;> simp
    have hwrites := Request.writes_of_succeeds hr (hdisconnects.exists_perform
      h.sound.wellFormed ids)
    have hnot := hwrites.disconnected hcall hapart h.sound h.peers h.port hdisconnects
    have hswitch : r ≠ .deleteSwitch network := by
      rcases hdisconnects with rfl | rfl <;> simp
    simp [Half, hnot.1, hdisconnects, hswitch]
  by_cases hswitch : r = .deleteSwitch network
  · subst hswitch
    have hwrites := Request.writes_of_succeeds (r := .deleteSwitch network) (by simp)
      (exists_perform_deleteSwitch h.sound.wellFormed network ids)
    have hpeer := hwrites.not_hasPeer hcall hapart h.sound h.peers
    have hport := hwrites.hasPort_iff hcall hapart h.sound hconnects hdisconnects
    have hold := h.port
    simp only [Half, hport, hpeer, hdisconnects]
    tauto
  · have hsame := Request.perform_induction (motive := fun ts => Paired calls ts router network ∧
      (HasPort ts router network ↔ HasPort m.tables router network) ∧
      (HasPeer ts router network ↔ HasPeer m.tables router network)) r m ids ⟨h, .rfl, .rfl⟩ ?_
    · simp [Half, hsame.2.1, hsame.2.2, hswitch, hdisconnects]
    · intro ts us hts hwrites
      have hport := hwrites.hasPort_iff hcall hapart hts.1.sound hconnects hdisconnects
      have hpeer := hwrites.hasPeer_iff hcall hapart hts.1.sound hts.1.peers hconnects
        hdisconnects hswitch
      exact ⟨hts.1.writes hcall hapart hwrites, hport.trans hts.2.1, hpeer.trans hts.2.2⟩

/-! ## Every history -/

/-- The switch was deleted while both sides were there, and neither the interface nor its router
since. -/
def LostPeer (router network : String) (ids : ι) (calls : List Call) : Prop :=
  Since (fun before call => call = .request (.deleteSwitch network) ∧
      HasPeer (history before ids).1.tables router network)
    (fun call => call ≠ .request (.removeInterface router network) ∧
      call ≠ .request (.deleteRouter router)) calls

theorem paired_history (hapart : InterfaceApart calls router network) {past : List Call}
    (hpast : ∀ call ∈ past, call ∈ calls) (ids : ι) :
    Paired calls (history past ids).1.tables router network ∧
      (Half (history past ids).1.tables router network ↔ LostPeer router network ids past) := by
  induction past using List.reverseRecOn with
  | nil =>
      refine ⟨.empty, fun h => ?_, fun h => ?_⟩
      · rcases h.1 with ⟨k, row, hrow, _⟩
        rw [show (history [] ids).1.tables = Tables.empty from rfl, rows_empty] at hrow
        cases hrow
      · rcases h with ⟨before, call, after, heq, _⟩
        cases before <;> cases heq
  | append_singleton past call ih =>
      rcases ih fun call' hcall' => hpast call' (List.mem_append_left _ hcall') with
        ⟨hpaired, hhalf⟩
      have hcall := hpast call (by simp)
      unfold LostPeer at hhalf ⊢
      rw [since_append_singleton, ← hhalf, history_append_singleton]
      cases call with
      | close =>
          refine ⟨hpaired, ?_⟩
          show Half (history past ids).1.tables router network ↔ _
          simp
      | request r =>
          refine ⟨hpaired.perform hapart hcall _, ?_⟩
          have hstep := hpaired.half_perform_iff hapart hcall (history past ids).2
          simp only [Request.Disconnects, not_or] at hstep
          show Half (r.perform (history past ids).1 (history past ids).2).2.1.tables _ _ ↔ _
          simpa using hstep

/-- A switch has its side of an interface only where the router has the other, and the router's is
alone exactly if the switch was deleted under the interface, which nobody has taken away since. -/
theorem interface_sides_history (calls : List Call) (ids : ι)
    (hapart : InterfaceApart calls router network) :
    (SwitchSide (history calls ids).1.tables router network →
      RouterSide (history calls ids).1.tables router network) ∧
    (RouterSide (history calls ids).1.tables router network ∧
        ¬ SwitchSide (history calls ids).1.tables router network ↔
      ∃ before after, calls = before ++ .request (.deleteSwitch network) :: after ∧
        SwitchSide (history before ids).1.tables router network ∧
        ∀ call ∈ after, call ≠ .request (.removeInterface router network) ∧
          call ≠ .request (.deleteRouter router)) := by
  have hswitch : ∀ {past : List Call}, (∀ call ∈ past, call ∈ calls) →
      (SwitchSide (history past ids).1.tables router network ↔
        HasPeer (history past ids).1.tables router network) := by
    intro past hpast
    have hpaired := (paired_history hapart hpast ids).1
    exact hapart.switchSide_iff hpaired.sound hpaired.peers
  rcases paired_history hapart (fun _ hcall => hcall) ids with ⟨hpaired, hhalf⟩
  refine ⟨hpaired.routerSide_of_switchSide hapart, ?_⟩
  rw [hapart.routerSide_iff hpaired.sound, hswitch fun _ hcall => hcall]
  refine hhalf.trans ⟨fun h => ?_, fun h => ?_⟩
  · rcases h with ⟨before, call, after, heq, ⟨rfl, hpeer⟩, hlater⟩
    refine ⟨before, after, heq, (hswitch fun call hcall => ?_).mpr hpeer, hlater⟩
    rw [heq]
    exact List.mem_append_left _ hcall
  · rcases h with ⟨before, after, heq, hside, hlater⟩
    refine ⟨before, _, after, heq, ⟨rfl, (hswitch fun call hcall => ?_).mp hside⟩, hlater⟩
    rw [heq]
    exact List.mem_append_left _ hcall

/-- The network of an interface is deleted. -/
def halved : List Call :=
  connected ++ [.request (.deleteSwitch "a")]

theorem interfaceApart_of_forall_eq
    (h : ∀ {router' network'}, UsesInterface calls router' network' →
      router' = router ∧ network' = network) : InterfaceApart calls router network :=
  ⟨fun huses _ => h huses, fun huses _ => h huses⟩

theorem interfaceApart_halved : InterfaceApart halved "r" "a" := by
  apply interfaceApart_of_forall_eq
  intro router' network' huses
  simpa [UsesInterface, halved, connected] using huses

theorem interface_sides_halved : InterfaceApart halved "r" "a" ∧
    RouterSide (history halved (Counter.mk 1)).1.tables "r" "a" ∧
      ¬ SwitchSide (history halved (Counter.mk 1)).1.tables "r" "a" := by
  refine ⟨interfaceApart_halved, ?_⟩
  rw [(interface_sides_history halved (Counter.mk 1) interfaceApart_halved).2]
  exact ⟨connected, [], rfl, by decide +kernel, by simp⟩

/-- It is not so that both sides of an interface are there together. -/
theorem not_both_sides :
    ¬ ∀ (calls : List Call) (ids : Counter) (router network : String),
      InterfaceApart calls router network →
      (RouterSide (history calls ids).1.tables router network ↔
        SwitchSide (history calls ids).1.tables router network) := by
  intro h
  exact absurd (h halved (Counter.mk 1) "r" "a" interfaceApart_halved) (by decide +kernel)

end Histories

end Client
end LogicalNet
