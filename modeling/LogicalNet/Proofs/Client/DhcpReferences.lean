import LogicalNet.Proofs.Client.Transitions

/-!
# The DHCP options that ports refer to

A port of a switch names the DHCP options that serve it in a column that no deletion
looks at, so that the port may outlive them.  It does so in two ways only: the options
are deleted by their identifier, or they were given the name of another switch and go
with that one.
-/

namespace LogicalNet

/-! ## The options of a row -/

namespace Row

/-- The DHCP options that serve the row, which only the port of a switch has. -/
def dhcp? : Row → Option String
  | switchPort port => port.dhcpOptions
  | _ => none

@[simp]
theorem dhcp?_mapReferences (f : List String → List String) (c : RefColumn) (r : Row) :
    (r.mapReferences f c).dhcp? = r.dhcp? := by
  cases c <;> cases r <;> rfl

@[simp]
theorem dhcp?_mapKeys (f : TextMap String → TextMap String) (c : MapColumn) (r : Row) :
    (r.mapKeys f c).dhcp? = r.dhcp? := by
  cases c <;> cases r <;> rfl

end Row

namespace Client

open Tables

variable {calls : List Call} {ts us : Tables} {r : Request} {ops : List Operation}
  {name u : String}

theorem lasting_dhcp? (d : Option String) : Lasting fun row => row.dhcp? = d := by
  constructor <;> simp

/-! ## What becomes of options that serve ports -/

/-- The options were given the name of another switch, and that switch was deleted. -/
def Swept (calls : List Call) (name u : String) : Prop :=
  ∃ options other, .request (.updateDhcpOptions options) ∈ calls ∧ options.uuid = u ∧
    options.externalIds.get? ExternalId.switch = some (Name.switch other) ∧
    Name.switch other ≠ name ∧ .request (.deleteSwitch other) ∈ calls

/-- What has become of options that serve ports of the switch of the name. -/
inductive Served (calls : List Call) (ts : Tables) (name u : String) : Prop where
  | own (h : Bears ts .dhcpOptions ExternalId.switch name u)
  | updated {options : DhcpOptions} {d : Row}
      (hcall : .request (.updateDhcpOptions options) ∈ calls) (huuid : options.uuid = u)
      (hd : (ts .dhcpOptions).get? u = some d) (hids : d.externalIds = options.externalIds)
  | deleted (hcall : .request (.deleteDhcpOptions u) ∈ calls)
  | swept (h : Swept calls name u)

/-- Calls leave the external ids of rows that are no ports of switches. -/
theorem Change.externalIds_eq (h : Change calls r ts us ops) {row s : Row}
    (htable : row.table ≠ .switchPort) (hrevised : Revised ops row s) :
    s.externalIds = row.externalIds := by
  refine hrevised.externalIds fun l c entries hop => htable ?_
  generalize hsame : Operation.setKeys row.table l c entries = op at hop
  cases h.footprints op hop with
  | machine =>
      exact (Operation.setKeys.inj hsame).1
  | host =>
      exact (Operation.setKeys.inj hsame).1
  | _ =>
      cases hsame

/-- Options that are there, under the name of the switch or as updated, stay so or are deleted. -/
theorem Change.served_of_get? (h : Change calls r ts us ops) (hcall : .request r ∈ calls) {d : Row}
    (hd : (ts .dhcpOptions).get? u = some d)
    (hids : d.externalIds.get? ExternalId.switch = some name ∨
      ∃ options, .request (.updateDhcpOptions options) ∈ calls ∧ options.uuid = u ∧
        d.externalIds = options.externalIds)
    (hkept : ∀ network, r = .deleteSwitch network → Name.switch network ≠ name) :
    Served calls us name u := by
  by_cases hdeletes : r.Deletes ts .dhcpOptions u
  · cases r <;> try exact hdeletes.elim
    case deleteDhcpOptions key =>
      cases hdeletes
      exact .deleted hcall
    case deleteSwitch network =>
      rcases hdeletes with ⟨d', hd', hswitch⟩
      rw [hd] at hd'
      cases hd'
      rcases hids with hname | ⟨options, hupdate, huuid, hsame⟩
      · rw [hname] at hswitch
        exact absurd (Option.some.inj hswitch).symm (hkept network rfl)
      · rw [hsame] at hswitch
        exact .swept ⟨options, network, hupdate, huuid, hswitch, hkept network rfl, hcall⟩
  · rcases h.exists_of_not_deletes rfl hd hdeletes with ⟨s, hs⟩
    rcases h.revised_or_rewritten rfl hd hs with hrevised | ⟨new, hnew, htable, huuid, hrevised⟩
    · have htable : d.table ≠ .switchPort := by
        rw [h.sound.wellFormed.table_eq hd]
        decide
      have hsame := h.externalIds_eq htable hrevised
      rcases hids with hname | ⟨options, hupdate, huuid, hold⟩
      · exact .own ⟨s, hs, by rw [hsame, hname]⟩
      · exact .updated hupdate huuid hs (hsame.trans hold)
    · have hsame := h.externalIds_eq (by rw [htable]; decide) hrevised
      cases hnew with
      | dhcp =>
          exact .updated hcall huuid hs hsame
      | _ =>
          cases htable

theorem Change.served (h : Change calls r ts us ops) (hcall : .request r ∈ calls)
    (hserved : Served calls ts name u)
    (hkept : ∀ network, r = .deleteSwitch network → Name.switch network ≠ name) :
    Served calls us name u := by
  cases hserved with
  | own hbears =>
      rcases hbears with ⟨d, hd, hname⟩
      exact h.served_of_get? hcall hd (.inl hname) hkept
  | updated hupdate huuid hd hids =>
      exact h.served_of_get? hcall hd (.inr ⟨_, hupdate, huuid, hids⟩) hkept
  | deleted hdelete =>
      exact .deleted hdelete
  | swept hswept =>
      exact .swept hswept

/-! ## Every history -/

/-- The ports that switches list are served by options of the switch, unless these were deleted. -/
def PortsServed (calls : List Call) (ts : Tables) : Prop :=
  ∀ {k key o port u}, (ts .switch).get? k = some o → key ∈ o.refs .ports →
    (ts .switchPort).get? key = some port → port.dhcp? = some u →
    ∃ name, o.name? = some name ∧ Served calls ts name u

theorem Request.Writes.portsServed (hts : Sound (listing calls) nothing ts)
    (hcall : .request r ∈ calls) (hserved : PortsServed calls ts) (h : r.Writes ts us) :
    PortsServed calls us := by
  intro k key o port u ho hkey hport hdhcp
  rcases h.exists_change hts hcall with ⟨ops, hchange⟩
  rcases hchange.listed (t := .switchPort) rfl (by decide) ho hkey hport with
    ⟨old, row, hold, hrevised, hrevised', horigin⟩
  have hsame : port.dhcp? = row.dhcp? := hchange.lasting (lasting_dhcp? _) hrevised' rfl
  rw [hsame] at hdhcp
  have hserved' : ∃ name, old.name? = some name ∧ Served calls ts name u := by
    rcases horigin with ⟨hrow, hlisted⟩ | hmade
    · exact hserved hold hlisted hrow hdhcp
    · cases hmade with
      | port howner hbears =>
          exact ⟨_, howner, .own (hbears u hdhcp)⟩
      | _ =>
          cases hdhcp
  rcases hserved' with ⟨name, hname, hserved'⟩
  refine ⟨name, hrevised.name?.trans hname, hchange.served hcall hserved' ?_⟩
  -- the switch of the port is still there
  intro network hr hsame
  subst hr
  have hdeletes : (Request.deleteSwitch network).Deletes ts .switch k :=
    (stored_iff hts.wellFormed rfl).mpr ⟨old, hold, by rw [hname, hsame]⟩
  rw [h.gone hts.wellFormed hdeletes] at ho
  cases ho

section Histories

variable {ι : Type} [IdSource ι]

theorem portsServed_history (calls : List Call) (ids : ι) :
    PortsServed calls (history calls ids).1.tables := by
  apply history_induction (motive := PortsServed calls) calls ids
  · intro k key o port u ho
    rw [rows_empty] at ho
    cases ho
  · intro r ts us hts hcall hserved hwrites
    exact hwrites.portsServed hts hcall hserved

/-- The options of the identifier go, and every port stays as it is. -/
theorem history_deleteDhcpOptions (calls : List Call) (ids : ι) (u : String) :
    let later := history (calls ++ [.request (.deleteDhcpOptions u)]) ids
    (later.1.tables .dhcpOptions).get? u = none ∧ ∀ k, (later.1.tables .switchPort).get? k =
      ((history calls ids).1.tables .switchPort).get? k := by
  have hsound : Sound (listing calls) nothing (history calls ids).1.tables :=
    sound_history (fun _ hcall => hcall) ids
  have htables : (history (calls ++ [.request (.deleteDhcpOptions u)]) ids).1.tables =
      (history calls ids).1.tables.delete .dhcpOptions (.uuid u) := by
    rw [history_append_singleton]
    rfl
  intro later
  rw [show later.1.tables = _ from htables]
  constructor
  · rw [get?_delete_uuid, if_pos ⟨rfl, rfl⟩]
  · intro k
    rw [get?_delete_uuid, if_neg (by simp)]
    split
    · cases hrow : ((history calls ids).1.tables .switchPort).get? k with
      | none =>
          rfl
      | some row =>
          rw [Option.map_some, dropReferences_of_not_refers]
          intro c
          rw [hsound.wellFormed.table_eq hrow]
          cases c <;> simp [RefColumn.target?]
    · rfl

/-- The options that serve a port are there, unless they were deleted by their identifier or went
with another switch whose name an update gave them; and a deletion by the identifier leaves all
ports as they are. -/
theorem dhcp_references_history (calls : List Call) (ids : ι) :
    (∀ k port u, ((history calls ids).1.tables .switchPort).get? k = some (.switchPort port) →
      port.dhcpOptions = some u →
      (∃ d, ((history calls ids).1.tables .dhcpOptions).get? u = some d) ∨
        .request (.deleteDhcpOptions u) ∈ calls ∨
        ∃ name, ListedIn (history calls ids).1.tables .switch name .ports k ∧ Swept calls name u) ∧
    ∀ u, let later := history (calls ++ [.request (.deleteDhcpOptions u)]) ids
      (later.1.tables .dhcpOptions).get? u = none ∧ ∀ k, (later.1.tables .switchPort).get? k =
        ((history calls ids).1.tables .switchPort).get? k := by
  have hsound : Sound (listing calls) nothing (history calls ids).1.tables :=
    sound_history (fun _ hcall => hcall) ids
  constructor
  · intro k port u hport hdhcp
    rcases hsound.listed (t := .switchPort) rfl hport id with ⟨key, o, ho, hk⟩
    rcases portsServed_history calls ids ho hk hport hdhcp with ⟨name, hname, hserved⟩
    cases hserved with
    | own hbears =>
        rcases hbears with ⟨d, hd, _⟩
        exact .inl ⟨d, hd⟩
    | updated _ _ hd _ =>
        exact .inl ⟨_, hd⟩
    | deleted hcall =>
        exact .inr (.inl hcall)
    | swept hswept =>
        have hlisted := (listedIn_iff hsound.wellFormed rfl).mpr ⟨key, o, ho, hname, hk⟩
        exact .inr (.inr ⟨name, hlisted, hswept⟩)
  · exact history_deleteDhcpOptions calls ids

/-! ## A port without its options -/

/-- A network with DHCP and a port on it; then its options are deleted. -/
def unserved : List Call := [
  .request (.createSwitch { id := "n", spec := { addressing := {
    subnet := "10.0.1.0/24", gateway := "10.0.1.1", dhcp := { enabled := true } } } }),
  .request (.createPort {
    id := "q", network := "n", spec := { macAddress := "FA:16:3E:00:00:01" } }),
  .request (.deleteDhcpOptions (Text.decimal 2))]

/-- Whether every port with options has a row of them. -/
def allServed (ts : Tables) : Bool :=
  (ts.list .switchPort).all fun port =>
    port.dhcp?.all fun u => (ts .dhcpOptions).contains u

/-- The store does leave a port that points to deleted options. -/
theorem not_all_dhcp_options_exist :
    ¬ ∀ (calls : List Call) (ids : Counter) (k : String) (port : SwitchPort) (u : String),
      ((history calls ids).1.tables .switchPort).get? k = some (.switchPort port) →
      port.dhcpOptions = some u →
      ∃ d, ((history calls ids).1.tables .dhcpOptions).get? u = some d := by
  intro h
  have hall : allServed (history unserved (Counter.mk 1)).1.tables = true := by
    apply List.all_eq_true.mpr
    intro row hrow
    rcases TextMap.mem_values_iff.mp hrow with ⟨k, hk⟩
    cases row with
    | switchPort port =>
        cases hdhcp : port.dhcpOptions with
        | none =>
            simp [Row.dhcp?, hdhcp]
        | some u =>
            rcases h unserved _ k port u hk hdhcp with ⟨d, hd⟩
            simp [Row.dhcp?, hdhcp, TextMap.contains, hd]
    | _ =>
        rfl
  exact absurd hall (by decide +kernel)

end Histories

end Client
end LogicalNet
