import Mathlib
import LogicalNet.Command.Session
import LogicalNet.Proofs.Address.MacRoundTrip
import LogicalNet.Proofs.Column.Cells
import LogicalNet.Proofs.Outcome

/-!
# Rows read back from listings

A listing has one column for the identifier of a row and one for each of its columns, in
any order; columns that are empty in every row may be left out.  Reading a listing of
rows of one table gives the same rows in the same order.

Some texts stand for fewer values than their type has, so a row is read back if its
kind, its MAC address and its network addresses are of those that texts stand for.
-/

namespace LogicalNet

/-! ## Blank texts -/

namespace Document

namespace Json

theorem readNumber?_of_isBlank {s : List Char} (h : ∀ c ∈ s, Text.isBlank c = true) :
    readNumber? s = none := by
  have hdigits : s.takeWhile isDigit = [] := by
    cases s with
    | nil =>
        rfl
    | cons c s =>
        have hc := h c List.mem_cons_self
        rw [List.takeWhile_cons_of_neg]
        intro hdigit
        simp only [isDigit, Bool.and_eq_true, decide_eq_true_eq] at hdigit
        simp only [Text.isBlank, Bool.or_eq_true, Bool.and_eq_true, decide_eq_true_eq,
          beq_iff_eq] at hc
        omega
  have hwhole : readWhole? s = none := by
    unfold readWhole?
    split
    · exact absurd (h '0' List.mem_cons_self) (by decide)
    · rw [hdigits]
  unfold readNumber?
  split
  · exact absurd (h '-' List.mem_cons_self) (by decide)
  · rw [readUnsigned?, hwhole]
    rfl

theorem readValue?_of_isBlank {fuel : Nat} {s : List Char} (h : ∀ c ∈ s, Text.isBlank c = true) :
    readValue? fuel s = none := by
  cases fuel with
  | zero =>
      rfl
  | succ fuel =>
      unfold readValue?
      split
      · exact absurd (h 'n' List.mem_cons_self) (by decide)
      · exact absurd (h 't' List.mem_cons_self) (by decide)
      · exact absurd (h 'f' List.mem_cons_self) (by decide)
      · exact absurd (h '"' List.mem_cons_self) (by decide)
      · exact absurd (h '[' List.mem_cons_self) (by decide)
      · exact absurd (h '{' List.mem_cons_self) (by decide)
      · exact readNumber?_of_isBlank h

end Json

/-- A text of blanks is no document. -/
theorem ofJson?_of_isBlankText {text : String} (h : Text.isBlankText text = true) :
    ofJson? text = none := by
  have hblank : ∀ c ∈ Json.skipBlanks text.toList, Text.isBlank c = true := by
    intro c hc
    exact List.all_eq_true.mp h c ((List.dropWhile_sublist _).subset hc)
  rw [ofJson?, ofPassableJson?, ofPassableJsonChars?, Json.readValue?_of_isBlank hblank]
  rfl

end Document

/-! ## Texts of columns -/

theorem PortKind.text_ofText (s : String) : (ofText s).text = s := by
  unfold ofText
  split <;> rfl

theorem NetAddress.read_text {a : NetAddress} (h : a.Fits) : read a.text = .ok a := by
  rw [read, ofText?_text h]

theorem AclDirection.read_text (k : AclDirection) : read k.text = .ok k := by
  cases k <;> rfl

theorem AclAction.read_text (k : AclAction) : read k.text = .ok k := by
  cases k <;> rfl

theorem NatKind.read_text (k : NatKind) : read k.text = .ok k := by
  cases k <;> rfl

theorem Acl.readPriority_toNat (n : UInt16) : readPriority n.toNat = .ok n := by
  have hlt := n.toNat_lt
  rw [readPriority, if_pos]
  · simp
  · simp only [Bool.and_eq_true, decide_eq_true_eq]
    omega

theorem SwitchPort.readTag_toNat (tag : Option UInt16) :
    readTag (tag.map fun n => (n.toNat : Int)) = .ok tag := by
  cases tag with
  | none =>
      rfl
  | some n =>
      have hlt := n.toNat_lt
      rw [Option.map_some, readTag, if_pos]
      · simp
      · simp only [Bool.and_eq_true, decide_eq_true_eq]
        omega

namespace Row

open Outcome

/-! ## Rows from records -/

/-- What texts of the database may stand for. -/
def Readable : Row → Prop
  | switchPort r => ∃ s, r.kind = PortKind.ofText s
  | routerPort r => ∃ s, Mac.ofText s = .ok r.mac
  | staticRoute r => r.destination.Fits ∧ r.nextHop.Fits
  | nat r => r.external.Fits ∧ r.logical.Fits
  | _ => True

/-- The columns of a row in a listing. -/
def listed (r : Row) : List (String × Value) :=
  ("_uuid", .uuid r.uuid) :: r.columns

variable {record : Record}

theorem ofRecord_switch {r : Switch} (h : ∀ c ∈ (switch r).listed, record.Carries c.1 c.2) :
    Switch.ofRecord record = .ok r := by
  simp only [listed, columns, Switch.columns, List.forall_mem_cons] at h
  rcases h with ⟨huuid, hname, hports, hacls, hbalancers, hids, hconfig, -⟩
  simp only [Switch.ofRecord, huuid.uuid, hname.text, hports.uuids, hacls.uuids,
    hbalancers.uuids, hids.textMap, hconfig.textMap]
  rfl

theorem ofRecord_switchPort {r : SwitchPort}
    (h : ∀ c ∈ (switchPort r).listed, record.Carries c.1 c.2)
    (hkind : ∃ s, r.kind = PortKind.ofText s) : SwitchPort.ofRecord record = .ok r := by
  simp only [listed, columns, SwitchPort.columns, List.forall_mem_cons] at h
  rcases h with ⟨huuid, hname, htype, haddresses, hsecurity, henabled, htag, hoptions, hids, hdhcp,
    -⟩
  rcases hkind with ⟨s, hs⟩
  have htext : record.optionalText "type" = .ok (some r.kind.text) := htype.optional_atom rfl rfl
  have hread : PortKind.ofText r.kind.text = r.kind := by
    rw [hs, PortKind.text_ofText]
  simp only [SwitchPort.ofRecord, htag.optionalInteger, htext, huuid.uuid, hname.text,
    haddresses.texts, hsecurity.texts, henabled.optionalBoolean, hoptions.textMap, hids.textMap,
    hdhcp.optionalUuid, lift_read, lift_input, bind_ok,
    SwitchPort.readTag_toNat, Option.getD_some, hread]
  rfl

theorem ofRecord_router {r : Router} (h : ∀ c ∈ (router r).listed, record.Carries c.1 c.2) :
    Router.ofRecord record = .ok r := by
  simp only [listed, columns, Router.columns, List.forall_mem_cons] at h
  rcases h with ⟨huuid, hname, henabled, hports, hnat, hbalancers, hroutes, hoptions, hids, -⟩
  simp only [Router.ofRecord, huuid.uuid, hname.text, henabled.optionalBoolean, hports.uuids,
    hnat.uuids, hbalancers.uuids, hroutes.uuids, hoptions.textMap, hids.textMap]
  rfl

theorem ofRecord_routerPort {r : RouterPort}
    (h : ∀ c ∈ (routerPort r).listed, record.Carries c.1 c.2)
    (hmac : ∃ s, Mac.ofText s = .ok r.mac) : RouterPort.ofRecord record = .ok r := by
  simp only [listed, columns, RouterPort.columns, List.forall_mem_cons] at h
  rcases h with ⟨huuid, hname, haddress, hnetworks, henabled, hpeer, hids, -⟩
  rcases hmac with ⟨s, hs⟩
  have hread : Mac.read r.mac.address = .ok r.mac := by
    rw [Mac.read, Mac.ofText_address hs]
  simp only [RouterPort.ofRecord, huuid.uuid, hname.text, haddress.text, hnetworks.texts,
    henabled.optionalBoolean, hpeer.optionalText, hids.textMap, lift_read, lift_input, bind_ok,
    hread]
  rfl

theorem ofRecord_staticRoute {r : StaticRoute}
    (h : ∀ c ∈ (staticRoute r).listed, record.Carries c.1 c.2)
    (hfits : r.destination.Fits ∧ r.nextHop.Fits) : StaticRoute.ofRecord record = .ok r := by
  simp only [listed, columns, StaticRoute.columns, List.forall_mem_cons] at h
  rcases h with ⟨huuid, hdestination, hhop, hids, -⟩
  simp only [StaticRoute.ofRecord, huuid.uuid, hdestination.text, hhop.text, hids.textMap,
    lift_read, lift_input, bind_ok, NetAddress.read_text hfits.1,
    NetAddress.read_text hfits.2]
  rfl

theorem ofRecord_acl {r : Acl} (h : ∀ c ∈ (acl r).listed, record.Carries c.1 c.2) :
    Acl.ofRecord record = .ok r := by
  simp only [listed, columns, Acl.columns, List.forall_mem_cons] at h
  rcases h with ⟨huuid, hname, hdirection, hpriority, hmatch, haction, hlog, hids, -⟩
  have hflag : record.optionalBoolean "log" = .ok (some r.log) := hlog.optional_atom rfl rfl
  simp only [Acl.ofRecord, hpriority.integer, huuid.uuid, hdirection.text, hmatch.text,
    haction.text, hname.optionalText, hflag, hids.textMap, lift_read, lift_input, bind_ok,
    Acl.readPriority_toNat, AclDirection.read_text, AclAction.read_text, Option.getD_some]
  rfl

theorem ofRecord_addressSet {r : AddressSet}
    (h : ∀ c ∈ (addressSet r).listed, record.Carries c.1 c.2) :
    AddressSet.ofRecord record = .ok r := by
  simp only [listed, columns, AddressSet.columns, List.forall_mem_cons] at h
  rcases h with ⟨huuid, hname, haddresses, hids, -⟩
  simp only [AddressSet.ofRecord, huuid.uuid, hname.text, haddresses.texts, hids.textMap]
  rfl

theorem ofRecord_portGroup {r : PortGroup}
    (h : ∀ c ∈ (portGroup r).listed, record.Carries c.1 c.2) :
    PortGroup.ofRecord record = .ok r := by
  simp only [listed, columns, PortGroup.columns, List.forall_mem_cons] at h
  rcases h with ⟨huuid, hname, hports, hacls, hids, -⟩
  simp only [PortGroup.ofRecord, huuid.uuid, hname.text, hports.uuids, hacls.uuids, hids.textMap]
  rfl

theorem ofRecord_dhcpOptions {r : DhcpOptions}
    (h : ∀ c ∈ (dhcpOptions r).listed, record.Carries c.1 c.2) :
    DhcpOptions.ofRecord record = .ok r := by
  simp only [listed, columns, DhcpOptions.columns, List.forall_mem_cons] at h
  rcases h with ⟨huuid, hcidr, hoptions, hids, -⟩
  simp only [DhcpOptions.ofRecord, huuid.uuid, hcidr.text, hoptions.textMap, hids.textMap]
  rfl

theorem ofRecord_nat {r : NatRule} (h : ∀ c ∈ (nat r).listed, record.Carries c.1 c.2)
    (hfits : r.external.Fits ∧ r.logical.Fits) : NatRule.ofRecord record = .ok r := by
  simp only [listed, columns, NatRule.columns, List.forall_mem_cons] at h
  rcases h with ⟨huuid, htype, hexternal, hlogical, hids, -⟩
  simp only [NatRule.ofRecord, huuid.uuid, htype.text, hexternal.text, hlogical.text, hids.textMap,
    lift_read, lift_input, bind_ok, NatKind.read_text, NetAddress.read_text hfits.1,
    NetAddress.read_text hfits.2]
  rfl

theorem ofRecord_loadBalancer {r : LoadBalancer}
    (h : ∀ c ∈ (loadBalancer r).listed, record.Carries c.1 c.2) :
    LoadBalancer.ofRecord record = .ok r := by
  simp only [listed, columns, LoadBalancer.columns, List.forall_mem_cons] at h
  rcases h with ⟨huuid, hname, hvips, hprotocol, hids, -⟩
  simp only [LoadBalancer.ofRecord, huuid.uuid, hname.text, hvips.textMap, hprotocol.optionalText,
    hids.textMap]
  rfl

/-- A record that carries the columns of a row reads as the row. -/
theorem ofRecord_table {r : Row} (h : ∀ c ∈ r.listed, record.Carries c.1 c.2)
    (hreadable : r.Readable) : ofRecord r.table record = .ok r := by
  cases r with
  | switch r => rw [table, ofRecord, ofRecord_switch h]; rfl
  | switchPort r => rw [table, ofRecord, ofRecord_switchPort h hreadable]; rfl
  | router r => rw [table, ofRecord, ofRecord_router h]; rfl
  | routerPort r => rw [table, ofRecord, ofRecord_routerPort h hreadable]; rfl
  | staticRoute r => rw [table, ofRecord, ofRecord_staticRoute h hreadable]; rfl
  | acl r => rw [table, ofRecord, ofRecord_acl h]; rfl
  | addressSet r => rw [table, ofRecord, ofRecord_addressSet h]; rfl
  | portGroup r => rw [table, ofRecord, ofRecord_portGroup h]; rfl
  | dhcpOptions r => rw [table, ofRecord, ofRecord_dhcpOptions h]; rfl
  | nat r => rw [table, ofRecord, ofRecord_nat h hreadable]; rfl
  | loadBalancer r => rw [table, ofRecord, ofRecord_loadBalancer h]; rfl

/-! ## Lines of listings -/

/-- The line of a row has a cell for every heading, and what has no heading is empty. -/
structure OnLine (r : Row) (headings : List String) (cells : List Document) : Prop where
  cells : List.Forall₂ (fun heading d => ∃ v, (heading, v) ∈ r.listed ∧ v.WrittenAs d)
    headings cells
  leftOut : ∀ c ∈ r.listed, c.1 ∉ headings → c.2.isVoid = true

theorem holds_listed {r : Row} {c : String × Value} (hc : c ∈ r.listed) :
    ∃ kind : ColumnKind, kind.Holds (fun _ => True) c.2 := by
  rcases List.mem_cons.mp hc with rfl | hc
  · exact ⟨.one .uuid, .one (.uuid trivial)⟩
  · have href : ∀ u ∈ r.referenced, (fun _ => True : String → Prop) u := fun _ _ => trivial
    rcases exists_columnKind href hc with ⟨k, _, _, hk⟩
    exact ⟨k.2, hk⟩

theorem nodup_listed (r : Row) : (r.listed.map Prod.fst).Nodup := by
  have huuid : "_uuid" ∉ r.columns.map Prod.fst := by
    rw [map_fst_columns]
    cases r.table <;> decide
  exact List.nodup_cons.mpr ⟨huuid, nodup_columns r⟩

theorem eq_of_mem_listed {r : Row} {name : String} {v w : Value} (hv : (name, v) ∈ r.listed)
    (hw : (name, w) ∈ r.listed) : v = w := by
  have h := List.inj_on_of_nodup_map (nodup_listed r) hv hw rfl
  exact (Prod.mk.inj h).2

/-- The cells of a line are all read, each as its value or as the one element of it. -/
theorem ofItems_cells {r : Row} {headings : List String} {cells : List Document}
    (h : List.Forall₂ (fun heading d => ∃ v, (heading, v) ∈ r.listed ∧ v.WrittenAs d)
      headings cells) :
    ∃ ws, Value.ofItems cells = .ok ws ∧ List.Forall₂
      (fun heading w => ∃ v, (heading, v) ∈ r.listed ∧ (v = w ∨ v = .set [w])) headings ws := by
  induction h with
  | nil =>
      exact ⟨[], rfl, .nil⟩
  | @cons heading d headings cells hcell _ ih =>
      rcases hcell with ⟨v, hv, hwritten⟩
      rcases holds_listed hv with ⟨kind, hkind⟩
      rcases hwritten.ofDocument hkind with ⟨w, hw, hvw⟩
      rcases ih with ⟨ws, hws, hrest⟩
      exact ⟨w :: ws, by simp only [Value.ofItems, hw, hws], .cons ⟨v, hv, hvw⟩ hrest⟩

theorem OnLine.ofRow {r : Row} {headings : List String} {cells : List Document}
    (h : r.OnLine headings cells) (hnodup : headings.Nodup) :
    ∃ record, Record.ofRow headings (.list cells) = .ok record ∧
      ∀ c ∈ r.listed, record.Carries c.1 c.2 := by
  rcases ofItems_cells h.cells with ⟨ws, hread, hvalues⟩
  have hlength := h.cells.length_eq
  have hzip : (headings.zip ws).map Prod.fst = headings :=
    List.map_fst_zip (Nat.le_of_eq hvalues.length_eq)
  refine ⟨⟨TextMap.ofList (headings.zip ws)⟩, ?_, ?_⟩
  · rw [Record.ofRow, if_neg (not_not_intro hlength.symm), hread]
  · intro c hc
    by_cases hheading : c.1 ∈ headings
    · have hcell : ∃ w, (c.1, w) ∈ headings.zip ws := by
        rw [← hzip] at hheading
        rcases List.mem_map.mp hheading with ⟨⟨heading, w⟩, hw, hname⟩
        exact ⟨w, hname ▸ hw⟩
      rcases hcell with ⟨w, hw⟩
      rcases List.forall₂_zip hvalues hw with ⟨v, hv, hvw⟩
      have hget : (TextMap.ofList (headings.zip ws)).get? c.1 = some w :=
        TextMap.get?_ofList_of_mem (by rwa [hzip]) hw
      have hcv : c.2 = v := eq_of_mem_listed hc hv
      rcases hvw with hvw | hvw
      · rw [hcv, hvw]
        exact .whole hget
      · rw [hcv, hvw]
        exact .bare hget
    · have hget : (TextMap.ofList (headings.zip ws)).get? c.1 = none := by
        refine TextMap.get?_ofList_of_forall_ne fun e he hname => hheading ?_
        rw [← hname, ← hzip]
        exact List.mem_map_of_mem he
      exact .absent hget (h.leftOut c hc hheading)

theorem headings_text (headings : List String) :
    Record.headings (headings.map .text) = .ok headings := by
  induction headings with
  | nil =>
      rfl
  | cons heading headings ih =>
      simp only [List.map_cons, Record.headings, ih]

theorem ofRows_lines {t : Table} {rows : List Row} {headings : List String}
    {lines : List (List Document)} (htable : ∀ r ∈ rows, r.table = t)
    (hreadable : ∀ r ∈ rows, r.Readable) (hnodup : headings.Nodup)
    (h : List.Forall₂ (fun r cells => r.OnLine headings cells) rows lines) :
    ∃ records, Record.ofRows headings (lines.map .list) = .ok records ∧
      ofRecords t records = .ok rows := by
  induction h with
  | nil =>
      exact ⟨[], rfl, rfl⟩
  | @cons r cells rows lines hline _ ih =>
      rcases hline.ofRow hnodup with ⟨record, hrecord, hcarries⟩
      have hrow := ofRecord_table hcarries (hreadable r List.mem_cons_self)
      rw [htable r List.mem_cons_self] at hrow
      rcases ih (fun r hr => htable r (List.mem_cons_of_mem _ hr))
        (fun r hr => hreadable r (List.mem_cons_of_mem _ hr)) with ⟨records, hrecords, hrows⟩
      refine ⟨record :: records, ?_, ?_⟩
      · simp only [List.map_cons, Record.ofRows, hrecord, hrecords]
      · simp only [ofRecords, hrow, hrows]

/-! ## Whole listings -/

/-- The document lists the rows under the headings, one line for each row in their order. -/
structure Listing (rows : List Row) (headings : List String) (d : Document) : Prop where
  nodup : headings.Nodup
  names : d.entry? "headings" = some (.list (headings.map .text))
  lines : ∃ lines : List (List Document), d.entry? "data" = some (.list (lines.map .list)) ∧
    List.Forall₂ (fun r cells => r.OnLine headings cells) rows lines

/-- A listing of rows of one table is read as these rows in their order. -/
theorem readListing_listing {t : Table} {rows : List Row} {headings : List String} {d : Document}
    {text : String} (htable : ∀ r ∈ rows, r.table = t) (hreadable : ∀ r ∈ rows, r.Readable)
    (h : Listing rows headings d) (htext : Document.ofJson? text = some d) :
    Session.readListing t text = .ok rows := by
  have hblank : Text.isBlankText text = false := by
    cases hb : Text.isBlankText text with
    | false =>
        rfl
    | true =>
        rw [Document.ofJson?_of_isBlankText hb] at htext
        cases htext
  rcases h.lines with ⟨lines, hdata, hlines⟩
  rcases ofRows_lines htable hreadable h.nodup hlines with ⟨records, hrecords, hrows⟩
  have hread : Record.ofListing text = .ok records := by
    simp only [Record.ofListing, hblank, Bool.false_eq_true, if_false, htext, Record.ofDocument,
      h.names, hdata, Option.bind_some, Document.items?, headings_text, hrecords]
  simp only [Session.readListing, hread, hrows]

set_option maxRecDepth 2000 in
/-- A port of a router: columns out of order, a set of one without its mark, and three columns left
out. -/
theorem readListing_listing_port :
    let r : Row := .routerPort {
      uuid := "1", name := "\"", mac := ⟨"+a:00:27:00:00:0b", 0x0a002700000b⟩,
      networks := ["::1/64"] }
    let headings := ["name", "_uuid", "mac", "networks"]
    let d : Document := .record [
      ("data", .list [.list [.text "\"", .list [.text "uuid", .text "1"],
        .text "+a:00:27:00:00:0b", .text "::1/64"]]),
      ("headings", .list (headings.map .text))]
    let text := "\x7b\"data\":[[\"\\\"\",[\"uuid\",\"1\"],\"+a:00:27:00:00:0b\",\"::1/64\"]]," ++
      "\"headings\":[\"name\",\"_uuid\",\"mac\",\"networks\"]\x7d"
    (∀ r' ∈ [r], r'.table = .routerPort) ∧ (∀ r' ∈ [r], r'.Readable) ∧
      Listing [r] headings d ∧ Document.ofJson? text = some d ∧
      Session.readListing .routerPort text = .ok [r] := by
  intro r headings d text
  have htable : ∀ r' ∈ [r], r'.table = .routerPort := by
    simp [r, table]
  have hreadable : ∀ r' ∈ [r], r'.Readable := by
    simp only [List.forall_mem_cons]
    exact ⟨⟨"+A:00:27:00:00:0B", rfl⟩, List.forall_mem_nil _⟩
  have hlisting : Listing [r] headings d := by
    refine ⟨by decide, rfl, _, rfl, .cons ⟨?_, ?_⟩ .nil⟩
    · exact .cons ⟨.text _, by simp [r, listed, columns, RouterPort.columns], .whole _⟩ <|
        .cons ⟨.uuid _, by simp [r, listed, uuid], .whole _⟩ <|
        .cons ⟨.text _, by simp [r, listed, columns, RouterPort.columns], .whole _⟩ <|
        .cons ⟨.set [.text _], by simp [r, listed, columns, RouterPort.columns,
          Value.optionalText, Value.texts], .bare (.text _)⟩ .nil
    · simp [r, headings, listed, columns, RouterPort.columns, Value.optionalBoolean,
        Value.optionalText, Value.textMap, Value.isVoid]
  have htext : Document.ofJson? text = some d := by
    cbv
  exact ⟨htable, hreadable, hlisting, htext, readListing_listing htable hreadable hlisting htext⟩

end Row
end LogicalNet
