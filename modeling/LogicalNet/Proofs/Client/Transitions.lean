import LogicalNet.Proofs.Client.Footprints

/-!
# What becomes of rows

A row after a transaction of a request was there before it, or the request has made it
or written it anew; and a row that is listed by its owner was listed by it before, or
the request has made it and put it on the owner.  What holds of rows that are made,
and is left alone by the changes that rows go through, so holds after every history.
-/

namespace LogicalNet

/-- Neither the rows of the table nor their owners belong to groups or are written anew. -/
theorem Table.plain_of_owner? {t table : Table} {c : RefColumn} (h : t.owner? = some (table, c))
    (hacl : t ≠ .acl) : t.isOfGroups = false ∧ t.isRewritten = false ∧
      table.isOfGroups = false ∧ table.isRewritten = false := by
  cases t <;> cases h <;> first | exact ⟨rfl, rfl, rfl, rfl⟩ | exact absurd rfl hacl

namespace Client

open Tables

variable {calls : List Call} {ts us : Tables} {drawn : List String} {r : Request}
  {ops : List Operation}

/-! ## Transactions of requests -/

theorem isOfGroups_of_regroup {gone : List Operation} {set : AddressSet} {acls : List Acl}
    {group : PortGroup} (hgone : ∀ op ∈ gone, Withdraws ts gone op) {row : Row}
    (hrow : .insert row ∈ gone ++ (groupRows set acls group).map .insert) :
    row.table.isOfGroups = true := by
  rcases List.mem_append.mp hrow with hrow | hrow
  · cases hgone _ hrow
  · rcases List.mem_map.mp hrow with ⟨r, hr, heq⟩
    cases heq
    simp only [groupRows, List.mem_append, List.mem_cons, List.mem_map, List.not_mem_nil,
      or_false] at hr
    rcases hr with (rfl | ⟨a, _, rfl⟩) | rfl <;> rfl

/-- What is inserted does not take the place of what is deleted, but for rows of security groups. -/
theorem Issued.delete_not_mem_of_insert (h : Issued calls ts drawn ops) {row : Row}
    (hrow : .insert row ∈ ops) (htable : row.table.isOfGroups = false) (lookup : Lookup) :
    .delete row.table lookup ∉ ops := by
  cases h with
  | reads =>
      cases hrow
  | relabel h =>
      cases h _ hrow
  | remove hremoves _ =>
      cases hremoves _ hrow
  | regroup hgone _ _ _ _ _ _ _ =>
      have hof := isOfGroups_of_regroup hgone hrow
      rw [htable] at hof
      cases hof
  | _ =>
      simp [attachment]

theorem Issued.bare_of_insert (h : Issued calls ts drawn ops) {row : Row}
    (hrow : .insert row ∈ ops) (htable : row.table.isOfGroups = false) (c : RefColumn) :
    row.refs c = [] := by
  cases h with
  | insert _ hbare _ =>
      cases List.mem_singleton.mp hrow
      exact hbare c
  | attach h _ =>
      simp only [attachment, List.mem_cons, Operation.insert.injEq, reduceCtorEq,
        List.not_mem_nil, or_false] at hrow
      rw [hrow]
      exact h.bare c
  | attachBoth h h' _ _ =>
      simp only [attachment, List.cons_append, List.nil_append, List.mem_cons,
        Operation.insert.injEq, reduceCtorEq, List.not_mem_nil, or_false, false_or] at hrow
      rcases hrow with rfl | rfl
      · exact h.bare c
      · exact h'.bare c
  | reads =>
      cases hrow
  | update _ _ _ =>
      cases List.mem_singleton.mp hrow
  | link _ _ =>
      cases List.mem_singleton.mp hrow
  | relabel h =>
      cases h _ hrow
  | remove hremoves _ =>
      cases hremoves _ hrow
  | regroup hgone _ _ _ _ _ _ _ =>
      have hof := isOfGroups_of_regroup hgone hrow
      rw [htable] at hof
      cases hof

/-- A transaction of the request leads from tables where every row is owned to the others. -/
structure Change (calls : List Call) (r : Request) (ts us : Tables) (ops : List Operation) :
    Prop where
  sound : Sound (listing calls) nothing ts
  issued : ∃ drawn, Issued calls ts drawn ops
  footprints : Footprints ts r ops
  applied : ts.applyAll ops = .ok us

theorem Request.Writes.exists_change (hts : Sound (listing calls) nothing ts)
    (hcall : .request r ∈ calls) (h : r.Writes ts us) : ∃ ops, Change calls r ts us ops := by
  cases h with
  | call hends hops =>
      exact ⟨_, hts, ⟨_, issued_plan hts hcall hends⟩, footprints_plan hts.wellFormed hends, hops⟩
  | dhcp hr hends hops =>
      subst hr
      exact ⟨_, hts, ⟨_, issued_createNetworkDhcp hends⟩, footprints_createNetworkDhcp hends, hops⟩

theorem Rewritten.isRewritten {row : Row} (h : Rewritten ts r row) :
    row.table.isRewritten = true := by
  cases h <;> rfl

/-! ### Properties that last -/

/-- The changes that calls make to rows leave the property as it is. -/
structure Lasting (K : Row → Prop) : Prop where
  references : ∀ {row : Row} (f : List String → List String) (c : RefColumn), K row →
    K (row.mapReferences f c)
  machine : ∀ {row : Row} (vm : String), K row →
    K (row.mapKeys (·.insertAll (TextMap.ofList [(ExternalId.vm, vm)]).entries) .externalIds)
  host : ∀ {row : Row} (host : String), K row →
    K (row.mapKeys (·.insertAll (TextMap.ofList [("requested-chassis", host)]).entries) .options)

theorem Lasting.and {K L : Row → Prop} (hK : Lasting K) (hL : Lasting L) :
    Lasting fun row => K row ∧ L row :=
  ⟨fun f c h => ⟨hK.references f c h.1, hL.references f c h.2⟩,
    fun vm h => ⟨hK.machine vm h.1, hL.machine vm h.2⟩,
    fun host h => ⟨hK.host host h.1, hL.host host h.2⟩⟩

namespace Change

variable {t table : Table} {c : RefColumn} {k u : String} {row s : Row}

theorem lasting (h : Change calls r ts us ops) {K : Row → Prop} (hK : Lasting K)
    (hrevised : Revised ops row s) (hrow : K row) : K s := by
  induction hrevised with
  | refl =>
      exact hrow
  | drop _ p c ih =>
      exact hK.references (List.filter p) c ih
  | add _ _ _ ih =>
      exact hK.references _ _ ih
  | @keys s l c entries _ hop _ ih =>
      generalize hsame : Operation.setKeys s.table l c entries = op at hop
      cases h.footprints op hop with
      | machine =>
          rcases Operation.setKeys.inj hsame with ⟨_, _, rfl, rfl⟩
          exact hK.machine _ ih
      | host =>
          rcases Operation.setKeys.inj hsame with ⟨_, _, rfl, rfl⟩
          exact hK.host _ ih
      | _ =>
          cases hsame

/-! ## Rows after a transaction -/

/-- Every row was there before, or has been made or written anew. -/
theorem exists_row (h : Change calls r ts us ops) (hs : (us t).get? k = some s) :
    ∃ row, ((ts t).get? k = some row ∨ (∃ owner, Made ts r row owner) ∨ Rewritten ts r row) ∧
      row.table = t ∧ row.uuid = k ∧ Revised ops row s := by
  have hts := h.sound.wellFormed
  rcases exists_revised_of_applyAll hts h.applied hs with
    ⟨row, hold | ⟨hinserted | hupdated, htable, huuid⟩, hrevised⟩
  · exact ⟨row, .inl hold, hts.table_eq hold, hts.uuid_eq hold, hrevised⟩
  · cases h.footprints _ hinserted with
    | insert hmade =>
        exact ⟨row, .inr (.inl ⟨_, hmade⟩), htable, huuid, hrevised⟩
  · cases h.footprints _ hupdated with
    | update hrewritten =>
        exact ⟨row, .inr (.inr hrewritten), htable, huuid, hrevised⟩

theorem leaves_of_insert (h : Change calls r ts us ops) {row : Row} (hrow : .insert row ∈ ops)
    (htable : row.table.isOfGroups = false) : Leaves ops row.table row.uuid := by
  rcases h.issued with ⟨drawn, hissued⟩
  intro lookup hlookup
  exact absurd hlookup (hissued.delete_not_mem_of_insert hrow htable lookup)

/-- A row that stays is the old one with changes, or has been written anew. -/
theorem revised_or_rewritten (h : Change calls r ts us ops) (ht : t.isOfGroups = false)
    (hrow : (ts t).get? k = some row) (hs : (us t).get? k = some s) :
    Revised ops row s ∨ ∃ new, Rewritten ts r new ∧ new.table = t ∧ new.uuid = k ∧
      Revised ops new s := by
  have hts := h.sound.wellFormed
  rcases exists_revised_of_applyAll hts h.applied hs with
    ⟨old, hold | ⟨hinserted | hupdated, htable, huuid⟩, hrevised⟩
  · rw [hrow] at hold
    cases hold
    exact .inl hrevised
  · rw [← htable] at ht hrow
    rw [← huuid, get?_eq_none_of_insert hts h.applied hinserted (h.leaves_of_insert hinserted ht)]
      at hrow
    cases hrow
  · cases h.footprints _ hupdated with
    | update hrewritten =>
        exact .inr ⟨old, hrewritten, htable, huuid, hrevised⟩

/-- A row of a table that no call writes anew is the old one with changes. -/
theorem revised (h : Change calls r ts us ops) (ht : t.isOfGroups = false)
    (ht' : t.isRewritten = false) (hrow : (ts t).get? k = some row)
    (hs : (us t).get? k = some s) : Revised ops row s := by
  rcases h.revised_or_rewritten ht hrow hs with hrevised | ⟨new, hrewritten, htable, _⟩
  · exact hrevised
  · rw [← htable, hrewritten.isRewritten] at ht'
    cases ht'

/-- A row that the request makes is there afterwards. -/
theorem exists_of_insert (h : Change calls r ts us ops) (hrow : .insert row ∈ ops)
    (htable : row.table.isOfGroups = false) : ∃ s, (us row.table).get? row.uuid = some s :=
  Tables.exists_of_insert h.sound.wellFormed h.applied hrow (h.leaves_of_insert hrow htable)

theorem revised_of_insert (h : Change calls r ts us ops) (hrow : .insert row ∈ ops)
    (htable : row.table.isOfGroups = false) (htable' : row.table.isRewritten = false)
    (hs : (us row.table).get? row.uuid = some s) : Revised ops row s := by
  refine Tables.revised_of_insert h.sound.wellFormed h.applied hrow
    (h.leaves_of_insert hrow htable) (fun new hnew hsame => ?_) hs
  cases h.footprints _ hnew with
  | update hrewritten =>
      rw [← hsame, hrewritten.isRewritten] at htable'
      cases htable'

/-- A row that networks are made of stays unless the request deletes it. -/
theorem exists_of_not_deletes (h : Change calls r ts us ops) (ht : t.isOfNetworks = true)
    (hrow : (ts t).get? k = some row) (hnot : ¬ r.Deletes ts t k) :
    ∃ s, (us t).get? k = some s := by
  refine exists_of_applyAll h.sound.wellFormed h.applied hrow fun lookup hlookup => ?_
  cases h.footprints _ hlookup with
  | @delete _ u hdeletes =>
      refine ⟨u, rfl, fun hsame => hnot ?_⟩
      rw [← hsame]
      exact hdeletes ht
  | deleteSet =>
      cases ht

/-! ## Listed rows after a transaction -/

/-- Rows are made without anything listed, but for port groups. -/
theorem bare_of_puts (h : Change calls r ts us ops) (hputs : Puts ops row)
    (htable : row.table.isOfGroups = false) (c : RefColumn) : row.refs c = [] := by
  rcases hputs with hinserted | hupdated
  · rcases h.issued with ⟨drawn, hissued⟩
    exact hissued.bare_of_insert hinserted htable c
  · cases h.footprints _ hupdated with
    | update hrewritten =>
        cases hrewritten <;> cases c <;> rfl

/-- A row that is put on its owner has been made with it. -/
theorem of_addRefs (h : Change calls r ts us ops) (howner : t.owner? = some (table, c))
    {lookup : Lookup} {uuids : List String} (hop : .addRefs table lookup c uuids ∈ ops) :
    ∃ new o, .insert new ∈ ops ∧ new.table = t ∧ uuids = [new.uuid] ∧ lookup = .uuid o.uuid ∧
      (ts table).get? o.uuid = some o ∧ Made ts r new (some o) := by
  generalize hsame : Operation.addRefs table lookup c uuids = op at hop
  cases h.footprints op hop with
  | @attach new o _ _ hmade hnew howner' ho =>
      rcases Operation.addRefs.inj hsame with ⟨rfl, rfl, rfl, rfl⟩
      have htarget := Table.target?_of_owner? howner
      rw [Table.target?_of_owner? howner'] at htarget
      exact ⟨new, o, hnew, Option.some.inj htarget, rfl, rfl, ho, hmade⟩
  | link hlink =>
      rcases Operation.addRefs.inj hsame with ⟨rfl, rfl, rfl, rfl⟩
      exact absurd howner (hlink t)
  | _ =>
      cases hsame

/-- What an owner lists it has listed before, or the request has made it and put it on the owner. -/
theorem listed (h : Change calls r ts us ops) (howner : t.owner? = some (table, c))
    (hacl : t ≠ .acl) {o' : Row} (ho' : (us table).get? k = some o') (hu : u ∈ o'.refs c)
    (hs : (us t).get? u = some s) :
    ∃ o row, (ts table).get? k = some o ∧ Revised ops o o' ∧ Revised ops row s ∧
      (((ts t).get? u = some row ∧ u ∈ o.refs c) ∨ Made ts r row (some o)) := by
  have hts := h.sound.wellFormed
  have hplain := Table.plain_of_owner? howner hacl
  rcases exists_revised_of_applyAll hts h.applied ho' with ⟨o, horigin, hrevised⟩
  rcases hrevised.mem_refs hu with hold | ⟨lookup, uuids, hop, haddresses, hnew⟩
  · rcases horigin with ho | ⟨hputs, htable, _⟩
    · rcases h.sound.bond ho (Table.target?_of_owner? howner) u hold with ⟨row, hrow, _⟩
      exact ⟨o, row, ho, hrevised, h.revised hplain.1 hplain.2.1 hrow hs, .inl ⟨hrow, hold⟩⟩
    · rw [h.bare_of_puts hputs (htable ▸ hplain.2.2.1)] at hold
      cases hold
  · rw [(hts.applyAll h.applied).table_eq ho'] at hop
    rcases h.of_addRefs howner hop with ⟨row, o₁, hrow, rfl, rfl, rfl, ho₁, hmade⟩
    have hkey : o'.uuid = o₁.uuid := by
      simpa [Lookup.addresses] using haddresses
    rw [← hkey, (hts.applyAll h.applied).uuid_eq ho'] at ho₁
    rw [List.mem_singleton.mp hnew] at hs
    exact ⟨o₁, row, ho₁, h.revised hplain.2.2.1 hplain.2.2.2 ho₁ ho',
      h.revised_of_insert hrow hplain.1 hplain.2.1 hs, .inr hmade⟩

end Change

/-- The relation holds between every row of the first table and all that it lists in the column. -/
def AllListed (ts : Tables) (table t : Table) (c : RefColumn) (J : Row → Row → Prop) : Prop :=
  ∀ k u o row, (ts table).get? k = some o → u ∈ o.refs c → (ts t).get? u = some row → J o row

theorem AllListed.empty (table t : Table) (c : RefColumn) (J : Row → Row → Prop) :
    AllListed Tables.empty table t c J := by
  intro k u o row ho
  rw [rows_empty] at ho
  cases ho

/-- What holds between a row and its owner when it is put there, and lasts, holds afterwards. -/
theorem Request.Writes.listed_lasts {J : Row → Row → Prop}
    (howners : ∀ row, Lasting fun o => J o row) (hrows : ∀ o, Lasting (J o))
    (hts : Sound (listing calls) nothing ts) (hcall : .request r ∈ calls)
    (hmade : ∀ {o row : Row}, Made ts r row (some o) → J o row) {t table : Table} {c : RefColumn}
    (howner : t.owner? = some (table, c)) (hacl : t ≠ .acl) (h : r.Writes ts us)
    (hlisted : AllListed ts table t c J) : AllListed us table t c J := by
  intro k u o' s ho' hu hs
  rcases h.exists_change hts hcall with ⟨ops, hchange⟩
  rcases hchange.listed howner hacl ho' hu hs with ⟨o, row, ho, hrevised, hrevised', horigin⟩
  have hJ : J o row := by
    rcases horigin with ⟨hrow, hold⟩ | hnew
    · exact hlisted k u o row ho hold hrow
    · exact hmade hnew
  have hJ' : J o s := hchange.lasting (hrows o) hrevised' hJ
  exact hchange.lasting (K := fun o => J o s) (howners s) hrevised hJ'

/-! ## Every history -/

section Histories

variable {ι : Type} [IdSource ι]

/-- What holds of rows when they are made or written anew, and lasts, holds of all rows. -/
theorem rows_history {K : Row → Prop} (hK : Lasting K) (calls : List Call) (ids : ι)
    (hmade : ∀ {ts : Tables} {r : Request} {row : Row}, .request r ∈ calls →
      (∃ owner, Made ts r row owner) → K row)
    (hrewritten : ∀ {ts : Tables} {r : Request} {row : Row}, .request r ∈ calls →
      (∀ t k s, (ts t).get? k = some s → K s) → Rewritten ts r row → K row) :
    ∀ t k s, ((history calls ids).1.tables t).get? k = some s → K s := by
  apply history_induction (motive := fun ts => ∀ t k s, (ts t).get? k = some s → K s) calls ids
  · intro t k s hs
    rw [rows_empty] at hs
    cases hs
  · intro r ts us hts hcall hrows hwrites t k s hs
    rcases hwrites.exists_change hts hcall with ⟨ops, hchange⟩
    rcases hchange.exists_row hs with ⟨row, hold | hnew | hnew, _, _, hrevised⟩
    · exact hchange.lasting hK hrevised (hrows t k row hold)
    · exact hchange.lasting hK hrevised (hmade hcall hnew)
    · exact hchange.lasting hK hrevised (hrewritten hcall hrows hnew)

/-- What holds between a row and its owner when it is put there, and lasts, holds between all of
them. -/
theorem listed_history {J : Row → Row → Prop} (howners : ∀ row, Lasting fun o => J o row)
    (hrows : ∀ o, Lasting (J o)) (calls : List Call) (ids : ι)
    (hmade : ∀ {ts : Tables} {r : Request} {o row : Row}, .request r ∈ calls →
      Made ts r row (some o) → J o row)
    {t table : Table} {c : RefColumn} (howner : t.owner? = some (table, c)) (hacl : t ≠ .acl) :
    AllListed (history calls ids).1.tables table t c J := by
  apply history_induction (motive := fun ts => AllListed ts table t c J) calls ids
  · exact .empty table t c J
  · intro r ts us hts hcall hlisted hwrites
    exact hwrites.listed_lasts howners hrows hts hcall (hmade hcall) howner hacl hlisted

end Histories
end Client
end LogicalNet
