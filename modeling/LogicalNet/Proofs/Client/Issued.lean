import LogicalNet.Proofs.Client.Listing
import LogicalNet.Proofs.Store.Addition
import LogicalNet.Proofs.Store.Collection

/-!
# What calls write

`Issued` lists the forms of the transactions of all calls, with what the call knows
of the tables that it has read.  Every form keeps each row with its one owner, and
on every form the store in memory and a database that collects garbage agree.
-/

namespace LogicalNet
namespace Client

open Tables

variable {calls : List Call} {ts us : Tables} {drawn : List String}

/-! ## The forms -/

/-- The new row lists nothing and fits its owner. -/
structure Attaches (calls : List Call) (ts : Tables) (row : Row) (owner : Table) (key : String)
    (c : RefColumn) : Prop where
  bare : ∀ c, row.refs c = []
  owned : row.table.owner? = some (owner, c)
  fits : ∃ o, (ts owner).get? key = some o ∧ Lists calls owner c o row

/-- The operation sets keys of a map, but not the router that the row names. -/
inductive Relabels : Operation → Prop where
  | setKeys {table : Table} {lookup : Lookup} {column : MapColumn} {entries : TextMap String}
      (h : entries.get? ExternalId.router = none) :
      Relabels (.setKeys table lookup column entries)

/-- What is made for a group: the address set, the lists, and the port group that lists them. -/
def groupRows (set : AddressSet) (acls : List Acl) (group : PortGroup) : List Row :=
  .addressSet set :: acls.map .acl ++ [.portGroup group]

inductive Issued (calls : List Call) (ts : Tables) (drawn : List String) :
    List Operation → Prop where
  | reads : Issued calls ts drawn []
  | insert {row : Row} (hroot : row.table.isRoot = true) (hbare : ∀ c, row.refs c = [])
      (hdrawn : row.uuid ∈ drawn) : Issued calls ts drawn [.insert row]
  | update {row : Row} (hroot : row.table.isRoot = true)
      (hcolumns : ∀ c : RefColumn, c.target? row.table = none)
      (hfree : ∀ c o, RefColumn.target? c o = some row.table → c = .loadBalancers) :
      Issued calls ts drawn [.update row]
  | attach {row : Row} {owner : Table} {key : String} {c : RefColumn}
      (h : Attaches calls ts row owner key c) (hdrawn : row.uuid ∈ drawn) :
      Issued calls ts drawn (attachment row owner key c)
  | attachBoth {row row' : Row} {owner owner' : Table} {key key' : String} {c c' : RefColumn}
      (h : Attaches calls ts row owner key c) (h' : Attaches calls ts row' owner' key' c')
      (hdrawn : row.uuid ∈ drawn) (hdrawn' : row'.uuid ∈ drawn) :
      Issued calls ts drawn (attachment row owner key c ++ attachment row' owner' key' c')
  | relabel {ops : List Operation} (h : ∀ op ∈ ops, Relabels op) : Issued calls ts drawn ops
  | link {table : Table} {key : String} {c : RefColumn} {u : String}
      (howner : ∀ t : Table, t.owner? ≠ some (table, c))
      (hfits : ∀ o t r, (ts table).get? key = some o → c.target? table = some t →
        (ts t).get? u = some r → Lists calls table c o r) :
      Issued calls ts drawn [.addRefs table (.uuid key) c [u]]
  | remove {ops : List Operation} (hops : ∀ op ∈ ops, Withdraws ts ops op)
      (hdetached : NamesApart calls → Detached ts ops) : Issued calls ts drawn ops
  | regroup {gone : List Operation} {set : AddressSet} {acls : List Acl} {group : PortGroup}
      (hgone : ∀ op ∈ gone, Withdraws ts gone op) (hdetached : Detached ts gone)
      (hkeeps : ∀ op ∈ gone, Keeps .switchPort op)
      (hold : ∀ t u, .delete t (.uuid u) ∈ gone → t.isRoot = false →
        t = .acl ∧ ∃ r, (ts t).get? u = some r)
      (hacls : group.acls = acls.map Acl.uuid) (hnodup : group.ports.Nodup)
      (hports : ∀ u ∈ group.ports, ∃ r, (ts .switchPort).get? u = some r ∧
        Lists calls .portGroup .ports (.portGroup group) r)
      (hdrawn : ∀ row ∈ groupRows set acls group, row.uuid ∈ drawn) :
      Issued calls ts drawn (gone ++ (groupRows set acls group).map .insert)

/-! ## Keeping every row owned -/

theorem sound_of_relabels (h : Sound (listing calls) nothing ts) {ops : List Operation}
    (hops : ∀ op ∈ ops, Relabels op) (hall : ts.applyAll ops = .ok us) :
    Sound (listing calls) nothing us := by
  induction ops generalizing ts with
  | nil =>
      cases hall
      exact h
  | cons op rest ih =>
      rcases applyAll_cons_eq_ok_iff.mp hall with ⟨vs, hop, hrest⟩
      refine ih ?_ (fun op' hop' => hops op' (by simp [hop'])) hrest
      cases hops op (by simp) with
      | setKeys hentries =>
          cases effect_of_apply h.wellFormed hop with
          | setKeys _ hrow _ =>
              refine h.shrinks (.setRow hrow (.mapKeys hentries _ _) ?_ ?_)
              · intro c
                simp only [Row.refs_mapKeys, List.Sublist.refl]
              · intro t c _ u hu _
                rw [Row.refs_mapKeys]
                exact hu

theorem sound_of_attaches (h : Sound (listing calls) nothing ts) {row : Row} {owner : Table}
    {key : String} {c : RefColumn} (hattaches : Attaches calls ts row owner key c)
    (hops : ts.applyAll (attachment row owner key c) = .ok us) :
    Sound (listing calls) nothing us := by
  rcases hattaches.fits with ⟨o, ho, hlists⟩
  refine h.attach hattaches.bare hattaches.owned ho ?_ hops
  show Lists calls o.table c o row
  rw [h.wellFormed.table_eq ho]
  exact hlists

theorem Attaches.after (h : Sound (listing calls) nothing ts) {row row' : Row}
    {owner owner' : Table} {key key' : String} {c c' : RefColumn}
    (hattaches : Attaches calls ts row' owner' key' c')
    (hops : ts.applyAll (attachment row owner key c) = .ok us) :
    Attaches calls us row' owner' key' c' := by
  rcases hattaches.fits with ⟨o, ho, hlists⟩
  have hkeeps : ∀ op ∈ attachment row owner key c, Keeps owner' op := by
    intro op hop
    simp only [attachment, List.mem_cons, List.not_mem_nil, or_false] at hop
    rcases hop with rfl | rfl
    · trivial
    · trivial
  rcases alike_of_applyAll h.wellFormed hops hkeeps ho with ⟨o', ho', halike⟩
  exact ⟨hattaches.bare, hattaches.owned, o', ho', hlists.alike halike (.refl row')⟩

theorem sound_of_link (h : Sound (listing calls) nothing ts) {table : Table} {key : String}
    {c : RefColumn} {u : String} (howner : ∀ t : Table, t.owner? ≠ some (table, c))
    (hfits : ∀ o t r, (ts table).get? key = some o → c.target? table = some t →
      (ts t).get? u = some r → Lists calls table c o r)
    (hop : ts.apply (.addRefs table (.uuid key) c [u]) = .ok us) :
    Sound (listing calls) nothing us := by
  cases effect_of_apply h.wellFormed hop with
  | @addRefs _ target _ _ _ key' o htarget huuids hkey ho _ =>
      cases eq_of_findKey?_uuid hkey
      rcases TextMap.contains_iff.mp (huuids u (by simp)) with ⟨r, hr⟩
      refine h.addRef ho htarget hr ?_ ?_ ?_
      · show Lists calls o.table c o r
        rw [h.wellFormed.table_eq ho]
        exact hfits o target r ho htarget hr
      · intro howner'
        exact absurd howner' (howner target)
      · intro t u hnothing
        exact hnothing.elim

theorem bare_of_mem_groupRows {set : AddressSet} {acls : List Acl} {row : Row}
    (h : row ∈ .addressSet set :: acls.map .acl) (c : RefColumn) : row.refs c = [] := by
  rcases List.mem_cons.mp h with rfl | h
  · cases c <;> rfl
  · rcases List.mem_map.mp h with ⟨a, _, rfl⟩
    cases c <;> rfl

/-- The lists of a group have no owner until the port group is made as the last of its rows. -/
theorem sound_of_groupRows (h : Sound (listing calls) nothing ts) {set : AddressSet}
    {acls : List Acl} {group : PortGroup} (hacls : group.acls = acls.map Acl.uuid)
    (hnodup : group.ports.Nodup)
    (hports : ∀ u ∈ group.ports, ∃ r, (ts .switchPort).get? u = some r ∧
      Lists calls .portGroup .ports (.portGroup group) r)
    (hops : ts.applyAll ((groupRows set acls group).map .insert) = .ok us) :
    Sound (listing calls) nothing us := by
  rw [groupRows, List.map_append] at hops
  rcases applyAll_append_eq_ok_iff.mp hops with ⟨vs, hbare, hlast⟩
  rcases applyAll_cons_eq_ok_iff.mp hlast with ⟨ws, hgroup, hdone⟩
  cases hdone
  have hvs := h.insertAll (fun row hrow => bare_of_mem_groupRows hrow) hbare
  have hinserted := inserted_of_applyAll h.wellFormed hbare
  have hmem : ∀ a ∈ acls, Row.acl a ∈ .addressSet set :: acls.map Row.acl := by
    intro a ha
    exact List.mem_cons_of_mem _ (List.mem_map_of_mem ha)
  cases effect_of_apply hvs.wellFormed hgroup with
  | insert _ hnew hname =>
      refine hvs.putNew hnew hname ?_ ?_ ?_ ?_ (.inl rfl)
      · intro c t ht u hu
        cases c with
        | ports =>
            cases ht
            rcases hports u hu with ⟨r, hr, hlists⟩
            exact ⟨r, hinserted.kept hr, hlists⟩
        | acls =>
            cases ht
            change u ∈ group.acls at hu
            rw [hacls] at hu
            rcases List.mem_map.mp hu with ⟨a, ha, rfl⟩
            exact ⟨.acl a, hinserted.made _ (hmem a ha), trivial⟩
        | _ =>
            cases ht
      · intro c
        cases c with
        | ports =>
            exact hnodup
        | acls =>
            show group.acls.Nodup
            rw [hacls]
            have hdistinct := (List.pairwise_cons.mp hinserted.distinct).2
            refine List.pairwise_map.mpr ((List.pairwise_map.mp hdistinct).imp ?_)
            intro a b hab hsame
            exact hab ⟨rfl, hsame⟩
        | _ =>
            exact .nil
      · intro t c howner u hu k old hold hmem'
        cases t <;> cases howner
        change u ∈ group.acls at hu
        rw [hacls] at hu
        rcases List.mem_map.mp hu with ⟨a, ha, rfl⟩
        rcases hinserted.old hold with hold | ⟨hrow, htable⟩
        · exact h.not_mem_of_get?_eq_none hold rfl (hinserted.fresh _ (hmem a ha)) hmem'
        · rw [bare_of_mem_groupRows hrow] at hmem'
          cases hmem'
      · intro t u hcases
        rcases hcases with hnothing | ⟨row, hrow, hroot, rfl, rfl⟩
        · exact hnothing.elim
        · rcases List.mem_cons.mp hrow with rfl | hrow
          · cases hroot
          · rcases List.mem_map.mp hrow with ⟨a, ha, rfl⟩
            refine .inr ⟨.acls, rfl, ?_⟩
            show a.uuid ∈ group.acls
            rw [hacls]
            exact List.mem_map_of_mem ha

theorem Issued.sound {ops : List Operation} (h : Issued calls ts drawn ops)
    (hts : Sound (listing calls) nothing ts) (hops : ts.applyAll ops = .ok us) :
    Sound (listing calls) nothing us := by
  cases h with
  | reads =>
      cases hops
      exact hts
  | @insert row hroot hbare _ =>
      rcases applyAll_cons_eq_ok_iff.mp hops with ⟨vs, hop, hdone⟩
      cases hdone
      cases effect_of_apply hts.wellFormed hop with
      | insert _ hnew hname =>
          exact hts.putBare hnew hname hbare (fun t u hnothing => hnothing) (.inl hroot)
  | @update row hroot hcolumns hfree =>
      rcases applyAll_cons_eq_ok_iff.mp hops with ⟨vs, hop, hdone⟩
      cases hdone
      cases effect_of_apply hts.wellFormed hop with
      | update _ _ hname =>
          refine hts.putOld hname hroot hcolumns fun o c htarget => ?_
          have hc := hfree c o.table htarget
          subst hc
          show Lists calls o.table .loadBalancers o row
          cases o <;> trivial
  | attach h _ =>
      exact sound_of_attaches hts h hops
  | attachBoth h h' _ _ =>
      rcases applyAll_append_eq_ok_iff.mp hops with ⟨vs, hfirst, hsecond⟩
      exact sound_of_attaches (sound_of_attaches hts h hfirst) (h'.after hts hfirst) hsecond
  | relabel h =>
      exact sound_of_relabels hts h hops
  | link howner hfits =>
      rcases applyAll_cons_eq_ok_iff.mp hops with ⟨vs, hop, hdone⟩
      cases hdone
      exact sound_of_link hts howner hfits hop
  | remove hremoves _ =>
      exact hts.takeAway (fun op hop => (hremoves op hop).takesAway) hops
  | regroup hgone _ hkeeps _ hacls hnodup hports _ =>
      rcases applyAll_append_eq_ok_iff.mp hops with ⟨vs, hfirst, hmade⟩
      have hvs := hts.takeAway (fun op hop => (hgone op hop).takesAway) hfirst
      refine sound_of_groupRows hvs hacls hnodup (fun u hu => ?_) hmade
      rcases hports u hu with ⟨r, hr, hlists⟩
      rcases alike_of_applyAll hts.wellFormed hfirst hkeeps hr with ⟨r', hr', halike⟩
      exact ⟨r', hr', hlists.alike (.refl _) halike⟩

/-! ## Agreement with a database that collects garbage -/

/-- What a call makes has an identifier that it has drawn. -/
theorem Issued.uuid_mem {ops : List Operation} (h : Issued calls ts drawn ops) {row : Row}
    (hrow : .insert row ∈ ops) : row.uuid ∈ drawn := by
  cases h with
  | reads =>
      cases hrow
  | insert _ _ hdrawn =>
      cases List.mem_singleton.mp hrow
      exact hdrawn
  | update _ _ _ =>
      cases List.mem_singleton.mp hrow
  | attach _ hdrawn =>
      rcases List.mem_cons.mp hrow with hrow | hrow
      · cases hrow
        exact hdrawn
      · cases List.mem_singleton.mp hrow
  | attachBoth _ _ hdrawn hdrawn' =>
      simp only [attachment, List.cons_append, List.nil_append, List.mem_cons,
        Operation.insert.injEq, reduceCtorEq, List.not_mem_nil, or_false, false_or] at hrow
      rcases hrow with rfl | rfl
      · exact hdrawn
      · exact hdrawn'
  | relabel h =>
      cases h _ hrow
  | link _ _ =>
      cases List.mem_singleton.mp hrow
  | remove hremoves _ =>
      cases hremoves _ hrow
  | regroup hgone _ _ _ _ _ _ hdrawn =>
      rcases List.mem_append.mp hrow with hrow | hrow
      · cases hgone _ hrow
      · rcases List.mem_map.mp hrow with ⟨r, hr, hsame⟩
        cases hsame
        exact hdrawn _ hr

/-- A transaction without deletions leaves nothing to collect. -/
theorem agrees_of_no_deletes (hts : ts.WellFormed) {ops : List Operation}
    (h : ∀ t lookup, .delete t lookup ∉ ops)
    (howned : ∀ us, ts.applyAll ops = .ok us → us.Owned) : Agrees ts ops := by
  refine agrees_of_separate hts ?_ ?_ howned
  · intro t lookup hop
    exact absurd hop (h t lookup)
  · intro t u hop
    exact absurd hop (h t (.uuid u))

theorem agrees_of_regroup (hts : ts.WellFormed) {gone : List Operation} {set : AddressSet}
    {acls : List Acl} {group : PortGroup} (hgone : ∀ op ∈ gone, Withdraws ts gone op)
    (hdetached : Detached ts gone)
    (hold : ∀ t u, .delete t (.uuid u) ∈ gone → t.isRoot = false →
      t = .acl ∧ ∃ r, (ts t).get? u = some r)
    (hacls : group.acls = acls.map Acl.uuid)
    (hfresh : ∀ row ∈ groupRows set acls group, ∀ t, (ts t).get? row.uuid = none)
    (howned : ∀ us, ts.applyAll (gone ++ (groupRows set acls group).map .insert) = .ok us →
      us.Owned) : Agrees ts (gone ++ (groupRows set acls group).map .insert) := by
  have hdelete : ∀ {t lookup}, .delete t lookup ∈ gone ++ (groupRows set acls group).map .insert →
      .delete t lookup ∈ gone := by
    intro t lookup hop
    rcases List.mem_append.mp hop with hop | hop
    · exact hop
    · rcases List.mem_map.mp hop with ⟨row, _, heq⟩
      cases heq
  refine agrees_of_separate hts ?_ ?_ howned
  · intro t lookup hop ht
    rcases (hgone _ (hdelete hop)).lookup_eq ht with ⟨u, rfl⟩
    rcases hold t u (hdelete hop) ht with ⟨rfl, r, hr⟩
    refine ⟨u, rfl, fun op hop' htold => ?_⟩
    rcases List.mem_append.mp hop' with hop' | hop'
    · exact (hgone op hop').neutral htold u
    · rcases List.mem_map.mp hop' with ⟨row, hrow, rfl⟩
      -- An identifier that was drawn is not that of a list which was there before.
      have hne : ∀ row' ∈ groupRows set acls group, row'.uuid ≠ u := by
        intro row' hrow' hsame
        rcases hsame with rfl
        rw [hfresh row' hrow' .acl] at hr
        cases hr
      refine .insert (fun hsame => hne row hrow hsame.2) (fun _ => rfl) fun c ht' hu => ?_
      rcases List.mem_append.mp hrow with hrow | hrow
      · rw [bare_of_mem_groupRows hrow] at hu
        cases hu
      · cases List.mem_singleton.mp hrow
        cases c <;> cases ht'
        change u ∈ group.acls at hu
        rw [hacls] at hu
        rcases List.mem_map.mp hu with ⟨a, ha, hau⟩
        exact hne (.acl a) (by simp [groupRows, ha]) hau
  · intro t u hop ht o k row c hrow htarget hu
    rcases hdetached t u (hdelete hop) ht o k row c hrow htarget hu with ⟨op, hop, hdetaches⟩
    exact ⟨op, List.mem_append_left _ hop, hdetaches⟩

theorem Issued.agrees {ops : List Operation} (h : Issued calls ts drawn ops)
    (hts : Sound (listing calls) nothing ts) (hapart : NamesApart calls)
    (hfresh : ∀ u ∈ drawn, ∀ t, (ts t).get? u = none) : Agrees ts ops := by
  have howned : ∀ us, ts.applyAll ops = .ok us → us.Owned := by
    intro us hus
    exact (h.sound hts hus).owned
  cases h with
  | remove hremoves hdetached =>
      exact agrees_of_withdraws hts.wellFormed hremoves (hdetached hapart) howned
  | regroup hgone hdetached _ hold hacls _ _ hdrawn =>
      refine agrees_of_regroup hts.wellFormed hgone hdetached hold hacls ?_ howned
      intro row hrow t
      exact hfresh row.uuid (hdrawn row hrow) t
  | relabel h =>
      refine agrees_of_no_deletes hts.wellFormed (fun t lookup hop => ?_) howned
      cases h _ hop
  | _ =>
      exact agrees_of_no_deletes hts.wellFormed (by simp [attachment]) howned

end Client
end LogicalNet
