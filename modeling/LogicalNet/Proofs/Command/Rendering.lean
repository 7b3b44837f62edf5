import LogicalNet.Proofs.Command.Moments

/-!
# One call for a transaction

A transaction is rendered operation by operation.  An operation becomes commands or
is refused: its row has a fault, a row that it needs is not there, or a row that it
asks for cannot be read.  Rendering calls the tool for listings only.  If every
operation was rendered, and to any command at all, one call has all the commands,
and otherwise the tool is not called to write.
-/

namespace LogicalNet

/-- The operation asks for the row of a lookup, to be named in its command.  The flag tells whether
the row has to be there. -/
inductive Operation.Asks : Operation → Table → Lookup → Bool → (String → List String) → Prop where
  | delete {table : Table} (lookup : Lookup) (hroot : table.isRoot = true) :
      Asks (.delete table lookup) table lookup false (Command.destroy table)
  | addRefs (table : Table) (lookup : Lookup) (column : RefColumn) (uuids : List String) :
      Asks (.addRefs table lookup column uuids) table lookup true
        fun r => Command.add table r column uuids
  | removeRefs (table : Table) (lookup : Lookup) (column : RefColumn) (uuids : List String) :
      Asks (.removeRefs table lookup column uuids) table lookup false
        fun r => Command.remove table r column uuids
  | setKeys (table : Table) (lookup : Lookup) (column : MapColumn) (entries : TextMap String) :
      Asks (.setKeys table lookup column entries) table lookup true
        fun r => Command.setKeys table r column entries

namespace Session

variable {ω : Type} [Link ω]

/-! ## How operations are rendered -/

/-- How a lookup comes out, with the session before and after: a row is known by its identifier, by
its name in a table with a name index, and by what the database says otherwise. -/
inductive Resolves : Session ω → Table → Lookup → Except StoreError (Option String) →
    Session ω → Prop where
  | uuid (s : Session ω) (table : Table) (uuid : String) :
      Resolves s table (.uuid uuid) (.ok (some uuid)) s
  | indexed (s : Session ω) {table : Table} (name : String) (hindex : table.hasNameIndex = true) :
      Resolves s table (.name name) (.ok (some name)) s
  | found {s t : Session ω} {table : Table} {name : String} {row : Row}
      (hindex : table.hasNameIndex = false)
      (hread : s.get table (.name name) = (.ok (some row), t)) :
      Resolves s table (.name name) (.ok (some row.uuid)) t
  | absent {s t : Session ω} {table : Table} {name : String} (hindex : table.hasNameIndex = false)
      (hread : s.get table (.name name) = (.ok none, t)) :
      Resolves s table (.name name) (.ok none) t
  | unread {s t : Session ω} {table : Table} {name : String} {e : StoreError}
      (hindex : table.hasNameIndex = false) (hread : s.get table (.name name) = (.error e, t)) :
      Resolves s table (.name name) (.error e) t

/-- How an operation comes out as commands. -/
inductive Renders : Session ω → Operation → Except StoreError (List (List String)) →
    Session ω → Prop where
  | insert (s : Session ω) {row : Row} (hrow : row.fault? = none) :
      Renders s (.insert row) (.ok [Command.create row]) s
  | update (s : Session ω) {row : Row} (hrow : row.fault? = none) :
      Renders s (.update row) (.ok [Command.replace row]) s
  | faulty (s : Session ω) {op : Operation} {row : Row} {fault : InputFault}
      (hop : op = .insert row ∨ op = .update row) (hrow : row.fault? = some fault) :
      Renders s op (.error (.input fault)) s
  /-- The database drops the row itself, with the last reference to it. -/
  | dropped (s : Session ω) {table : Table} (lookup : Lookup) (hroot : table.isRoot = false) :
      Renders s (.delete table lookup) (.ok []) s
  | found {s t : Session ω} {op : Operation} {table : Table} {lookup : Lookup} {required : Bool}
      {command : String → List String} {record : String}
      (hasks : op.Asks table lookup required command)
      (hrecord : Resolves s table lookup (.ok (some record)) t) :
      Renders s op (.ok [command record]) t
  | absent {s t : Session ω} {op : Operation} {table : Table} {lookup : Lookup}
      {command : String → List String} (hasks : op.Asks table lookup false command)
      (hrecord : Resolves s table lookup (.ok none) t) :
      Renders s op (.ok []) t
  | missing {s t : Session ω} {op : Operation} {table : Table} {lookup : Lookup}
      {command : String → List String} (hasks : op.Asks table lookup true command)
      (hrecord : Resolves s table lookup (.ok none) t) :
      Renders s op (.error (.notFound table lookup.text)) t
  | unread {s t : Session ω} {op : Operation} {table : Table} {lookup : Lookup} {required : Bool}
      {command : String → List String} {e : StoreError}
      (hasks : op.Asks table lookup required command)
      (hrecord : Resolves s table lookup (.error e) t) :
      Renders s op (.error e) t

/-- Every operation comes out as commands, and these are all of them in order. -/
inductive RendersAll : Session ω → List Operation → List (List String) → Session ω → Prop where
  | nil (s : Session ω) : RendersAll s [] [] s
  | cons {s t u : Session ω} {op : Operation} {ops : List Operation} {cs css : List (List String)}
      (hop : Renders s op (.ok cs) t) (hrest : RendersAll t ops css u) :
      RendersAll s (op :: ops) (cs ++ css) u

/-- Some operation is refused, after all in front of it came out as commands. -/
def Refuses (s : Session ω) (ops : List Operation) (e : StoreError) (u : Session ω) : Prop :=
  ∃ before op after css t, ops = before ++ op :: after ∧ RendersAll s before css t ∧
    Renders t op (.error e) u

variable {s t u : Session ω} {table : Table} {lookup : Lookup} {op : Operation}
  {ops : List Operation} {css : List (List String)}

theorem resolves_record (s : Session ω) (table : Table) (lookup : Lookup) :
    Resolves s table lookup (s.record table lookup).1 (s.record table lookup).2 := by
  cases lookup with
  | uuid uuid =>
      exact .uuid s table uuid
  | name name =>
      cases hindex : table.hasNameIndex with
      | true =>
          rw [record, if_pos hindex]
          exact .indexed s name hindex
      | false =>
          rw [record, if_neg (by simp [hindex])]
          rcases hread : s.get table (.name name) with ⟨e | row, t⟩
          · exact .unread hindex hread
          · cases row with
            | none =>
                exact .absent hindex hread
            | some row =>
                exact .found hindex hread

theorem Resolves.eq {answer : Except StoreError (Option String)}
    (h : Resolves s table lookup answer t) : s.record table lookup = (answer, t) := by
  cases h with
  | uuid =>
      rfl
  | indexed name hindex =>
      rw [record, if_pos hindex]
  | found hindex hread | absent hindex hread | unread hindex hread =>
      rw [record, if_neg (by simp [hindex]), hread]
      rfl

/-- What an operation that asks for a row makes of the answer. -/
def fromAnswer (table : Table) (lookup : Lookup) (required : Bool)
    (command : String → List String) :
    Except StoreError (Option String) → Except StoreError (List (List String))
  | .error e => .error e
  | .ok (some record) => .ok [command record]
  | .ok none => if required then .error (.notFound table lookup.text) else .ok []

theorem commands_of_asks (s : Session ω) {required : Bool} {command : String → List String}
    (hasks : op.Asks table lookup required command) :
    s.commands op = (fromAnswer table lookup required command (s.record table lookup).1,
      (s.record table lookup).2) := by
  -- Only `requireRecord` tells a row that is absent from one that is missing.
  cases hasks with
  | delete _ hroot =>
      rw [commands, if_pos hroot]
      rcases s.record table lookup with ⟨_ | _ | _, _⟩ <;> rfl
  | removeRefs =>
      rw [commands]
      rcases s.record table lookup with ⟨_ | _ | _, _⟩ <;> rfl
  | addRefs | setKeys =>
      rw [commands, requireRecord]
      rcases s.record table lookup with ⟨_ | _ | _, _⟩ <;> rfl

theorem renders_of_asks {required : Bool} {command : String → List String}
    {answer : Except StoreError (Option String)} (hasks : op.Asks table lookup required command)
    (hrecord : Resolves s table lookup answer t) :
    Renders s op (fromAnswer table lookup required command answer) t := by
  rcases answer with e | _ | record
  · exact .unread hasks hrecord
  · cases required with
    | false =>
        exact .absent hasks hrecord
    | true =>
        exact .missing hasks hrecord
  · exact .found hasks hrecord

theorem renders_commands_of_asks {required : Bool} {command : String → List String}
    (s : Session ω) (hasks : op.Asks table lookup required command) :
    Renders s op (s.commands op).1 (s.commands op).2 := by
  rw [commands_of_asks s hasks]
  exact renders_of_asks hasks (resolves_record s table lookup)

theorem renders_commands (s : Session ω) (op : Operation) :
    Renders s op (s.commands op).1 (s.commands op).2 := by
  cases op with
  | insert row =>
      rw [commands]
      cases hrow : row.fault? with
      | some fault =>
          exact .faulty s (.inl rfl) hrow
      | none =>
          exact .insert s hrow
  | update row =>
      rw [commands]
      cases hrow : row.fault? with
      | some fault =>
          exact .faulty s (.inr rfl) hrow
      | none =>
          exact .update s hrow
  | delete table lookup =>
      cases hroot : table.isRoot with
      | false =>
          rw [commands, if_neg (by simp [hroot])]
          exact .dropped s lookup hroot
      | true =>
          exact renders_commands_of_asks s (.delete lookup hroot)
  | addRefs table lookup column uuids =>
      exact renders_commands_of_asks s (.addRefs table lookup column uuids)
  | removeRefs table lookup column uuids =>
      exact renders_commands_of_asks s (.removeRefs table lookup column uuids)
  | setKeys table lookup column entries =>
      exact renders_commands_of_asks s (.setKeys table lookup column entries)

theorem Renders.eq {rendered : Except StoreError (List (List String))}
    (h : Renders s op rendered t) : s.commands op = (rendered, t) := by
  cases h with
  | insert hrow | update hrow =>
      rw [commands, hrow]
  | faulty hop hrow =>
      rcases hop with rfl | rfl <;> rw [commands, hrow]
  | dropped lookup hroot =>
      rw [commands, if_neg (by simp [hroot])]
  | found hasks hrecord | absent hasks hrecord | missing hasks hrecord | unread hasks hrecord =>
      rw [commands_of_asks s hasks, hrecord.eq]
      rfl

/-! ## Transactions as a whole -/

theorem RendersAll.eq (h : RendersAll s ops css t) : s.allCommands ops = (.ok css, t) := by
  induction h with
  | nil =>
      rfl
  | cons hop _ ih =>
      rw [allCommands, hop.eq]
      simp only [ih]
      rfl

theorem Refuses.eq {e : StoreError} (h : Refuses s ops e t) :
    s.allCommands ops = (.error e, t) := by
  rcases h with ⟨before, op, after, css, u, rfl, hbefore, hop⟩
  induction hbefore with
  | nil =>
      rw [List.nil_append, allCommands, hop.eq]
  | cons hfirst _ ih =>
      rw [List.cons_append, allCommands, hfirst.eq]
      simp only [ih hop]
      rfl

theorem rendersAll_or_refuses (ops : List Operation) (s : Session ω) :
    (∃ css t, RendersAll s ops css t) ∨ ∃ e t, Refuses s ops e t := by
  induction ops generalizing s with
  | nil =>
      exact .inl ⟨[], s, .nil s⟩
  | cons op ops ih =>
      have hop := renders_commands s op
      generalize s.commands op = outcome at hop
      rcases outcome with ⟨e | cs, t⟩
      · exact .inr ⟨e, t, [], op, ops, [], s, rfl, .nil s, hop⟩
      · rcases ih t with ⟨css, u, hrest⟩ | ⟨e, u, before, op', after, css, v, rfl, hbefore, hop'⟩
        · exact .inl ⟨cs ++ css, u, .cons hop hrest⟩
        · exact .inr ⟨e, u, op :: before, op', after, cs ++ css, v, rfl, .cons hop hbefore, hop'⟩

/-! ## Rendering only reads -/

/-- From the one session to the other the tool is called for listings only. -/
def Reads (s t : Session ω) : Prop :=
  ∃ ms, Passes s ms t ∧ ∀ c ∈ ms.filterMap Moment.call?, s.isListing c.1 = true

namespace Reads

theorem refl (s : Session ω) : Reads s s :=
  ⟨[], .rest s, by simp⟩

theorem trans (h : Reads s t) (h' : Reads t u) : Reads s u := by
  rcases h with ⟨ms, hms, hlistings⟩
  rcases h' with ⟨ms', hms', hlistings'⟩
  refine ⟨ms ++ ms', hms.trans hms', fun c hc => ?_⟩
  rw [List.filterMap_append, List.mem_append] at hc
  rcases hc with hc | hc
  · exact hlistings c hc
  · have hlisting := hlistings' c hc
    rw [isListing, fullArguments, hms.settings_eq, hms.remote_eq] at hlisting
    exact hlisting

theorem settings_eq (h : Reads s t) : t.settings = s.settings := by
  rcases h with ⟨_, hms, _⟩
  exact hms.settings_eq

theorem remote_eq (h : Reads s t) : t.remote = s.remote := by
  rcases h with ⟨_, hms, _⟩
  exact hms.remote_eq

end Reads

theorem select_snd (s : Session ω) (table : Table) (conditions : List String) :
    (s.select table conditions).2 = (s.run (Command.listing table conditions)).2 := by
  rw [select]
  rcases s.run (Command.listing table conditions) with ⟨_ | _, _⟩ <;> rfl

theorem reads_select (s : Session ω) (table : Table) (conditions : List String) :
    Reads s (s.select table conditions).2 := by
  rw [select_snd]
  rcases passes_run s (Command.listing table conditions) with
    ⟨ms, hms, ⟨hquiet, _⟩ | ⟨reply, hcall, _⟩⟩
  · exact ⟨ms, hms, by simp [hquiet]⟩
  · refine ⟨ms, hms, fun c hc => ?_⟩
    rw [hcall, List.mem_singleton] at hc
    rw [hc, isListing_fullArguments, List.isPrefixOf_iff_prefix]
    exact ⟨table.dbName :: conditions, rfl⟩

theorem reads_get (s : Session ω) (table : Table) (lookup : Lookup) :
    Reads s (s.get table lookup).2 :=
  reads_select s table [Command.lookupCondition lookup]

theorem Resolves.reads {answer : Except StoreError (Option String)}
    (h : Resolves s table lookup answer t) : Reads s t := by
  cases h with
  | uuid | indexed =>
      exact .refl s
  | found _ hread | absent _ hread | unread _ hread =>
      have hreads := reads_get s table (.name ‹String›)
      rw [hread] at hreads
      exact hreads

theorem Renders.reads {rendered : Except StoreError (List (List String))}
    (h : Renders s op rendered t) : Reads s t := by
  cases h with
  | insert | update | faulty | dropped =>
      exact .refl s
  | found _ hrecord | absent _ hrecord | missing _ hrecord | unread _ hrecord =>
      exact hrecord.reads

theorem RendersAll.reads (h : RendersAll s ops css t) : Reads s t := by
  induction h with
  | nil s =>
      exact .refl s
  | cons hop _ ih =>
      exact hop.reads.trans ih

theorem Refuses.reads {e : StoreError} (h : Refuses s ops e u) : Reads s u := by
  rcases h with ⟨_, _, _, _, _, _, hbefore, hop⟩
  exact hbefore.reads.trans hop.reads

/-! ## All in one call -/

theorem transact_of_error {e : StoreError} (h : s.allCommands ops = (.error e, t)) :
    s.transact ops = (.error e, t) := by
  rw [transact, transactionArguments, h]
  rfl

theorem transact_of_nil (h : s.allCommands ops = (.ok [], t)) :
    s.transact ops = (.ok (), t) := by
  rw [transact, transactionArguments, h]
  rfl

theorem transact_of_ne_nil (h : s.allCommands ops = (.ok css, t)) (hcss : css ≠ []) :
    s.transact ops = ((t.run (Command.transaction css)).1.map fun _ => (),
      (t.run (Command.transaction css)).2) := by
  rw [transact, transactionArguments, h]
  cases css with
  | nil =>
      exact absurd rfl hcss
  | cons c css =>
      rfl

/-! ## Calls that write -/

/-- The calls in the log that are not for listings, with their replies. -/
def writes (s : Session (Logged ω)) : List (List String × Reply) :=
  (s.link.log.filterMap LinkEvent.call?).filter fun c => !s.isListing c.1

section

variable {s t : Session (Logged ω)}

end

end Session
end LogicalNet
