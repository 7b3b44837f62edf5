import LogicalNet.Proofs.Command.Rendering

/-!
# Connection of a session

A session is asked for one thing after another.  From its moments it can be told
whether it is connected: a probe has succeeded, and since then no call was lost, no
attempts to connect were exhausted, and the session was not closed.  The tool is
called in connection only.

A closed session stays closed and leaves its link alone.  It has a connection error
for every read, for every attempt to connect and for every transaction that comes
out as a command.
-/

namespace LogicalNet

namespace Moment

/-- A connected session is still connected after the moment. -/
def keeps : Moment → Bool
  | exhausted _ | lost _ _ _ | closed => false
  | _ => true

/-- A probe succeeded, and nothing has ended the connection since. -/
def InConnection (ms : List Moment) : Prop :=
  ∃ before after, ms = before ++ reached :: after ∧ ∀ m ∈ after, m.keeps = true

theorem not_inConnection_nil : ¬ InConnection [] := by
  rintro ⟨before, after, hms, _⟩
  simp at hms

theorem inConnection_append_singleton {ms : List Moment} {m : Moment} :
    InConnection (ms ++ [m]) ↔ m = reached ∨ InConnection ms ∧ m.keeps = true := by
  constructor
  · rintro ⟨before, after, hms, hkeeps⟩
    rcases List.eq_nil_or_concat after with rfl | ⟨after, last, rfl⟩
    · exact .inl (List.append_inj' hms rfl |>.2 |> List.cons.inj |>.1)
    · rw [List.concat_eq_append] at hms hkeeps
      rw [← List.cons_append, ← List.append_assoc] at hms
      rcases List.append_inj' hms rfl with ⟨rfl, hm⟩
      cases hm
      exact .inr ⟨⟨before, after, rfl, fun n hn => hkeeps n (List.mem_append_left _ hn)⟩,
        hkeeps m (by simp)⟩
  · rintro (rfl | ⟨⟨before, after, rfl, hkeeps⟩, hm⟩)
    · exact ⟨ms, [], rfl, by simp⟩
    · refine ⟨before, after ++ [m], by simp, fun n hn => ?_⟩
      rcases List.mem_append.mp hn with hn | hn
      · exact hkeeps n hn
      · rw [List.mem_singleton.mp hn]
        exact hm

end Moment

open Moment (InConnection)

/-- What may be asked of a session. -/
inductive SessionCall where
  | get (table : Table) (lookup : Lookup)
  | list (table : Table)
  | find (table : Table) (key value : String)
  | transact (operations : List Operation)
  | reconnect
  | close

namespace Session

variable {ω : Type} [Link ω]

def perform (s : Session ω) : SessionCall → Session ω
  | .get table lookup => (Store.get table lookup s).2
  | .list table => (Store.list table s).2
  | .find table key value => (Store.find table key value s).2
  | .transact operations => (Store.transact operations s).2
  | .reconnect => s.reconnect.2
  | .close => Store.close s

def performAll (s : Session ω) (calls : List SessionCall) : Session ω :=
  calls.foldl perform s

variable {s t u : Session ω} {ms : List Moment} {m : Moment}

/-! ## From the moments to the marks of the session -/

theorem Moves.connected_iff (h : Moves s m t) :
    t.connected = true ↔ m = .reached ∨ s.connected = true ∧ m.keeps = true := by
  cases h with
  | reached | missed | exhausted | lost | closed =>
      simp [Moment.keeps]
  | answered hconnected | excused hconnected =>
      simp [Moment.keeps, hconnected]

theorem Passes.connected_iff (h : Passes s ms t) (hs : s.connected = false) :
    t.connected = true ↔ InConnection ms := by
  induction h with
  | rest =>
      simp [hs, Moment.not_inConnection_nil]
  | step _ hmove ih =>
      rw [hmove.connected_iff, ih, Moment.inConnection_append_singleton]

theorem Moves.connected_of_call (h : Moves s m t) (hcall : m.call? ≠ none) :
    s.connected = true := by
  cases h with
  | reached | missed | exhausted | closed =>
      exact absurd rfl hcall
  | answered hconnected | excused hconnected | lost hconnected =>
      exact hconnected

/-- What is closed and out of connection, as a session is from its closing on. -/
def IsClosed (s : Session ω) : Prop :=
  s.closed = true ∧ s.connected = false

theorem Moves.isClosed (h : Moves s m t) (hs : s.IsClosed) : t.IsClosed ∧ t.link = s.link := by
  rcases hs with ⟨hclosed, hlost⟩
  cases h with
  | reached hopen | missed hopen | exhausted hopen =>
      rw [hclosed] at hopen
      cases hopen
  | answered hconnected | excused hconnected | lost hconnected =>
      rw [hlost] at hconnected
      cases hconnected
  | closed =>
      exact ⟨⟨rfl, rfl⟩, rfl⟩

theorem Passes.isClosed (h : Passes s ms t) (hs : s.IsClosed) :
    t.IsClosed ∧ t.link = s.link := by
  induction h with
  | rest =>
      exact ⟨hs, rfl⟩
  | step _ hmove ih =>
      rcases hmove.isClosed ih.1 with ⟨hclosed, hlink⟩
      exact ⟨hclosed, hlink.trans ih.2⟩

theorem Passes.isClosed_of_mem (h : Passes s ms t) (hmem : Moment.closed ∈ ms) :
    t.IsClosed := by
  induction h with
  | rest =>
      cases hmem
  | step _ hmove ih =>
      rcases List.mem_append.mp hmem with hmem | hmem
      · exact (hmove.isClosed (ih hmem)).1
      · cases List.mem_singleton.mp hmem
        cases hmove
        exact ⟨rfl, rfl⟩

/-! ## The moments of what is asked -/

theorem passes_transact (s : Session ω) (ops : List Operation) :
    ∃ ms, Passes s ms (s.transact ops).2 := by
  rcases rendersAll_or_refuses ops s with ⟨css, t, h⟩ | ⟨e, t, h⟩
  · rcases h.reads with ⟨ms, hms, _⟩
    by_cases hcss : css = []
    · subst hcss
      rw [transact_of_nil h.eq]
      exact ⟨ms, hms⟩
    · rw [transact_of_ne_nil h.eq hcss]
      rcases passes_run t (Command.transaction css) with ⟨ms', hms', _⟩
      exact ⟨ms ++ ms', hms.trans hms'⟩
  · rcases h.reads with ⟨ms, hms, _⟩
    rw [transact_of_error h.eq]
    exact ⟨ms, hms⟩

theorem passes_perform (s : Session ω) (call : SessionCall) :
    ∃ ms, Passes s ms (s.perform call) := by
  cases call with
  | get table lookup =>
      rcases reads_get s table lookup with ⟨ms, hms, _⟩
      exact ⟨ms, hms⟩
  | list table =>
      rcases reads_select s table [] with ⟨ms, hms, _⟩
      exact ⟨ms, hms⟩
  | find table key value =>
      rcases reads_select s table [Command.externalIdCondition key value] with ⟨ms, hms, _⟩
      exact ⟨ms, hms⟩
  | transact operations =>
      exact passes_transact s operations
  | reconnect =>
      rcases connects_reconnect s with ⟨ms, hms, _⟩
      exact ⟨ms, hms⟩
  | close =>
      exact ⟨_, (Moves.closed s).passes⟩

theorem passes_performAll (calls : List SessionCall) (s : Session ω) :
    ∃ ms, Passes s ms (s.performAll calls) := by
  induction calls generalizing s with
  | nil =>
      exact ⟨[], .rest s⟩
  | cons call calls ih =>
      rcases passes_perform s call with ⟨ms, hms⟩
      rcases ih (s.perform call) with ⟨ms', hms'⟩
      exact ⟨ms ++ ms', hms.trans hms'⟩

theorem perform_forget (s : Session (Logged ω)) (call : SessionCall) :
    s.forget.perform call = (s.perform call).forget := by
  cases call with
  | get table lookup =>
      exact congrArg Prod.snd (get_forget s table lookup)
  | list table =>
      exact congrArg Prod.snd (select_forget s table [])
  | find table key value =>
      exact congrArg Prod.snd
        (select_forget s table [Command.externalIdCondition key value])
  | transact operations =>
      exact congrArg Prod.snd (transact_forget s operations)
  | reconnect =>
      exact congrArg Prod.snd (reconnect_forget s)
  | close =>
      rfl

theorem performAll_forget (calls : List SessionCall) (s : Session (Logged ω)) :
    s.forget.performAll calls = (s.performAll calls).forget := by
  induction calls generalizing s with
  | nil =>
      rfl
  | cons call calls ih =>
      show (s.forget.perform call).performAll calls = ((s.perform call).performAll calls).forget
      rw [perform_forget, ih]

/-! ## Once closed -/

theorem IsClosed.run_eq (h : s.IsClosed) (arguments : List String) :
    s.run arguments = (s.fault .closed, s) := by
  rw [run, if_neg (by simp [h.2]), reconnect_of_closed h.1]
  rfl

theorem IsClosed.select_eq (h : s.IsClosed) (table : Table) (conditions : List String) :
    s.select table conditions = (s.fault .closed, s) := by
  rw [select, h.run_eq]
  rfl

theorem IsClosed.get_eq (h : s.IsClosed) (table : Table) (lookup : Lookup) :
    s.get table lookup = (s.fault .closed, s) := by
  rw [get, h.select_eq]
  rfl

variable {ω' : Type} [Link ω'] {v v' : Session ω'}

/-- A row is known to a closed session as to any other, or it cannot be read. -/
theorem IsClosed.record_eq (h : s.IsClosed) {table : Table} {lookup : Lookup}
    {answer : Except StoreError (Option String)} (hrecord : Resolves v table lookup answer v') :
    s.record table lookup = (answer, s) ∨ s.record table lookup = (s.fault .closed, s) := by
  -- The other session may have read the row, which a closed one cannot.
  cases hrecord with
  | uuid =>
      exact .inl rfl
  | indexed name hindex =>
      exact .inl (by rw [record, if_pos hindex])
  | found hindex | absent hindex | unread hindex =>
      refine .inr ?_
      rw [record, if_neg (by simp [hindex]), h.get_eq]
      rfl

theorem IsClosed.commands_eq (h : s.IsClosed) {op : Operation} {cs : List (List String)}
    (hop : Renders v op (.ok cs) v') :
    s.commands op = (.ok cs, s) ∨ s.commands op = (s.fault .closed, s) := by
  cases hop with
  | insert hrow | update hrow =>
      exact .inl (by rw [commands, hrow])
  | dropped lookup hroot =>
      exact .inl (by rw [commands, if_neg (by simp [hroot])])
  | found hasks hrecord | absent hasks hrecord =>
      rw [commands_of_asks s hasks]
      rcases h.record_eq hrecord with heq | heq
      · exact .inl (by rw [heq]; rfl)
      · exact .inr (by rw [heq]; rfl)

theorem IsClosed.allCommands_eq (h : s.IsClosed) {ops : List Operation}
    {css : List (List String)} (hops : RendersAll v ops css v') :
    s.allCommands ops = (.ok css, s) ∨ s.allCommands ops = (s.fault .closed, s) := by
  induction hops with
  | nil =>
      exact .inl rfl
  | cons hop _ ih =>
      rcases h.commands_eq hop with heq | heq
      · rw [allCommands, heq]
        rcases ih with hrest | hrest
        · exact .inl (by simp only [hrest]; rfl)
        · exact .inr (by simp only [hrest]; rfl)
      · exact .inr (by rw [allCommands, heq]; rfl)

theorem IsClosed.transact_eq (h : s.IsClosed) {ops : List Operation} {css : List (List String)}
    (hops : RendersAll v ops css v') (hcss : css ≠ []) :
    s.transact ops = (s.fault .closed, s) := by
  rcases h.allCommands_eq hops with heq | heq
  · rw [transact_of_ne_nil heq hcss, h.run_eq]
    rfl
  · exact transact_of_error heq

/-- Whatever needs the database fails with the error, a transaction too if there is any session in
which it comes out as a command. -/
structure OutOfService (s : Session ω) (e : StoreError) : Prop where
  get : ∀ table lookup, (Store.get table lookup s).1 = .error e
  list : ∀ table, (Store.list table s).1 = .error e
  find : ∀ table key value, (Store.find table key value s).1 = .error e
  reconnect : s.reconnect.1 = .error e
  transact : ∀ (ω' : Type) [Link ω'] (v v' : Session ω') (ops : List Operation)
    (css : List (List String)), RendersAll v ops css v' → css ≠ [] →
      (Store.transact ops s).1 = .error e

theorem IsClosed.outOfService (h : s.IsClosed) :
    s.OutOfService (.connection s.settings.address .closed) where
  get table lookup := congrArg Prod.fst (h.get_eq table lookup)
  list table := congrArg Prod.fst (h.select_eq table [])
  find table key value :=
    congrArg Prod.fst (h.select_eq table [Command.externalIdCondition key value])
  reconnect := congrArg Prod.fst (reconnect_of_closed h.1)
  transact _ _ _ _ _ _ hops hcss := congrArg Prod.fst (h.transact_eq hops hcss)

/-! ## From the beginning -/

/-- A session as it begins, over a log that is empty: out of touch with the database, or with one
attempt to connect. -/
def Begins (settings : Settings) (w : ω) (s : Session (Logged ω)) : Prop :=
  start settings ⟨w, []⟩ = .ok s ∨ (connect settings ⟨w, []⟩).1 = .ok s

theorem start_eq_ok {ω : Type} {settings : Settings} {link : ω} {s : Session ω}
    (h : start settings link = .ok s) :
    s.connected = false ∧ s.closed = false ∧ s.settings = settings ∧ s.link = link := by
  rw [start] at h
  cases hremote : Remote.ofText settings.address with
  | error e =>
      rw [hremote] at h
      cases h
  | ok remote =>
      rw [hremote] at h
      cases h
      exact ⟨rfl, rfl, rfl, rfl⟩

theorem Begins.passes {settings : Settings} {w : ω} {s : Session (Logged ω)}
    (h : Begins settings w s) :
    ∃ s₀ ms, start settings ⟨w, []⟩ = .ok s₀ ∧ Passes s₀ ms s := by
  rcases h with hstart | hconnect
  · exact ⟨s, [], hstart, .rest s⟩
  · rw [connect] at hconnect
    cases hstart : start settings (⟨w, []⟩ : Logged ω) with
    | error e =>
        rw [hstart] at hconnect
        cases hconnect
    | ok s₀ =>
        simp only [hstart] at hconnect
        rcases hprobe : Link.probe s₀.remote s₀.link with ⟨⟨reason⟩ | ⟨⟨⟩⟩, w'⟩
        · rw [probe_of_error hprobe] at hconnect
          cases hconnect
        · rw [probe_of_ok hprobe] at hconnect
          cases hconnect
          exact ⟨s₀, _, rfl, (Moves.reached (start_eq_ok hstart).2.1 hprobe).passes⟩

theorem performAll_close (s : Session ω) (past later : List SessionCall) :
    s.performAll (past ++ .close :: later) =
      (Store.close (s.performAll past)).performAll later := by
  rw [performAll, List.foldl_append]
  rfl

/-- The tool is called in connection only, and the session is in connection exactly if its moments
say so.  From a closing on it never is again: nothing is asked of the link, and whatever needs the
database fails. -/
theorem called_in_connection_until_closed {settings : Settings} {w : ω} {s : Session (Logged ω)}
    (hbegins : Begins settings w s) (calls : List SessionCall) :
    s.forget.performAll calls = (s.performAll calls).forget ∧
      (∃ s₀ ms, start settings ⟨w, []⟩ = .ok s₀ ∧ Passes s₀ ms (s.performAll calls) ∧
        (s.performAll calls).link.log = ms.flatMap Moment.events ∧
        ∀ before after, ms = before ++ after →
          ∃ u, Passes s₀ before u ∧ Passes u after (s.performAll calls) ∧
            (u.connected = true ↔ InConnection before) ∧
            (Moment.closed ∈ before → u.connected = false) ∧
            ∀ m rest, after = m :: rest → m.call? ≠ none → u.connected = true) ∧
      ∀ past later, calls = past ++ .close :: later →
        (s.performAll calls).connected = false ∧
          (s.performAll calls).link = (s.performAll past).link ∧
          (s.performAll calls).OutOfService (.connection settings.address .closed) := by
  rcases hbegins.passes with ⟨s₀, ms₀, hstart, hms₀⟩
  rcases start_eq_ok hstart with ⟨hlost, _, hsettings, hlog⟩
  rcases passes_performAll calls s with ⟨ms, hms⟩
  have hall := hms₀.trans hms
  refine ⟨performAll_forget calls s, ⟨s₀, ms₀ ++ ms, hstart, hall, ?log, ?connection⟩, ?closed⟩
  case log =>
    rw [hall.log_eq, hlog, List.nil_append]
  case connection =>
    intro before after hsplit
    rw [hsplit] at hall
    rcases hall.split with ⟨u, hbefore, hafter⟩
    refine ⟨u, hbefore, hafter, hbefore.connected_iff hlost,
      fun hmem => (hbefore.isClosed_of_mem hmem).2, ?_⟩
    rintro m rest rfl hcall
    rcases hafter.first with ⟨_, hmove, _⟩
    exact hmove.connected_of_call hcall
  case closed =>
    rintro past later rfl
    have hnow : (Store.close (s.performAll past)).IsClosed := ⟨rfl, rfl⟩
    rcases passes_performAll later (Store.close (s.performAll past)) with ⟨ms', hms'⟩
    rcases hms'.isClosed hnow with ⟨hclosed, hlink⟩
    have hout := hclosed.outOfService
    rw [← performAll_close] at hclosed hlink hout
    rw [hall.settings_eq, hsettings] at hout
    exact ⟨hclosed.2, hlink, hout⟩

/-! ### A listing before a closing and one after it -/

/-- Answers that are there beforehand. -/
structure Script where
  replies : List Reply
  probes : List (Except String Unit)

instance : Link Script where
  run _ w := (w.replies.headD .hung, { w with replies := w.replies.tail })
  probe _ w := (w.probes.headD (.error "refused"), { w with probes := w.probes.tail })
  pause w := w

def scripted : Script :=
  ⟨[.output "", .failed (.failed "lost")], [.ok ()]⟩

def overScript : Session (Logged Script) :=
  ⟨{}, .tcp "127.0.0.1" 6641, false, false, ⟨scripted, []⟩⟩

def untilClosed : List SessionCall :=
  [.list .switch, .list .router, .close, .list .switch]

theorem begins_overScript : Begins {} scripted overScript :=
  .inl rfl

theorem called_in_connection_until_closed_overScript :
    Begins {} scripted overScript ∧
      (overScript.performAll untilClosed).link.log.length = 4 ∧
      (overScript.performAll untilClosed).connected = false ∧
      (overScript.performAll untilClosed).OutOfService
        (.connection "tcp:127.0.0.1:6641" .closed) := by
  rcases called_in_connection_until_closed begins_overScript untilClosed with ⟨_, _, hclosed⟩
  rcases hclosed [.list .switch, .list .router] [.list .switch] rfl with ⟨hlost, _, hout⟩
  exact ⟨begins_overScript, rfl, hlost, hout⟩

end Session
end LogicalNet
