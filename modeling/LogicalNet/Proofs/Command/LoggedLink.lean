import LogicalNet.Command.Session

/-!
# Logs of a link

A logged link writes down everything that a session asks of it, with the answers:
the calls of the tool, the probes and the pauses.  A session does the same over a
logged link as over the link alone, so that what is said about the log is said
about every session.
-/

namespace LogicalNet

/-- What a session may ask of its link, with the answer. -/
inductive LinkEvent where
  | run (arguments : List String) (reply : Reply)
  | probe (outcome : Except String Unit)
  | pause

structure Logged (ω : Type) where
  link : ω
  log : List LinkEvent

instance {ω : Type} [Link ω] : Link (Logged ω) where
  run arguments w :=
    let answer := Link.run arguments w.link
    (answer.1, ⟨answer.2, w.log ++ [.run arguments answer.1]⟩)
  probe remote w :=
    let answer := Link.probe remote w.link
    (answer.1, ⟨answer.2, w.log ++ [.probe answer.1]⟩)
  pause w := ⟨Link.pause w.link, w.log ++ [.pause]⟩

namespace Logged

variable {ω : Type} [Link ω] {w w' : Logged ω}

theorem log_of_run {arguments : List String} {reply : Reply}
    (h : Link.run arguments w = (reply, w')) : w'.log = w.log ++ [.run arguments reply] := by
  have hreply : (Link.run arguments w.link).1 = reply := congrArg Prod.fst h
  have hlink : (Link.run arguments w).2 = w' := congrArg Prod.snd h
  rw [← hlink, ← hreply]
  rfl

theorem log_of_probe {remote : Remote} {outcome : Except String Unit}
    (h : Link.probe remote w = (outcome, w')) : w'.log = w.log ++ [.probe outcome] := by
  have houtcome : (Link.probe remote w.link).1 = outcome := congrArg Prod.fst h
  have hlink : (Link.probe remote w).2 = w' := congrArg Prod.snd h
  rw [← hlink, ← houtcome]
  rfl

theorem log_pause (w : Logged ω) : (Link.pause w).log = w.log ++ [.pause] :=
  rfl

end Logged

namespace Session

variable {ω : Type} {α : Type}

/-- The session over a link whose log is still empty. -/
def logged (s : Session ω) : Session (Logged ω) :=
  ⟨s.settings, s.remote, s.connected, s.closed, ⟨s.link, []⟩⟩

def forget (s : Session (Logged ω)) : Session ω :=
  ⟨s.settings, s.remote, s.connected, s.closed, s.link.link⟩

/-- What is left of an outcome without the log. -/
def forgetLog (outcome : Except StoreError α × Session (Logged ω)) :
    Except StoreError α × Session ω :=
  (outcome.1, outcome.2.forget)

variable [Link ω]

/-! ## Connecting over a logged link -/

theorem probe_forget (s : Session (Logged ω)) : s.forget.probe = forgetLog s.probe := by
  unfold probe
  cases h : (Link.probe s.remote s.link.link).1 with
  | error reason =>
      simp only [Link.probe, forget, h]
      rfl
  | ok connected =>
      simp only [Link.probe, forget, h]
      rfl

theorem attempt_forget (n : Nat) (s : Session (Logged ω)) :
    s.forget.attempt n = forgetLog (s.attempt n) := by
  induction n generalizing s with
  | zero =>
      simp only [attempt, probe_forget]
      rfl
  | succ n ih =>
      unfold attempt
      simp only [probe_forget]
      cases h : s.probe.1 with
      | error e =>
          simp only [forgetLog, h]
          exact ih { s.probe.2 with link := Link.pause s.probe.2.link }
      | ok connected =>
          simp only [forgetLog, h]
          rfl

theorem reconnect_forget (s : Session (Logged ω)) :
    s.forget.reconnect = forgetLog s.reconnect := by
  by_cases h : s.closed = true
  · have hforget : s.forget.closed = true := h
    rw [reconnect, if_pos hforget, reconnect, if_pos h]
    rfl
  · have hforget : ¬ s.forget.closed = true := h
    rw [reconnect, if_neg hforget, reconnect, if_neg h]
    exact attempt_forget _ s

/-! ## Calls over a logged link -/

theorem afterFailure_forget (s : Session (Logged ω)) :
    s.forget.afterFailure = s.afterFailure.forget := by
  unfold afterFailure
  simp only [probe_forget]
  cases h : s.probe.1 with
  | error e =>
      simp only [forgetLog, h]
      rfl
  | ok connected =>
      simp only [forgetLog, h]

theorem call_forget (s : Session (Logged ω)) (arguments : List String) :
    s.forget.call arguments = forgetLog (s.call arguments) := by
  -- The probe after a failure starts from the link as the call has left it.
  have hafter := afterFailure_forget
    { s with link := (Link.run (Command.options s.settings s.remote ++ arguments) s.link).2 }
  unfold call
  cases h : (Link.run (Command.options s.settings s.remote ++ arguments) s.link.link).1 with
  | output text =>
      simp only [Link.run, forget, h]
      rfl
  | failed cause =>
      simp only [Link.run, forget, h, forgetLog] at hafter ⊢
      rw [hafter]
  | hung =>
      simp only [Link.run, forget, h, forgetLog] at hafter ⊢
      rw [hafter]
      rfl

theorem run_forget (s : Session (Logged ω)) (arguments : List String) :
    s.forget.run arguments = forgetLog (s.run arguments) := by
  by_cases hc : s.connected = true
  · have hforget : s.forget.connected = true := hc
    rw [run, if_pos hforget, run, if_pos hc]
    exact call_forget s arguments
  · have hforget : ¬ s.forget.connected = true := hc
    rw [run, if_neg hforget, run, if_neg hc]
    simp only [reconnect_forget]
    cases h : s.reconnect.1 with
    | error e =>
        simp only [forgetLog, h]
    | ok connected =>
        simp only [forgetLog, h]
        exact call_forget s.reconnect.2 arguments

/-! ## Reading over a logged link -/

theorem select_forget (s : Session (Logged ω)) (table : Table) (conditions : List String) :
    s.forget.select table conditions = forgetLog (s.select table conditions) := by
  unfold select
  simp only [run_forget]
  cases h : (s.run (Command.listing table conditions)).1 with
  | error e =>
      simp only [forgetLog, h]
  | ok text =>
      simp only [forgetLog, h]

theorem get_forget (s : Session (Logged ω)) (table : Table) (lookup : Lookup) :
    s.forget.get table lookup = forgetLog (s.get table lookup) := by
  unfold get
  rw [select_forget]
  rfl

/-! ## Writing over a logged link -/

theorem record_forget (s : Session (Logged ω)) (table : Table) (lookup : Lookup) :
    s.forget.record table lookup = forgetLog (s.record table lookup) := by
  cases lookup with
  | uuid uuid =>
      rfl
  | name name =>
      unfold record
      cases h : table.hasNameIndex with
      | true =>
          rfl
      | false =>
          simp only [get_forget]
          rfl

theorem requireRecord_forget (s : Session (Logged ω)) (table : Table) (lookup : Lookup) :
    s.forget.requireRecord table lookup = forgetLog (s.requireRecord table lookup) := by
  unfold requireRecord
  simp only [record_forget]
  cases h : (s.record table lookup).1 with
  | error e =>
      simp only [forgetLog, h]
  | ok found =>
      cases found with
      | none =>
          simp only [forgetLog, h]
      | some record =>
          simp only [forgetLog, h]

theorem commands_forget (s : Session (Logged ω)) (op : Operation) :
    s.forget.commands op = forgetLog (s.commands op) := by
  cases op with
  | insert row =>
      simp only [commands]
      cases row.fault? <;> rfl
  | update row =>
      simp only [commands]
      cases row.fault? <;> rfl
  | delete table lookup =>
      simp only [commands, record_forget]
      cases table.isRoot <;> rfl
  | addRefs table lookup column uuids =>
      simp only [commands, requireRecord_forget]
      rfl
  | removeRefs table lookup column uuids =>
      simp only [commands, record_forget]
      rfl
  | setKeys table lookup column entries =>
      simp only [commands, requireRecord_forget]
      rfl

theorem allCommands_forget (ops : List Operation) (s : Session (Logged ω)) :
    s.forget.allCommands ops = forgetLog (s.allCommands ops) := by
  induction ops generalizing s with
  | nil =>
      rfl
  | cons op rest ih =>
      unfold allCommands
      simp only [commands_forget]
      cases h : (s.commands op).1 with
      | error e =>
          simp only [forgetLog, h]
      | ok cs =>
          simp only [forgetLog, h, ih]

theorem transact_forget (s : Session (Logged ω)) (ops : List Operation) :
    s.forget.transact ops = forgetLog (s.transact ops) := by
  unfold transact transactionArguments
  simp only [allCommands_forget]
  cases h : (s.allCommands ops).1.map Command.transaction with
  | error e =>
      simp only [forgetLog, h]
  | ok words =>
      cases words with
      | nil =>
          simp only [forgetLog, h]
      | cons word words =>
          simp only [forgetLog, h, run_forget]

end Session
end LogicalNet
