import LogicalNet.Proofs.Command.LoggedLink
import Mathlib.Data.List.Induction

/-!
# Moments of a session

What passes between a session and its link comes in moments: a probe with what it
means for the session, or a call of the tool with the probe that may follow it.  A
moment has its condition.  The tool is called in connection only, and nothing is
probed for the sake of a connection once the session is closed.

Whatever a session does is a list of moments one after another.
-/

namespace LogicalNet

inductive Moment where
  /-- A probe succeeded, and the session is connected. -/
  | reached
  /-- A probe failed, and another attempt follows after a pause. -/
  | missed (reason : String)
  /-- The last of the attempts failed. -/
  | exhausted (reason : String)
  | answered (arguments : List String) (text : String)
  /-- A call failed, but the probe after it succeeded. -/
  | excused (arguments : List String) (reply : Reply)
  /-- A call failed, and the probe after it too. -/
  | lost (arguments : List String) (reply : Reply) (reason : String)
  | closed

/-- The arguments of a call with its reply. -/
def LinkEvent.call? : LinkEvent → Option (List String × Reply)
  | run arguments reply => some (arguments, reply)
  | _ => none

namespace Moment

/-- What the log of the link says about a moment. -/
def events : Moment → List LinkEvent
  | reached => [.probe (.ok ())]
  | missed reason => [.probe (.error reason), .pause]
  | exhausted reason => [.probe (.error reason)]
  | answered arguments text => [.run arguments (.output text)]
  | excused arguments reply => [.run arguments reply, .probe (.ok ())]
  | lost arguments reply reason => [.run arguments reply, .probe (.error reason)]
  | closed => []

def call? : Moment → Option (List String × Reply)
  | answered arguments text => some (arguments, .output text)
  | excused arguments reply => some (arguments, reply)
  | lost arguments reply _ => some (arguments, reply)
  | _ => none

end Moment

namespace Session

variable {ω : Type}

/-! ## Calls and replies -/

/-- What a reply means for the caller. -/
def answer (s : Session ω) : Reply → Except StoreError String
  | .output text => .ok text
  | .failed cause => .error (.command cause)
  | .hung => .error (.command (.unfinished s.limit))

theorem answer_eq_of_settings_eq {ω' : Type} {s : Session ω} {t : Session ω'}
    (h : t.settings = s.settings) (reply : Reply) :
    t.answer reply = s.answer reply := by
  cases reply with
  | output text | failed cause =>
      rfl
  | hung =>
      rw [answer, answer, limit, limit, h]

/-- The words of a call with the options in front of them. -/
def fullArguments (s : Session ω) (arguments : List String) : List String :=
  Command.options s.settings s.remote ++ arguments

/-- The words in front of the table in a call for a listing. -/
def listingWords : List String :=
  ["--format=json", "--data=json", "find"]

def isListing (s : Session ω) (arguments : List String) : Bool :=
  (s.fullArguments listingWords).isPrefixOf arguments

theorem isListing_fullArguments (s : Session ω) (arguments : List String) :
    s.isListing (s.fullArguments arguments) = listingWords.isPrefixOf arguments := by
  rw [Bool.eq_iff_iff, isListing, List.isPrefixOf_iff_prefix, List.isPrefixOf_iff_prefix]
  exact List.prefix_append_right_inj _

variable [Link ω]

/-- A session before a moment and after it. -/
inductive Moves : Session ω → Moment → Session ω → Prop where
  | reached {s : Session ω} {w : ω} (hopen : s.closed = false)
      (hprobe : Link.probe s.remote s.link = (.ok (), w)) :
      Moves s .reached { s with connected := true, link := w }
  | missed {s : Session ω} {w : ω} {reason : String} (hopen : s.closed = false)
      (hprobe : Link.probe s.remote s.link = (.error reason, w)) :
      Moves s (.missed reason) { s with link := Link.pause w }
  | exhausted {s : Session ω} {w : ω} {reason : String} (hopen : s.closed = false)
      (hprobe : Link.probe s.remote s.link = (.error reason, w)) :
      Moves s (.exhausted reason) { s with connected := false, link := w }
  | answered {s : Session ω} {w : ω} {arguments : List String} {text : String}
      (hconnected : s.connected = true)
      (hcall : Link.run arguments s.link = (.output text, w)) :
      Moves s (.answered arguments text) { s with link := w }
  | excused {s : Session ω} {w w' : ω} {arguments : List String} {reply : Reply}
      (hconnected : s.connected = true) (hcall : Link.run arguments s.link = (reply, w))
      (hfailed : ∀ text, reply ≠ .output text) (hprobe : Link.probe s.remote w = (.ok (), w')) :
      Moves s (.excused arguments reply) { s with link := w' }
  | lost {s : Session ω} {w w' : ω} {arguments : List String} {reply : Reply} {reason : String}
      (hconnected : s.connected = true) (hcall : Link.run arguments s.link = (reply, w))
      (hfailed : ∀ text, reply ≠ .output text)
      (hprobe : Link.probe s.remote w = (.error reason, w')) :
      Moves s (.lost arguments reply reason) { s with connected := false, link := w' }
  | closed (s : Session ω) : Moves s .closed { s with closed := true, connected := false }

/-- A session before some moments and after them. -/
inductive Passes : Session ω → List Moment → Session ω → Prop where
  | rest (s : Session ω) : Passes s [] s
  | step {s t u : Session ω} {ms : List Moment} {m : Moment} (hpast : Passes s ms t)
      (hmove : Moves t m u) : Passes s (ms ++ [m]) u

variable {s t u : Session ω} {ms ms' : List Moment} {m : Moment}

theorem Moves.passes (h : Moves s m t) : Passes s [m] t :=
  .step (.rest s) h

namespace Passes

theorem trans (h : Passes s ms t) (h' : Passes t ms' u) : Passes s (ms ++ ms') u := by
  induction h' with
  | rest =>
      rw [List.append_nil]
      exact h
  | step _ hmove ih =>
      rw [← List.append_assoc]
      exact .step ih hmove

theorem eq_of_nil (h : Passes s [] t) : t = s := by
  generalize hall : [] = all at h
  cases h with
  | rest =>
      rfl
  | step =>
      simp at hall

theorem last (h : Passes s (ms ++ [m]) u) : ∃ t, Passes s ms t ∧ Moves t m u := by
  generalize hall : ms ++ [m] = all at h
  cases h with
  | rest =>
      simp at hall
  | step hpast hmove =>
      rcases List.append_inj' hall rfl with ⟨rfl, hm⟩
      cases hm
      exact ⟨_, hpast, hmove⟩

/-- The session between two parts of what has passed. -/
theorem split (h : Passes s (ms ++ ms') u) : ∃ t, Passes s ms t ∧ Passes t ms' u := by
  induction ms' using List.reverseRecOn generalizing u with
  | nil =>
      rw [List.append_nil] at h
      exact ⟨u, h, .rest u⟩
  | append_singleton ms' m ih =>
      rw [← List.append_assoc] at h
      rcases h.last with ⟨v, hpast, hmove⟩
      rcases ih hpast with ⟨t, ht, ht'⟩
      exact ⟨t, ht, .step ht' hmove⟩

theorem first (h : Passes s (m :: ms) u) : ∃ t, Moves s m t ∧ Passes t ms u := by
  have hparts : Passes s ([] ++ [m] ++ ms) u := h
  rcases hparts.split with ⟨t, hfirst, hrest⟩
  rcases hfirst.last with ⟨s', hnothing, hmove⟩
  rw [hnothing.eq_of_nil] at hmove
  exact ⟨t, hmove, hrest⟩

theorem settings_eq (h : Passes s ms t) : t.settings = s.settings := by
  induction h with
  | rest =>
      rfl
  | step _ hmove ih =>
      cases hmove <;> exact ih

theorem remote_eq (h : Passes s ms t) : t.remote = s.remote := by
  induction h with
  | rest =>
      rfl
  | step _ hmove ih =>
      cases hmove <;> exact ih

end Passes

/-! ## The log of what has passed -/

section

variable {s t : Session (Logged ω)} {ms : List Moment} {m : Moment}

theorem Moves.log_eq (h : Moves s m t) : t.link.log = s.link.log ++ m.events := by
  cases h with
  | reached _ hprobe | exhausted _ hprobe =>
      exact Logged.log_of_probe hprobe
  | missed _ hprobe =>
      rw [Logged.log_pause, Logged.log_of_probe hprobe, List.append_assoc]
      rfl
  | answered _ hcall =>
      exact Logged.log_of_run hcall
  | excused _ hcall _ hprobe | lost _ hcall _ hprobe =>
      rw [Logged.log_of_probe hprobe, Logged.log_of_run hcall, List.append_assoc]
      rfl
  | closed =>
      exact (List.append_nil _).symm

theorem Passes.log_eq (h : Passes s ms t) :
    t.link.log = s.link.log ++ ms.flatMap Moment.events := by
  induction h with
  | rest =>
      exact (List.append_nil _).symm
  | @step t u ms m _ hmove ih =>
      rw [hmove.log_eq, ih, List.append_assoc, List.flatMap_append, List.flatMap_singleton]

end

/-! ## Connecting -/

/-- The session is in connection afterwards, or there is a connection error. -/
def Connects (s : Session ω) (outcome : Except StoreError Unit × Session ω) : Prop :=
  ∃ ms, Passes s ms outcome.2 ∧ ms.filterMap Moment.call? = [] ∧
    (outcome.1 = .ok () ∧ outcome.2.connected = true ∨
      ∃ cause, outcome.1 = .error (.connection s.settings.address cause))

theorem probe_of_ok {w : ω} (h : Link.probe s.remote s.link = (.ok (), w)) :
    s.probe = (.ok (), { s with link := w }) := by
  rw [probe, h]

theorem probe_of_error {w : ω} {reason : String}
    (h : Link.probe s.remote s.link = (.error reason, w)) :
    s.probe = (s.fault (.unreachable reason), { s with link := w }) := by
  rw [probe, h]
  rfl

/-- A pause or the end of the attempts follows a probe that fails. -/
theorem connects_attempt (n : Nat) {s : Session ω} (hopen : s.closed = false) :
    Connects s (s.attempt n) := by
  induction n generalizing s with
  | zero =>
      rcases hprobe : Link.probe s.remote s.link with ⟨⟨reason⟩ | ⟨⟨⟩⟩, w⟩
      · rw [attempt, probe_of_error hprobe]
        exact ⟨_, (Moves.exhausted hopen hprobe).passes, rfl, .inr ⟨_, rfl⟩⟩
      · rw [attempt, probe_of_ok hprobe]
        exact ⟨_, (Moves.reached hopen hprobe).passes, rfl, .inl ⟨rfl, rfl⟩⟩
  | succ n ih =>
      rcases hprobe : Link.probe s.remote s.link with ⟨⟨reason⟩ | ⟨⟨⟩⟩, w⟩
      · rw [attempt, probe_of_error hprobe]
        -- The mark of the session stays what it was until the attempts are over.
        rcases ih (s := { s with link := Link.pause w }) hopen with ⟨ms, hms, hquiet, hends⟩
        exact ⟨_, (Moves.missed hopen hprobe).passes.trans hms, hquiet, hends⟩
      · rw [attempt, probe_of_ok hprobe]
        exact ⟨_, (Moves.reached hopen hprobe).passes, rfl, .inl ⟨rfl, rfl⟩⟩

theorem reconnect_of_closed (hclosed : s.closed = true) :
    s.reconnect = (s.fault .closed, s) := by
  rw [reconnect, if_pos hclosed]

theorem connects_reconnect (s : Session ω) : Connects s s.reconnect := by
  cases hclosed : s.closed with
  | true =>
      rw [reconnect_of_closed hclosed]
      exact ⟨[], .rest s, rfl, .inr ⟨.closed, rfl⟩⟩
  | false =>
      rw [reconnect, if_neg (by simp [hclosed])]
      exact connects_attempt _ hclosed

/-! ## Calls of the tool -/

theorem moves_afterFailure {w : ω} {arguments : List String} {reply : Reply}
    (hconnected : s.connected = true) (hcall : Link.run arguments s.link = (reply, w))
    (hfailed : ∀ text, reply ≠ .output text) :
    ∃ m, Moves s m { s with link := w }.afterFailure ∧ m.call? = some (arguments, reply) := by
  rcases hprobe : Link.probe s.remote w with ⟨⟨reason⟩ | ⟨⟨⟩⟩, w'⟩
  · rw [afterFailure, probe_of_error (s := { s with link := w }) hprobe]
    exact ⟨_, .lost hconnected hcall hfailed hprobe, rfl⟩
  · rw [afterFailure, probe_of_ok (s := { s with link := w }) hprobe]
    exact ⟨_, .excused hconnected hcall hfailed hprobe, rfl⟩

theorem moves_call (hconnected : s.connected = true) (arguments : List String) :
    ∃ m reply, Moves s m (s.call arguments).2 ∧
      m.call? = some (s.fullArguments arguments, reply) ∧
      (s.call arguments).1 = s.answer reply := by
  rcases hcall : Link.run (s.fullArguments arguments) s.link with ⟨reply, w⟩
  have hcall' := hcall
  unfold fullArguments at hcall'
  cases reply with
  | output text =>
      rw [call, hcall']
      exact ⟨_, _, .answered hconnected hcall, rfl, rfl⟩
  | failed cause =>
      rcases moves_afterFailure hconnected hcall (by simp) with ⟨m, hm, hcall?⟩
      rw [call, hcall']
      exact ⟨m, _, hm, hcall?, rfl⟩
  | hung =>
      rcases moves_afterFailure hconnected hcall (by simp) with ⟨m, hm, hcall?⟩
      rw [call, hcall']
      exact ⟨m, _, hm, hcall?, rfl⟩

/-- The tool is called once, unless the session cannot be brought into connection. -/
theorem passes_run (s : Session ω) (arguments : List String) :
    ∃ ms, Passes s ms (s.run arguments).2 ∧
      (ms.filterMap Moment.call? = [] ∧ s.connected = false ∧
          (∃ cause, s.reconnect.1 = .error (.connection s.settings.address cause) ∧
            (s.run arguments).1 = .error (.connection s.settings.address cause)) ∨
        ∃ reply, ms.filterMap Moment.call? = [(s.fullArguments arguments, reply)] ∧
          (s.run arguments).1 = s.answer reply) := by
  cases hconnected : s.connected with
  | true =>
      rcases moves_call hconnected arguments with ⟨m, reply, hm, hcall, hanswer⟩
      rw [run, if_pos hconnected]
      exact ⟨[m], hm.passes, .inr ⟨reply, by simp [hcall], hanswer⟩⟩
  | false =>
      rw [run, if_neg (by simp [hconnected])]
      rcases connects_reconnect s with ⟨ms, hms, hquiet, ⟨hok, hready⟩ | ⟨cause, herror⟩⟩
      · simp only [hok]
        rcases moves_call hready arguments with ⟨m, reply, hm, hcall, hanswer⟩
        rw [fullArguments, hms.settings_eq, hms.remote_eq] at hcall
        rw [answer_eq_of_settings_eq hms.settings_eq] at hanswer
        exact ⟨ms ++ [m], .step hms hm, .inr ⟨reply, by simp [hquiet, hcall, fullArguments],
          hanswer⟩⟩
      · simp only [herror]
        exact ⟨ms, hms, .inl ⟨hquiet, trivial, cause, rfl, rfl⟩⟩

end Session
end LogicalNet
