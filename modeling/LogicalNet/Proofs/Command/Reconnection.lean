import LogicalNet.Proofs.Command.Connection

/-!
# Attempts to connect

A session that is not closed tries to connect a bounded number of times.  It probes the
database up to the first success, or until the attempts are used up, and pauses between one
probe and the next.  What the last probe says is what the session says, and the mark of the
session is set by it.
-/

namespace LogicalNet

/-! ## Outcomes of probes -/

/-- What the link answers to so many probes, with a pause behind each. -/
def Link.answers {ω : Type} [Link ω] (remote : Remote) : Nat → ω → List (Except String Unit)
  | 0, _ => []
  | n + 1, w =>
      (Link.probe remote w).1 :: answers remote n (Link.pause (Link.probe remote w).2)

theorem Link.answers_of_probe {ω : Type} [Link ω] {remote : Remote} {w w' : ω}
    {outcome : Except String Unit} (h : Link.probe remote w = (outcome, w')) (n : Nat) :
    Link.answers remote (n + 1) w = outcome :: Link.answers remote n (Link.pause w') := by
  rw [answers, h]

theorem Link.length_answers {ω : Type} [Link ω] (remote : Remote) (n : Nat) (w : ω) :
    (Link.answers remote n w).length = n := by
  induction n generalizing w with
  | zero =>
      rfl
  | succ n ih =>
      rw [answers, List.length_cons, ih]

/-- The log changes no answer. -/
theorem Logged.answers_eq {ω : Type} [Link ω] (remote : Remote) (n : Nat) (w : Logged ω) :
    Link.answers remote n w = Link.answers remote n w.link := by
  induction n generalizing w with
  | zero =>
      rfl
  | succ n ih =>
      rw [Link.answers, ih]
      rfl

/-- The outcomes up to the first success, or all of them without one. -/
def untilReached : List (Except String Unit) → List (Except String Unit)
  | [] => []
  | .ok () :: _ => [.ok ()]
  | .error reason :: rest => .error reason :: untilReached rest

theorem untilReached_prefix (outcomes : List (Except String Unit)) :
    untilReached outcomes <+: outcomes := by
  induction outcomes with
  | nil =>
      exact List.prefix_rfl
  | cons outcome outcomes ih =>
      rcases outcome with reason | ⟨⟨⟩⟩
      · exact (List.prefix_cons_inj _).mpr ih
      · exact ⟨outcomes, rfl⟩

/-- Nothing is looked at behind the first success. -/
theorem not_mem_dropLast_untilReached (outcomes : List (Except String Unit)) :
    .ok () ∉ (untilReached outcomes).dropLast := by
  induction outcomes with
  | nil =>
      exact List.not_mem_nil
  | cons outcome outcomes ih =>
      rcases outcome with reason | ⟨⟨⟩⟩
      · rw [untilReached]
        cases hrest : untilReached outcomes with
        | nil =>
            exact List.not_mem_nil
        | cons next rest =>
            rw [hrest] at ih
            rw [List.dropLast_cons_cons, List.mem_cons, not_or]
            exact ⟨by simp, ih⟩
      · exact List.not_mem_nil

/-- Without a success all outcomes are looked at. -/
theorem untilReached_eq_self {outcomes : List (Except String Unit)}
    (h : .ok () ∉ untilReached outcomes) : untilReached outcomes = outcomes := by
  induction outcomes with
  | nil =>
      rfl
  | cons outcome outcomes ih =>
      rcases outcome with reason | ⟨⟨⟩⟩
      · rw [untilReached, List.mem_cons, not_or] at h
        rw [untilReached, ih h.2]
      · exact absurd List.mem_cons_self h

namespace Session

variable {ω : Type} [Link ω]

/-- The error for the reason of a failed probe. -/
def unreached (s : Session ω) (reason : String) : StoreError :=
  .connection s.settings.address (.unreachable reason)

/-! ## The attempts of a session -/

/-- What a session has done, says and is marked with once the last of its probes has the outcome
`last`. -/
structure Tried (s : Session (Logged ω)) (probes : List (Except String Unit))
    (last : Except String Unit) (result : Except StoreError Unit × Session (Logged ω)) : Prop where
  getLast?_eq : probes.getLast? = some last
  log_eq : result.2.link.log =
    s.link.log ++ (probes.map LinkEvent.probe).intersperse .pause
  outcome_eq : result.1 = last.mapError s.unreached
  connected_eq : result.2.connected = last.toBool

/-- A further attempt comes behind a failed probe and a pause. -/
theorem Tried.missed {s : Session (Logged ω)} {w : Logged ω} {reason : String}
    {probes : List (Except String Unit)} {last : Except String Unit}
    {result : Except StoreError Unit × Session (Logged ω)}
    (hprobe : Link.probe s.remote s.link = (.error reason, w))
    (h : Tried { s with link := Link.pause w } probes last result) :
    Tried s (.error reason :: probes) last result := by
  cases probes with
  | nil =>
      cases h.getLast?_eq
  | cons next probes =>
      refine ⟨h.getLast?_eq, ?_, h.outcome_eq, h.connected_eq⟩
      rw [h.log_eq, Logged.log_pause, Logged.log_of_probe hprobe]
      simp only [List.map_cons, List.intersperse_cons_cons, List.append_assoc, List.cons_append,
        List.nil_append]

theorem tried_attempt (n : Nat) (s : Session (Logged ω)) :
    ∃ last, Tried s (untilReached (Link.answers s.remote (n + 1) s.link)) last (s.attempt n) := by
  induction n generalizing s with
  | zero =>
      rcases hprobe : Link.probe s.remote s.link with ⟨⟨reason⟩ | ⟨⟨⟩⟩, w⟩
      · rw [attempt, probe_of_error hprobe, Link.answers_of_probe hprobe]
        exact ⟨.error reason, rfl, Logged.log_of_probe hprobe, rfl, rfl⟩
      · rw [attempt, probe_of_ok hprobe, Link.answers_of_probe hprobe]
        exact ⟨.ok (), rfl, Logged.log_of_probe hprobe, rfl, rfl⟩
  | succ n ih =>
      rcases hprobe : Link.probe s.remote s.link with ⟨⟨reason⟩ | ⟨⟨⟩⟩, w⟩
      · rw [attempt, probe_of_error hprobe, Link.answers_of_probe hprobe]
        rcases ih { s with link := Link.pause w } with ⟨last, h⟩
        exact ⟨last, h.missed hprobe⟩
      · rw [attempt, probe_of_ok hprobe, Link.answers_of_probe hprobe]
        exact ⟨.ok (), rfl, Logged.log_of_probe hprobe, rfl, rfl⟩

/-- The most probes that a session makes in a row. -/
def greatestAttempts (s : Session ω) : Nat :=
  max 1 s.settings.reconnectAttempts.toNat

theorem tried_reconnect {s : Session ω} (hopen : s.closed = false) :
    ∃ last, Tried s.logged (untilReached (Link.answers s.remote s.greatestAttempts s.link)) last
      s.logged.reconnect := by
  have hcount : s.settings.reconnectAttempts.toNat - 1 + 1 = s.greatestAttempts := by
    unfold greatestAttempts
    omega
  have hreconnect : s.logged.reconnect =
      s.logged.attempt (s.settings.reconnectAttempts.toNat - 1) := by
    have hlogged : ¬ s.logged.closed = true := by simp [logged, hopen]
    rw [reconnect, if_neg hlogged]
    rfl
  rcases tried_attempt (s.settings.reconnectAttempts.toNat - 1) s.logged with ⟨last, h⟩
  rw [hcount, Logged.answers_eq] at h
  rw [hreconnect]
  exact ⟨last, h⟩

/-- A session that is not closed probes up to the first success, at least once and no more often
than its settings say, with one pause between each probe and the next and none behind the last.
Without a success it makes all the attempts that it may.  It succeeds exactly if one of its probes
did, otherwise it fails for the reason of the last one, and its mark is set accordingly. -/
theorem reconnect_bounded {s : Session ω} (hopen : s.closed = false) :
    let result := s.logged.reconnect
    s.reconnect = forgetLog result ∧
    ∃ probes last, probes <+: Link.answers s.remote s.greatestAttempts s.link ∧
      probes.getLast? = some last ∧
      probes.length ≤ s.greatestAttempts ∧
      .ok () ∉ probes.dropLast ∧
      (.ok () ∉ probes → probes.length = s.greatestAttempts) ∧
      result.2.link.log = (probes.map LinkEvent.probe).intersperse .pause ∧
      (result.1 = .ok () ↔ .ok () ∈ probes) ∧
      result.1 = last.mapError s.unreached ∧
      result.2.connected = result.1.toBool := by
  rcases tried_reconnect hopen with ⟨last, h⟩
  have hprefix := untilReached_prefix (Link.answers s.remote s.greatestAttempts s.link)
  have hearly := not_mem_dropLast_untilReached (Link.answers s.remote s.greatestAttempts s.link)
  have hlength := Link.length_answers s.remote s.greatestAttempts s.link
  refine ⟨reconnect_forget s.logged, _, last, hprefix, h.getLast?_eq, ?bounded, hearly, ?all, ?log,
    ?success, h.outcome_eq, ?mark⟩
  case bounded =>
    exact Nat.le_trans hprefix.length_le (Nat.le_of_eq hlength)
  case all =>
    intro hnone
    rw [untilReached_eq_self hnone, hlength]
  case log =>
    rw [h.log_eq]
    rfl
  case success =>
    rcases List.getLast?_eq_some_iff.mp h.getLast?_eq with ⟨missed, hprobes⟩
    rw [hprobes, List.dropLast_concat] at hearly
    rw [h.outcome_eq, hprobes, List.mem_append, List.mem_singleton]
    rcases last with reason | ⟨⟨⟩⟩
    · simp [Except.mapError, hearly]
    · simp [Except.mapError]
  case mark =>
    rw [h.connected_eq, h.outcome_eq]
    cases last <;> rfl

/-! ### A success at the second attempt -/

/-- Three attempts allowed, and a database that answers from the second on. -/
def answeredLate : Session Script :=
  ⟨{ reconnectAttempts := 3 }, .tcp "127.0.0.1" 6641, false, false,
    ⟨[], [.error "refused", .ok (), .ok ()]⟩⟩

theorem reconnect_bounded_answeredLate :
    answeredLate.closed = false ∧
      (∃ probes : List (Except String Unit), probes.length ≤ 3 ∧ .ok () ∈ probes ∧
        answeredLate.logged.reconnect.2.link.log =
          (probes.map LinkEvent.probe).intersperse .pause) ∧
      answeredLate.logged.reconnect.2.link.log =
        [.probe (.error "refused"), .pause, .probe (.ok ())] ∧
      answeredLate.reconnect.2.connected = true := by
  rcases reconnect_bounded (s := answeredLate) rfl with
    ⟨hforget, probes, _, _, _, hlength, _, _, hlog, hsuccess, _, hmark⟩
  refine ⟨rfl, ⟨probes, hlength, hsuccess.mp rfl, hlog⟩, rfl, ?_⟩
  rw [hforget]
  exact hmark

end Session
end LogicalNet
