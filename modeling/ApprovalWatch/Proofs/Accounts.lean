import ApprovalWatch.Proofs.Schedule

/-!
# The accounts of a session

Every query of a session is accounted for once: as a pending answer, as a failure, as the answer
that concludes the session, or as dropped. What is measured agrees with what is counted.

Main results:

* `Balanced.decide`: a reply takes a query from those in flight to one of the others.
* `Reaches.balanced`: the accounts balance in every state.
* `finishes_balanced`: they balance at the end, but for the query that is dropped there.
-/

namespace ApprovalWatch

/-! ## Conclusions -/

namespace Conclusion

/-- A status concluded the session. -/
def isByStatus : Conclusion → Bool
  | succeeded .. => true
  | failed (.terminalStatus _) _ => true
  | failed .transportExhausted _ => false
  | failed .deadlineExceeded _ => false

/-- Failures in a row concluded the session. -/
def isByExhaustion : Conclusion → Bool
  | succeeded .. => false
  | failed (.terminalStatus _) _ => false
  | failed .transportExhausted _ => true
  | failed .deadlineExceeded _ => false

end Conclusion

/-! ## Series -/

namespace Metric

/-- How often a series was measured. -/
def inSeries (name : String) (ms : List Metric) : Nat :=
  ms.countP (·.name = name)

/-- How often queries with an outcome were counted. -/
def outcomes (o : QueryOutcome) (ms : List Metric) : Nat :=
  ms.countP fun m => m.name = "poller_queries_total" ∧ m.labels = [("outcome", o.label)]

variable (o : QueryOutcome) (ms : List Metric)

theorem inSeries_cons (name : String) (m : Metric) :
    inSeries name (m :: ms) = inSeries name ms + if m.name = name then 1 else 0 := by
  simp [inSeries, List.countP_cons]

@[simp] theorem outcomes_query (o' : QueryOutcome) :
    outcomes o (.query o' :: ms) = outcomes o ms + if o' = o then 1 else 0 := by
  rw [outcomes, List.countP_cons]
  cases o <;> cases o' <;> rfl

@[simp] theorem outcomes_queryDuration (durationMs : Nat) :
    outcomes o (.queryDuration durationMs :: ms) = outcomes o ms := by
  simp [outcomes, name]

@[simp] theorem outcomes_identifierRetry :
    outcomes o (.identifierRetry :: ms) = outcomes o ms := by
  simp [outcomes, name]

@[simp] theorem outcomes_session (kind code : String) :
    outcomes o (.session kind code :: ms) = outcomes o ms := by
  simp [outcomes, name]

end Metric

/-! ## Balance -/

/-- The accounts of a session with so many queries in flight: what is counted, what is measured, and
how the session was concluded. -/
structure Balanced (tally : Tally) (ms : List Metric) (k : Option Conclusion) (inFlight : Nat) :
    Prop where
  queries : tally.queries =
    tally.pendingResponses + tally.transientFailures + (k.any Conclusion.isByStatus).toNat +
      inFlight
  streak : tally.consecutiveFailures ≤ tally.transientFailures
  pending : Metric.outcomes .pending ms = tally.pendingResponses
  transient : Metric.outcomes .transient ms + (k.any Conclusion.isByExhaustion).toNat =
    tally.transientFailures
  success : Metric.outcomes .success ms = (k.any Conclusion.isSuccess).toNat
  failure : Metric.outcomes .failure ms =
    (k.any fun k => k.isByExhaustion || k.isByStatus && !k.isSuccess).toNat
  /-- No other outcomes are counted. -/
  answered : Metric.inSeries "poller_queries_total" ms + inFlight = tally.queries
  durations : Metric.inSeries "poller_query_duration_seconds" ms + inFlight = tally.queries
  retries : Metric.inSeries "poller_identifier_retries_total" ms = tally.identifierRetries

namespace Balanced

variable {tally tally' : Tally} {ms : List Metric} {k : Option Conclusion} {n : Nat} {s : Settings}
  {q : Inquiry}

theorem start : Balanced {} [] none 0 := by
  constructor <;> rfl

theorem miss (h : Balanced q.tally ms k n) :
    Balanced q.missIdentifier.tally (.identifierRetry :: ms) k n := by
  obtain ⟨queries, streak, pending, transient, success, failure, answered, durations, retries⟩ := h
  constructor <;> simp_all [Inquiry.missIdentifier, Metric.inSeries_cons, Metric.name]

theorem ask (h : Balanced q.tally ms none 0) (id : String) :
    Balanced (q.ask id).tally ms none 1 := by
  obtain ⟨queries, streak, pending, transient, success, failure, answered, durations, retries⟩ := h
  constructor <;> simp_all [Inquiry.ask]

/-- A reply is accounted for by what is decided. -/
theorem decide {reply : Reply} {tr : Transition} (h : Balanced tally ms none 1)
    (decides : Inquiry.Decides s tally reply tally' tr) (durationMs : Nat) :
    Balanced tally' (.queryDuration durationMs :: .query tr.outcome :: ms) (s.concluded? tr) 0 := by
  obtain ⟨queries, streak, pending, transient, success, failure, answered, durations, retries⟩ := h
  cases decides with
  | success | terminal | pending | exhausted | transient =>
    constructor <;>
      simp_all [Metric.inSeries_cons, Metric.name, Transition.outcome, Settings.concluded?,
        Settings.conclusion, Settings.failed, Conclusion.isByStatus, Conclusion.isByExhaustion,
        Conclusion.isSuccess]
      <;> omega

/-- The end of a session is counted in a series of its own. -/
theorem session (h : Balanced tally ms k n) (kind code : String) :
    Balanced tally (.session kind code :: ms) k n := by
  obtain ⟨queries, streak, pending, transient, success, failure, answered, durations, retries⟩ := h
  constructor <;> simp_all [Metric.inSeries_cons, Metric.name]

/-- A deadline has no query to account for. -/
theorem deadline (h : Balanced tally ms none n) (s : Settings) :
    Balanced tally ms (some (s.failed .deadlineExceeded)) n := by
  obtain ⟨queries, streak, pending, transient, success, failure, answered, durations, retries⟩ := h
  exact ⟨queries, streak, pending, transient, success, failure, answered, durations, retries⟩

end Balanced

namespace Attempts

variable {σ : Type} {s : Settings} {ask : Source σ} {src : σ} {a b : Attempts σ} {nowMs : Nat}
  {identifier : Option String} {r : Option Transition}

/-- How many queries the attempts wait for. -/
def waiting (a : Attempts σ) : Nat :=
  match a.activity with
  | .asking .. => 1
  | _ => 0

theorem waiting_of_resting (h : a.isResting = true) : a.waiting = 0 := by
  unfold isResting at h
  unfold waiting
  cases hact : a.activity <;> simp_all

theorem waiting_le (a : Attempts σ) : a.waiting ≤ 1 := by
  unfold waiting
  split <;> decide

theorem History.inFlight_eq (h : History s ask src a) :
    Journal.inFlight a.journal.flights = a.waiting := by
  cases h.stage with
  | resting activity _ _ aloft | asking _ activity _ aloft | ended activity _ _ _ aloft =>
    rw [aloft.inFlight_eq, waiting, activity]

theorem complete_waiting (s : Settings) (a : Attempts σ) (nowMs sinceMs : Nat) (reply : Reply) :
    (complete s a nowMs sinceMs reply).1.waiting = 0 := by
  unfold complete waiting
  dsimp only
  cases (a.inquiry.interpret s reply).2 <;> rfl

theorem complete_balanced (h : Balanced a.inquiry.tally a.journal.metrics none 1)
    (sinceMs : Nat) (reply : Reply) :
    Balanced (complete s a nowMs sinceMs reply).1.inquiry.tally
      (complete s a nowMs sinceMs reply).1.journal.metrics
      (s.concluded? (complete s a nowMs sinceMs reply).2)
      (complete s a nowMs sinceMs reply).1.waiting := by
  rw [complete_waiting]
  exact h.decide (Inquiry.interpret_decides s a.inquiry reply) (nowMs - sinceMs)

/-- Whatever attempts do, their accounts balance. -/
theorem act_balanced (h : Balanced a.inquiry.tally a.journal.metrics none a.waiting)
    (eq : act s ask a nowMs identifier = (b, r)) :
    Balanced b.inquiry.tally b.journal.metrics (r.bind s.concluded?) b.waiting := by
  cases act_acts eq with
  | miss rests =>
    rw [waiting_of_resting rests] at h
    exact h.miss
  | launch rests =>
    rw [waiting_of_resting rests] at h
    exact h.ask _
  | answer rests _ launched =>
    rw [waiting_of_resting rests] at h
    subst launched
    exact complete_balanced (h.ask _) nowMs _
  | complete asks =>
    have hwaiting : a.waiting = 1 := by rw [waiting, asks]
    rw [hwaiting] at h
    exact complete_balanced h _ _
  | ended => exact h

theorem abandon_metrics (a : Attempts σ) : a.abandon.journal.metrics = a.journal.metrics := by
  unfold abandon; split <;> rfl

end Attempts

namespace Session

variable {σ : Type} {ask : Source σ} {c : Scenario σ} {t v : Session σ}

/-! ## The accounts of a session -/

/-- The accounts of a session balance, with the query that it waits for. -/
theorem Reaches.balanced (h : Reaches ask c t) :
    Balanced t.attempts.inquiry.tally t.attempts.journal.metrics t.latch.get?
      t.attempts.waiting := by
  induction h with
  | start => exact Balanced.start
  | @step t u _ hr runs hs ih =>
    have hl := hr.latch_eq_none runs
    rw [hl] at ih
    cases hs with
    | clock | countdown | host | page => exact hl ▸ ih
    | @attempt _ a r _ _ eq goes =>
      have hk : r.bind t.settings.concluded? = none := by
        match r with
        | none => rfl
        | some (.retry _) => rfl
        | some (.resolve x) => exact absurd rfl (goes x)
      rw [show (t.proceed a).latch.get? = none from hl, ← hk]
      exact Attempts.act_balanced ih eq
    | @resolve _ a r _ _ eq =>
      rw [get?_settle (t.proceed a) hl]
      exact (Attempts.act_balanced ih eq).session _ _
    | deadline =>
      rw [get?_settle { t with deadline := none } hl]
      exact (ih.deadline t.settings).session _ _

theorem EndsIn.reaches {order : Order} (h : EndsIn order ask c v) : Reaches ask c v := by
  obtain ⟨-, n, hv⟩ := h
  exact Reaches.start.advance hv

/-- **Every query is accounted for.** When a session ends, its queries are those whose answers were
pending, those that failed, the one whose answer concluded it, if that has a status, and the one
that was in flight, if there was one. So many of them are measured with each outcome, the last
failure as the end of the session if it was one too many, and the duration of all that were
answered. Nothing else is measured in these series, but the attempts without an identifier in a
series of their own. -/
theorem finishes_balanced {order : Order} (h : Finishes order ask c t) :
    ∃ v, EndsIn order ask c v ∧ t = v.close ∧
      Journal.inFlight v.attempts.journal.flights ≤ 1 ∧
      Balanced (report c t).tally t.attempts.journal.metrics (report c t).conclusion
        (Journal.inFlight v.attempts.journal.flights) := by
  obtain ⟨v, hends, rfl⟩ := finishes_iff.mp h
  have hv := hends.reaches
  have hflights := hv.history.inFlight_eq
  refine ⟨v, hends, rfl, ?_, ?_⟩
  · rw [hflights]
    exact v.attempts.waiting_le
  · rw [hflights, report, close_attempts, close_latch, Attempts.abandon_inquiry,
      Attempts.abandon_metrics]
    exact hv.balanced

/-- A session whose third query is never answered before the deadline. -/
def overtaken : Scenario (List Answer) where
  settings := { retry := { delayMs := 500 }, deadline := { timeoutSecs := 3 } }
  page := { inputs := [("pushAuthPushId", "p-1")] }
  hiddenReads := 1
  source := [⟨some 300, .ok "PENDING"⟩, ⟨some 200, .error .transport⟩, ⟨none, .ok "APPROVED"⟩]

theorem finishes_balanced_overtaken :
    ∃ t, Finishes Order.usual (Script.ask "PENDING") overtaken t ∧
      (report overtaken t).tally = ⟨1, 3, 1, 1, 1⟩ ∧
      Metric.outcomes .pending t.attempts.journal.metrics = 1 ∧
      Metric.outcomes .transient t.attempts.journal.metrics = 1 ∧
      Metric.outcomes .failure t.attempts.journal.metrics = 0 := by
  have hends : (run Order.usual (Script.ask "PENDING") 12 (Session.start overtaken)).map
      (fun t => (t.attempts.inquiry.tally, t.latch.get?)) =
        some (⟨1, 3, 1, 1, 1⟩, some (.failed .deadlineExceeded "/cas/login")) := by
    decide +kernel
  obtain ⟨t, ht, hends⟩ := Option.map_eq_some_iff.mp hends
  obtain ⟨htally, hconclusion⟩ := Prod.mk.inj hends
  have htally : (report overtaken t).tally = ⟨1, 3, 1, 1, 1⟩ := htally
  have hconclusion : (report overtaken t).conclusion = _ := hconclusion
  obtain ⟨v, -, -, -, hbalanced⟩ := finishes_balanced ⟨12, ht⟩
  rw [htally, hconclusion] at hbalanced
  exact ⟨t, ⟨12, ht⟩, htally, hbalanced.pending, hbalanced.transient, hbalanced.failure⟩

end Session

end ApprovalWatch
