import ApprovalWatch.Proofs.Accounts
import ApprovalWatch.Proofs.Display
import ApprovalWatch.Proofs.Rules

/-!
# How much a session can count

Attempts are at least a delay apart, and none is made after the deadline. So a session with valid
settings and a deadline makes no more attempts than there are delays until then, and one more. As no
deadline is later than a timer can count, none of its counts outgrows thirty-two bits.

Main results:

* `Scenario.Attempted.delays_le`: a look comes after as many delays as there were looks before it.
* `Reaches.attempts_le`: how many attempts a session has made at most.
* `attempts_bounded`: the bound on the counts of sessions, under way and at their end.
-/

namespace ApprovalWatch

/-- None of the counts is above a number. -/
structure Tally.AtMost (tally : Tally) (n : Nat) : Prop where
  identifierRetries : tally.identifierRetries ≤ n
  queries : tally.queries ≤ n
  pendingResponses : tally.pendingResponses ≤ n
  transientFailures : tally.transientFailures ≤ n
  consecutiveFailures : tally.consecutiveFailures ≤ n

theorem Tally.AtMost.mono {tally : Tally} {m n : Nat} (h : tally.AtMost m) (hle : m ≤ n) :
    tally.AtMost n :=
  ⟨h.identifierRetries.trans hle, h.queries.trans hle, h.pendingResponses.trans hle,
    h.transientFailures.trans hle, h.consecutiveFailures.trans hle⟩

/-! ## Attempts and delays -/

section Looks

variable {σ : Type} {ask : Source σ} {c : Scenario σ}

/-- The next look comes a delay after the latest one, or later. -/
theorem Settings.delay_le_nextLook {s : Settings} {src : σ} {l : Look} {looks : List Look}
    {nextMs : Nat} (h : s.nextLook? ask src (l :: looks) = some nextMs) :
    l.atMs + s.retry.delayMs ≤ nextMs := by
  obtain ⟨atMs, found⟩ := l
  cases found with
  | none =>
    cases h
    exact Nat.le_refl _
  | some id =>
    rw [nextLook?] at h
    split at h
    · cases h
    · obtain ⟨latencyMs, -, rfl⟩ := Option.map_eq_some_iff.mp h
      dsimp only
      omega

/-- A look comes after as many delays as there were looks before it. -/
theorem Scenario.Attempted.delays_le {l : Look} {looks : List Look}
    (h : c.Attempted ask (l :: looks)) : looks.length * c.settings.retry.delayMs ≤ l.atMs := by
  induction looks generalizing l with
  | nil => simp
  | cons l' looks ih =>
    cases h with
    | look earlier due =>
      have hbefore := ih earlier
      have hnext := Settings.delay_le_nextLook due
      rw [List.length_cons, Nat.succ_mul]
      omega

/-- Every look finds an identifier or misses it. -/
theorem Look.countP_add_length (looks : List Look) :
    looks.countP (·.found.isNone) + (identifiers looks).length = looks.length := by
  induction looks with
  | nil => rfl
  | cons l looks ih =>
    obtain ⟨atMs, found⟩ := l
    cases found with
    | none =>
      rw [identifiers_none, List.countP_cons_of_pos rfl, List.length_cons]
      omega
    | some id =>
      rw [identifiers_some, List.countP_cons_of_neg (by simp), List.length_cons, List.length_cons]
      omega

/-- Every attempt is counted once. -/
theorem Attempts.History.attempts_eq {s : Settings} {src : σ} {a : Attempts σ}
    (h : History s ask src a) :
    a.inquiry.tally.identifierRetries + a.inquiry.tally.queries = a.journal.looks.length := by
  have hqueries := congrArg List.length h.identifiers_eq
  rw [List.length_map] at hqueries
  rw [h.identifierRetries_eq, h.queries_eq, hqueries, Look.countP_add_length]

end Looks

/-! ## Sessions -/

theorem Settings.delay_pos_of_valid {s : Settings} (valid : s.validate = .ok ()) :
    0 < s.retry.delayMs :=
  holds_of_valid valid .delay

/-- No more than this many milliseconds can pass before a deadline. -/
theorem Deadline.ms_le (d : Deadline) : d.ms ≤ 2147483000 := by
  have := d.secs_le
  simp only [Timeout.maxSecs] at this
  rw [Deadline.ms]
  omega

/-- As many attempts as there are delays before the deadline, and one more. -/
def Scenario.mostAttempts {σ : Type} (c : Scenario σ) : Nat :=
  (Deadline.ofPage c.page c.settings).ms / c.settings.retry.delayMs + 1

namespace Session

variable {σ : Type} {ask : Source σ} {c : Scenario σ} {t : Session σ}

/-- A session with a deadline makes as many attempts as there are delays before it, and one more. -/
theorem Reaches.attempts_le (h : Reaches ask c t) (delayed : 0 < c.settings.retry.delayMs)
    (hd : Deadline.ofSession? c.page c.settings = some (Deadline.ofPage c.page c.settings)) :
    t.attempts.inquiry.tally.identifierRetries + t.attempts.inquiry.tally.queries ≤
      c.mostAttempts := by
  rw [h.history.attempts_eq]
  have hattempted := h.attempted
  have hpast := h.look_le
  cases hlooks : t.attempts.journal.looks with
  | nil => exact Nat.zero_le _
  | cons l looks =>
    rw [hlooks] at hattempted hpast
    have hlast : looks.length * c.settings.retry.delayMs ≤
        (Deadline.ofPage c.page c.settings).ms :=
      calc looks.length * c.settings.retry.delayMs
        _ ≤ l.atMs := hattempted.delays_le
        _ ≤ t.nowMs := hpast l List.mem_cons_self
        _ ≤ (Deadline.ofPage c.page c.settings).ms := h.nowMs_le_deadline hd
    exact Nat.succ_le_succ ((Nat.le_div_iff_mul_le delayed).mpr hlast)

/-- Nothing is counted more often than attempts are made. -/
theorem Reaches.tally_atMost (h : Reaches ask c t) :
    t.attempts.inquiry.tally.AtMost
      (t.attempts.inquiry.tally.identifierRetries + t.attempts.inquiry.tally.queries) := by
  have hqueries := h.balanced.queries
  have hstreak := h.balanced.streak
  constructor <;> omega

/-- **How much a session can count.** A session of valid settings with a deadline, whatever timeout
its page carries, makes at most as many attempts as there are delays before the deadline, and one
more. That is a number of thirty-two bits, and no count of the session is above it, at any instant
or at its end. -/
theorem attempts_bounded (ask : Source σ) (valid : c.settings.validate = .ok ())
    (enabled : c.settings.deadline.enabled = true) :
    c.mostAttempts =
        1000 * (Deadline.ofPage c.page c.settings).secs / c.settings.retry.delayMs + 1 ∧
      c.mostAttempts ≤ 2147483001 ∧ 2147483001 < UInt32.size ∧
      (∀ t, Reaches ask c t →
        t.attempts.inquiry.tally.identifierRetries + t.attempts.inquiry.tally.queries ≤
          c.mostAttempts ∧
        t.attempts.inquiry.tally.AtMost c.mostAttempts) ∧
      ∀ order t, Finishes order ask c t →
        (report c t).deadlineSecs = some (Deadline.ofPage c.page c.settings).secs ∧
        (report c t).tally.identifierRetries + (report c t).tally.queries ≤ c.mostAttempts ∧
        (report c t).tally.AtMost c.mostAttempts := by
  have hd : Deadline.ofSession? c.page c.settings = some (Deadline.ofPage c.page c.settings) := by
    rw [Deadline.ofSession?, if_pos enabled]
  have hreaches : ∀ t, Reaches ask c t →
      t.attempts.inquiry.tally.identifierRetries + t.attempts.inquiry.tally.queries ≤
        c.mostAttempts ∧ t.attempts.inquiry.tally.AtMost c.mostAttempts := by
    intro t h
    have hle := h.attempts_le (Settings.delay_pos_of_valid valid) hd
    exact ⟨hle, h.tally_atMost.mono hle⟩
  refine ⟨rfl, ?_, by decide, hreaches, ?_⟩
  · have hms := (Deadline.ofPage c.page c.settings).ms_le
    exact Nat.succ_le_succ ((Nat.div_le_self _ _).trans hms)
  · intro order t h
    obtain ⟨v, hv, -, rfl⟩ := h.reaches
    rw [report, close_attempts, Attempts.abandon_inquiry, hd]
    exact ⟨rfl, hreaches v hv⟩

/-- A session without an identifier, whose last attempt is due at the deadline. -/
def punctual : Scenario (List Answer) where
  settings := { retry := { delayMs := 500 } }
  page := { attributes := [(("countdown", "redirect-seconds"), " 2s")] }
  source := []

theorem attempts_bounded_punctual :
    punctual.settings.validate = .ok () ∧
    ∃ t, Finishes Order.usual (Script.ask "PENDING") punctual t ∧
      (report punctual t).tally.identifierRetries = 5 ∧
      (report punctual t).tally.AtMost 5 := by
  have valid : punctual.settings.validate = .ok () :=
    Settings.validate_eq_ok_iff.mpr (by decide +kernel)
  have hends : (run Order.usual (Script.ask "PENDING") 12 (Session.start punctual)).map
      (·.attempts.inquiry.tally.identifierRetries) = some 5 := by
    decide +kernel
  obtain ⟨t, ht, hretries⟩ := Option.map_eq_some_iff.mp hends
  obtain ⟨hmost, -, -, -, hfinishes⟩ :=
    attempts_bounded (c := punctual) (Script.ask "PENDING") valid rfl
  obtain ⟨-, -, hatMost⟩ := hfinishes Order.usual t ⟨12, ht⟩
  have hfive : punctual.mostAttempts = 5 := hmost.trans (by decide +kernel)
  exact ⟨valid, t, ⟨12, ht⟩, hretries, hfive ▸ hatMost⟩

end Session

end ApprovalWatch
