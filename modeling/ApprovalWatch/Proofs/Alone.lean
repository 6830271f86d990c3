import ApprovalWatch.Proofs.Schedule

/-!
# Attempts on their own

What the attempts of a session would do if nothing but a reply ended it. As long as a session runs,
its attempts are at what they would be at on their own, whatever the other parts do.

Main results:

* `alone_due?`: on their own, attempts go forward in time.
* `ResolvesAt.unique`: they are resolved once at most.
* `Reaches.alone`: a session that runs is at what its attempts would be at on their own.
-/

namespace ApprovalWatch

namespace Scenario

variable {σ : Type} {c : Scenario σ} {ask : Source σ}

/-! ## Attempts without a session -/

/-- What attempts do that have something due, on the page that all changes before have made. -/
def actAt (c : Scenario σ) (ask : Source σ) (a : Attempts σ) (dueMs : Nat) :
    Attempts σ × Option Transition :=
  a.act c.settings ask dueMs
    (c.seen? a.journal.looks.length (c.timeline.takeWhile (·.atMs < dueMs)))

/-- The attempts after they had something to do so many times, with nothing that could stop them. -/
def alone (c : Scenario σ) (ask : Source σ) : Nat → Attempts σ
  | 0 => { source := c.source }
  | n + 1 =>
    match (alone c ask n).due? with
    | some dueMs => (c.actAt ask (alone c ask n) dueMs).1
    | none => alone c ask n

/-- On their own, the attempts are resolved so at this instant. -/
def ResolvesAt (c : Scenario σ) (ask : Source σ) (atMs : Nat) (r : Resolution) : Prop :=
  ∃ n, (c.alone ask n).due? = some atMs ∧
    (c.actAt ask (c.alone ask n) atMs).2 = some (.resolve r)

/-- No change of the page comes at the very instant of an attempt, up to some instant. -/
def Quiet (c : Scenario σ) (ask : Source σ) (untilMs : Nat) : Prop :=
  ∀ n dueMs, (c.alone ask n).isResting = true → (c.alone ask n).due? = some dueMs →
    dueMs ≤ untilMs → ∀ e ∈ c.timeline, e.atMs ≠ dueMs

theorem alone_succ_of_due {n dueMs : Nat} (due : (c.alone ask n).due? = some dueMs) :
    c.alone ask (n + 1) = (c.actAt ask (c.alone ask n) dueMs).1 := by
  rw [alone, due]

theorem alone_of_idle {n m : Nat} (idle : (c.alone ask n).due? = none) (hle : n ≤ m) :
    c.alone ask m = c.alone ask n := by
  induction m, hle using Nat.le_induction with
  | base => rfl
  | succ m _ ih => rw [alone, ih, idle]

/-- What was due before what is due now was due earlier. -/
theorem alone_due? {n m dueMs : Nat} (hle : n ≤ m) (due : (c.alone ask m).due? = some dueMs) :
    ∃ earlierMs, (c.alone ask n).due? = some earlierMs ∧ earlierMs ≤ dueMs := by
  induction m, hle using Nat.le_induction generalizing dueMs with
  | base => exact ⟨dueMs, due, Nat.le_refl _⟩
  | succ m _ ih =>
    cases hm : (c.alone ask m).due? with
    | none =>
      rw [alone, hm] at due
      exact ih due
    | some beforeMs =>
      obtain ⟨earlierMs, hn, hle⟩ := ih hm
      rw [alone_succ_of_due hm] at due
      have := Attempts.act_due?_ge (Prod.eta _).symm due
      exact ⟨earlierMs, hn, by omega⟩

theorem alone_ended {n atMs : Nat} {r : Resolution} (due : (c.alone ask n).due? = some atMs)
    (resolves : (c.actAt ask (c.alone ask n) atMs).2 = some (.resolve r)) :
    (c.alone ask (n + 1)).activity = .ended := by
  rw [alone_succ_of_due due]
  exact Attempts.act_resolve (Prod.ext rfl resolves)

/-- Attempts that are resolved have nothing to do any more. -/
theorem alone_idle {n atMs : Nat} {r : Resolution} (due : (c.alone ask n).due? = some atMs)
    (resolves : (c.actAt ask (c.alone ask n) atMs).2 = some (.resolve r)) :
    (c.alone ask (n + 1)).due? = none := by
  rw [Attempts.due?, alone_ended due resolves]

theorem ResolvesAt.unique {atMs atMs' : Nat} {r r' : Resolution} (h : c.ResolvesAt ask atMs r)
    (h' : c.ResolvesAt ask atMs' r') : atMs = atMs' ∧ r = r' := by
  obtain ⟨n, due, resolves⟩ := h
  obtain ⟨n', due', resolves'⟩ := h'
  obtain rfl : n = n' := by
    rcases Nat.lt_trichotomy n n' with hlt | heq | hlt
    · obtain ⟨_, hsome, _⟩ := alone_due? (Nat.succ_le_of_lt hlt) due'
      rw [alone_idle due resolves] at hsome
      cases hsome
    · exact heq
    · obtain ⟨_, hsome, _⟩ := alone_due? (Nat.succ_le_of_lt hlt) due
      rw [alone_idle due' resolves'] at hsome
      cases hsome
  rw [due] at due'
  cases due'
  rw [resolves] at resolves'
  cases resolves'
  exact ⟨rfl, rfl⟩

end Scenario

namespace Session

variable {σ : Type} {ask : Source σ} {c : Scenario σ} {t : Session σ} {untilMs : Nat}

/-! ## Attempts of a session -/

/-- The attempts of a session that runs are not over. -/
theorem Reaches.not_ended (h : Reaches ask c t) (runs : t.cancelled = false) :
    t.attempts.activity ≠ .ended := by
  induction h with
  | start => exact Activity.noConfusion
  | @step t u _ hr runs' hs ih =>
    cases hs with
    | clock | countdown | page => exact ih runs'
    | attempt due le eq goes =>
      intro hover
      rw [hr.settings_eq] at eq
      obtain ⟨hhistory, hresolve⟩ := hr.history.act (hr.due_eq due le) eq
      obtain ⟨r, hr⟩ := hhistory.resolved hover
      exact goes r ((hresolve r).mpr ⟨hover, hr⟩)
    | resolve | deadline | host => cases runs

/-- A session does what its attempts would do on their own, unless the page changes meanwhile. -/
theorem Reaches.act_eq (h : Reaches ask c t)
    (still : t.attempts.isResting = true → ∀ e ∈ c.timeline, e.atMs ≠ t.nowMs) :
    t.attempts.act t.settings ask t.nowMs t.identifier? = c.actAt ask t.attempts t.nowMs := by
  rw [h.settings_eq, Scenario.actAt]
  by_cases hr : t.attempts.isResting = true
  · obtain ⟨done, hdone, hfound⟩ := h.identifier?_eq
    rw [hfound, hdone.eq_of_still (still hr)]
  · exact Attempts.act_congr (by simpa using hr) _ _

/-- The attempts of a session that runs are at what they would be at on their own. -/
theorem Reaches.alone (quiet : c.Quiet ask untilMs) (h : Reaches ask c t)
    (runs : t.cancelled = false) (hle : t.nowMs ≤ untilMs) :
    ∃ n, t.attempts = c.alone ask n := by
  induction h with
  | start => exact ⟨0, rfl⟩
  | @step t u _ hr runs' hs ih =>
    obtain ⟨n, heq⟩ := ih runs' (hs.nowMs_le.trans hle)
    cases hs with
    | clock | countdown | page => exact ⟨n, heq⟩
    | attempt due le eq =>
      have hdue := hr.due_eq due le
      rw [hr.act_eq fun hrest => quiet n t.nowMs (heq ▸ hrest) (heq ▸ hdue) hle, heq] at eq
      exact ⟨n + 1, by rw [Scenario.alone_succ_of_due (heq ▸ hdue), eq]; rfl⟩
    | resolve | deadline | host => cases runs

/-- They have not got past the reply that resolves them. -/
theorem Reaches.alone_le {m atMs : Nat} {r : Resolution} (quiet : c.Quiet ask untilMs)
    (due : (c.alone ask m).due? = some atMs)
    (resolves : (c.actAt ask (c.alone ask m) atMs).2 = some (.resolve r)) (h : Reaches ask c t)
    (runs : t.cancelled = false) (hle : t.nowMs ≤ untilMs) :
    ∃ n ≤ m, t.attempts = c.alone ask n := by
  obtain ⟨n, heq⟩ := h.alone quiet runs hle
  refine ⟨n, ?_, heq⟩
  by_contra hlt
  apply h.not_ended runs
  rw [heq, Scenario.alone_of_idle (Scenario.alone_idle due resolves) (by omega)]
  exact Scenario.alone_ended due resolves

end Session

end ApprovalWatch
