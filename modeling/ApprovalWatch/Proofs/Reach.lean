import ApprovalWatch.Session

/-!
# The states that a session comes to

A session goes from state to state by steps: the clock goes on to the next instant at which
something is due, or one part does what it has due. `Reaches` holds of every state that some order
of the parts leads to, so that what every step preserves holds of all sessions, in whatever order
their parts act.

Main results:

* `Reaches.perform`: a part that does what it has due makes one of six steps.
* `Finishes.reaches`: a session ends in a state that it reaches, closed.
* `run_unique`: a session has one end at most.
* `finishes_iff`: a session ends at the first instant at which it is over.
-/

namespace ApprovalWatch.Session

variable {σ : Type} {ask : Source σ} {c : Scenario σ} {t u : Session σ}

/-! ## Steps -/

/-- One step of a session that runs, of a part or, where none is named, of the clock. -/
inductive Step (ask : Source σ) (t : Session σ) : Option Part → Session σ → Prop
  | clock {nextMs : Nat} (next : t.next? = some nextMs) :
      Step ask t none { t with nowMs := max t.nowMs nextMs }
  | attempt {dueMs : Nat} {a : Attempts σ} {r : Option Transition}
      (due : t.attempts.due? = some dueMs) (le : dueMs ≤ t.nowMs)
      (eq : t.attempts.act t.settings ask t.nowMs t.identifier? = (a, r))
      (goes : ∀ x, r ≠ some (.resolve x)) : Step ask t (some .inquiry) (t.proceed a)
  | resolve {dueMs : Nat} {a : Attempts σ} {r : Resolution}
      (due : t.attempts.due? = some dueMs) (le : dueMs ≤ t.nowMs)
      (eq : t.attempts.act t.settings ask t.nowMs t.identifier? = (a, some (.resolve r))) :
      Step ask t (some .inquiry) ((t.proceed a).settle (t.settings.conclusion r))
  | deadline {d : Deadline} (due : t.deadline = some d) (le : d.ms ≤ t.nowMs) :
      Step ask t (some .deadline)
        ({ t with deadline := none }.settle (t.settings.failed .deadlineExceeded))
  | countdown {k : Countdown} {dueMs : Nat} (shows : t.countdown = some k)
      (due : k.due? = some dueMs) (le : dueMs ≤ t.nowMs) :
      Step ask t (some .countdown)
        (t.write (k.tick t.settings.page t.nowMs).1 (k.tick t.settings.page t.nowMs).2)
  | host {atMs : Nat} (due : t.cancelAtMs = some atMs) (le : atMs ≤ t.nowMs) :
      Step ask t (some .host) { t with cancelled := true, cancelAtMs := none }
  | page {e : Change} {rest : List Change} (due : t.timeline = e :: rest) (le : e.atMs ≤ t.nowMs) :
      Step ask t (some .page) { t with page := t.page.change e, timeline := rest }

/-- The states that the session of a scenario comes to. -/
inductive Reaches (ask : Source σ) (c : Scenario σ) : Session σ → Prop
  | start : Reaches ask c (start c)
  | step {t u : Session σ} {p : Option Part} (h : Reaches ask c t) (runs : t.cancelled = false)
      (step : Step ask t p u) : Reaches ask c u

theorem Step.nowMs_le {p : Option Part} (hs : Step ask t p u) : t.nowMs ≤ u.nowMs := by
  cases hs with
  | clock => exact Nat.le_max_left _ _
  | attempt | resolve | deadline | countdown | host | page => exact Nat.le_refl _

/-- Nothing is settled while a session runs. -/
theorem Reaches.latch_eq_none (h : Reaches ask c t) (runs : t.cancelled = false) :
    t.latch.get? = none := by
  induction h with
  | start => rfl
  | step _ runs' hs ih =>
    cases hs with
    | clock | attempt | countdown | page => exact ih runs'
    | resolve | deadline | host => cases runs

theorem get?_settle (t : Session σ) (h : t.latch.get? = none) (k : Conclusion) :
    (t.settle k).latch.get? = some k :=
  Latch.get?_settle_of_none h k

theorem Reaches.settings_eq (h : Reaches ask c t) : t.settings = c.settings := by
  induction h with
  | start => rfl
  | step _ _ hs ih => cases hs <;> exact ih

/-! ## Parts that act -/

theorem Reaches.actInquiry {dueMs : Nat} (h : Reaches ask c t) (runs : t.cancelled = false)
    (due : t.attempts.due? = some dueMs) (le : dueMs ≤ t.nowMs) :
    Step ask t (some .inquiry) (t.actInquiry ask) := by
  unfold Session.actInquiry
  rcases hact : t.attempts.act t.settings ask t.nowMs t.identifier? with ⟨a, r⟩
  dsimp only
  split
  · rw [conclude_of_running (t := t.proceed a) runs (h.latch_eq_none runs)]
    exact .resolve due le hact
  · rename_i goes
    exact .attempt due le hact goes

theorem Reaches.actDeadline {d : Deadline} (h : Reaches ask c t) (runs : t.cancelled = false)
    (due : t.deadline = some d) (le : d.ms ≤ t.nowMs) :
    Step ask t (some .deadline) t.actDeadline := by
  unfold Session.actDeadline
  rw [conclude_of_running (t := { t with deadline := none }) runs (h.latch_eq_none runs)]
  exact .deadline due le

/-- What a part does that has something due is a step. -/
theorem Reaches.perform {p : Part} {dueMs : Nat} (h : Reaches ask c t)
    (runs : t.cancelled = false) (due : t.due? p = some dueMs) (le : dueMs ≤ t.nowMs) :
    Step ask t (some p) (t.perform ask p) := by
  cases p with
  | inquiry => exact h.actInquiry runs due le
  | deadline =>
    obtain ⟨d, hd, rfl⟩ := Option.map_eq_some_iff.mp due
    exact h.actDeadline runs hd le
  | countdown =>
    obtain ⟨k, hk, hdue⟩ := Option.bind_eq_some_iff.mp due
    simp only [Session.perform, actCountdown, hk]
    exact .countdown hk hdue le
  | host => exact .host due le
  | page =>
    obtain ⟨e, he, rfl⟩ := Option.map_eq_some_iff.mp due
    obtain ⟨rest, hrest⟩ := List.head?_eq_some_iff.mp he
    simp only [Session.perform, actPage, hrest]
    exact .page hrest le

/-! ## Runs -/

/-- A part's turn is a step, or leaves everything as it is. -/
theorem act_cases (ask : Source σ) (t : Session σ) (p : Part) :
    t.act ask p = t ∨ t.act ask p = t.perform ask p ∧ t.cancelled = false ∧
      ∃ dueMs, t.due? p = some dueMs ∧ dueMs ≤ t.nowMs := by
  unfold act
  split
  · right
    simp_all [Option.any_eq_true]
  · left; rfl

theorem act_of_due {p : Part} {dueMs : Nat} (runs : t.cancelled = false)
    (due : t.due? p = some dueMs) (le : dueMs ≤ t.nowMs) : t.act ask p = t.perform ask p := by
  simp [Session.act, runs, due, le]

theorem act_of_cancelled (ended : t.cancelled = true) (p : Part) : t.act ask p = t := by
  simp [Session.act, ended]

theorem foldl_act_of_cancelled (ended : t.cancelled = true) (ps : List Part) :
    ps.foldl (act ask) t = t := by
  induction ps with
  | nil => rfl
  | cons p ps ih => rw [List.foldl_cons, act_of_cancelled ended, ih]

theorem Reaches.act_cases (h : Reaches ask c t) (p : Part) :
    t.act ask p = t ∨ t.cancelled = false ∧ Step ask t (some p) (t.act ask p) := by
  rcases Session.act_cases ask t p with heq | ⟨heq, runs, dueMs, due, le⟩
  · exact Or.inl heq
  · rw [heq]
    exact Or.inr ⟨runs, h.perform runs due le⟩

theorem Reaches.act (h : Reaches ask c t) (p : Part) : Reaches ask c (t.act ask p) := by
  rcases h.act_cases p with heq | ⟨runs, hs⟩
  · rw [heq]
    exact h
  · exact h.step runs hs

theorem Reaches.foldl (h : Reaches ask c t) (ps : List Part) :
    Reaches ask c (ps.foldl (Session.act ask) t) := by
  induction ps generalizing t with
  | nil => exact h
  | cons p ps ih => exact ih (h.act p)

/-- What every step keeps is kept by turns of any parts in any order. -/
theorem Reaches.turns {Q : Session σ → Prop}
    (keeps : ∀ {t u p}, Reaches ask c t → Step ask t p u → Q t → Q u)
    (hr : Reaches ask c t) (hq : Q t) (ps : List Part) : Q (ps.foldl (Session.act ask) t) := by
  induction ps generalizing t with
  | nil => exact hq
  | cons p ps ih =>
    rw [List.foldl_cons]
    rcases hr.act_cases p with heq | ⟨runs, hs⟩
    · rw [heq]
      exact ih hr hq
    · exact ih (hr.step runs hs) (keeps hr hs hq)

/-! ## Closing -/

section Close

theorem close_attempts (t : Session σ) : t.close.attempts = t.attempts.abandon := by
  unfold close; dsimp only; split <;> rfl

@[simp] theorem close_nowMs (t : Session σ) : t.close.nowMs = t.nowMs := by
  unfold close; dsimp only; split <;> rfl

@[simp] theorem close_hiddenReads (t : Session σ) : t.close.hiddenReads = t.hiddenReads := by
  unfold close; dsimp only; split <;> rfl

@[simp] theorem close_cancelled (t : Session σ) : t.close.cancelled = t.cancelled := by
  unfold close; dsimp only; split <;> rfl

@[simp] theorem close_latch (t : Session σ) : t.close.latch = t.latch := by
  unfold close; dsimp only; split <;> rfl

@[simp] theorem close_actions (t : Session σ) : t.close.actions = t.actions := by
  unfold close; dsimp only; split <;> rfl

end Close

/-! ## Ends -/

/-- A run that ends goes on to a state in which the session is over, and closes it. What every step
keeps holds there. -/
theorem Reaches.run {Q : Session σ → Prop}
    (keeps : ∀ {t u p}, Reaches ask c t → Step ask t p u → Q t → Q u) {order : Order} {fuel : Nat}
    (hr : Reaches ask c t) (hq : Q t) (h : run order ask fuel t = some u) :
    ∃ v, Reaches ask c v ∧ Q v ∧ v.cancelled = true ∧ u = v.close := by
  induction fuel generalizing t with
  | zero => cases h
  | succ fuel ih =>
    rw [Session.run] at h
    split at h
    · rename_i hc
      exact ⟨t, hr, hq, hc, (Option.some.inj h).symm⟩
    · rename_i hc
      cases hn : t.next? with
      | none => simp [hn] at h
      | some nextMs =>
        simp only [hn] at h
        have runs : t.cancelled = false := by simpa using hc
        have hr' := hr.step runs (.clock hn)
        have hq' := Reaches.turns keeps hr' (keeps hr (.clock hn) hq) (order (max t.nowMs nextMs))
        exact ih (hr'.foldl _) hq' h

theorem Finishes.reaches {order : Order} (h : Finishes order ask c t) :
    ∃ v, Reaches ask c v ∧ v.cancelled = true ∧ t = v.close := by
  obtain ⟨fuel, hrun⟩ := h
  obtain ⟨v, hr, -, hover, heq⟩ :=
    Reaches.start.run (Q := fun _ => True) (fun _ _ _ => trivial) trivial hrun
  exact ⟨v, hr, hover, heq⟩

/-- More fuel does not change how a run ends. -/
theorem run_mono {order : Order} {fuel more : Nat} (h : run order ask fuel t = some u)
    (hle : fuel ≤ more) : run order ask more t = some u := by
  induction fuel generalizing t more with
  | zero => cases h
  | succ fuel ih =>
    obtain ⟨more, rfl⟩ : ∃ m, more = m + 1 := ⟨more - 1, by omega⟩
    rw [run] at h ⊢
    by_cases hc : t.cancelled = true
    · rw [if_pos hc] at h ⊢
      exact h
    · rw [if_neg hc] at h ⊢
      cases hn : t.next? with
      | none => simp [hn] at h
      | some nextMs =>
        simp only [hn] at h ⊢
        exact ih h (Nat.le_of_succ_le_succ hle)

/-- A session has one end at most. -/
theorem run_unique {order : Order} {fuel fuel' : Nat} {u' : Session σ}
    (h : run order ask fuel t = some u) (h' : run order ask fuel' t = some u') : u = u' := by
  have h1 := run_mono h (Nat.le_max_left fuel fuel')
  have h2 := run_mono h' (Nat.le_max_right fuel fuel')
  rw [h1] at h2
  exact Option.some.inj h2

/-! ## Instants -/

/-- The session after so many more instants, if it runs until then. -/
def advance (order : Order) (ask : Source σ) : Nat → Session σ → Option (Session σ)
  | 0, t => some t
  | n + 1, t =>
    if t.cancelled then none
    else
      t.next?.bind fun nextMs =>
        advance order ask n (pass order ask { t with nowMs := max t.nowMs nextMs })

theorem advance_succ_eq_some {order : Order} {n : Nat} :
    advance order ask (n + 1) t = some u ↔
      t.cancelled = false ∧ ∃ nextMs, t.next? = some nextMs ∧
        advance order ask n (pass order ask { t with nowMs := max t.nowMs nextMs }) = some u := by
  rw [advance]
  cases t.cancelled <;> simp [Option.bind_eq_some_iff]

theorem Reaches.advance {order : Order} {n : Nat} (hr : Reaches ask c t)
    (h : Session.advance order ask n t = some u) : Reaches ask c u := by
  induction n generalizing t with
  | zero =>
    cases h
    exact hr
  | succ n ih =>
    obtain ⟨runs, nextMs, hnext, h⟩ := advance_succ_eq_some.mp h
    exact ih ((hr.step runs (.clock hnext)).foldl _) h

theorem advance_add {order : Order} {m n : Nat} {v : Session σ}
    (ht : Session.advance order ask m t = some u) (hu : Session.advance order ask n u = some v) :
    Session.advance order ask (m + n) t = some v := by
  induction m generalizing t with
  | zero =>
    cases ht
    rwa [Nat.zero_add]
  | succ m ih =>
    obtain ⟨runs, nextMs, next, ht⟩ := advance_succ_eq_some.mp ht
    rw [Nat.add_right_comm]
    exact advance_succ_eq_some.mpr ⟨runs, nextMs, next, ih ht⟩

/-- A session that is over does not go on. -/
theorem advance_le {order : Order} {m n : Nat} {v : Session σ} (ended : v.cancelled = true)
    (hv : Session.advance order ask m t = some v) (hu : Session.advance order ask n t = some u) :
    n ≤ m := by
  induction m generalizing t n with
  | zero =>
    cases hv
    cases n with
    | zero => exact Nat.le_refl 0
    | succ n =>
      obtain ⟨runs, -⟩ := advance_succ_eq_some.mp hu
      exact absurd (runs.symm.trans ended) Bool.false_ne_true
  | succ m ih =>
    cases n with
    | zero => exact Nat.zero_le _
    | succ n =>
      obtain ⟨-, nextMs, hnext, hv⟩ := advance_succ_eq_some.mp hv
      obtain ⟨-, nextMs', hnext', hu⟩ := advance_succ_eq_some.mp hu
      rw [hnext] at hnext'
      cases hnext'
      exact Nat.succ_le_succ (ih hv hu)

/-- A run ends at the first instant at which the session is over. -/
theorem run_eq_some_iff {order : Order} {fuel : Nat} :
    run order ask fuel t = some u ↔
      ∃ n < fuel, ∃ v, Session.advance order ask n t = some v ∧ v.cancelled = true ∧
        u = v.close := by
  induction fuel generalizing t with
  | zero => simp [run]
  | succ fuel ih =>
    rw [run]
    constructor
    · intro h
      split at h
      · rename_i ended
        exact ⟨0, Nat.succ_pos _, t, rfl, ended, (Option.some.inj h).symm⟩
      · rename_i runs
        cases hnext : t.next? with
        | none => simp [hnext] at h
        | some nextMs =>
          simp only [hnext] at h
          obtain ⟨n, hn, v, hv, hend⟩ := ih.mp h
          exact ⟨n + 1, Nat.succ_lt_succ hn, v,
            advance_succ_eq_some.mpr ⟨by simpa using runs, nextMs, hnext, hv⟩, hend⟩
    · rintro ⟨n, hn, v, hv, ended, rfl⟩
      cases n with
      | zero =>
        cases hv
        rw [if_pos ended]
      | succ n =>
        obtain ⟨runs, nextMs, hnext, hv⟩ := advance_succ_eq_some.mp hv
        rw [if_neg (by simp [runs]), hnext]
        exact ih.mpr ⟨n, Nat.lt_of_succ_lt_succ hn, v, hv, ended, rfl⟩

/-- What can be seen at the first instants of a session that ends within them is so at all. -/
theorem advance_all {order : Order} {fuel n : Nat} {P : Session σ → Bool} {v : Session σ}
    (ends : (run order ask fuel t).isSome)
    (first : ∀ k < fuel, (Session.advance order ask k t).all P)
    (hv : Session.advance order ask n t = some v) : P v = true := by
  obtain ⟨u, hrun⟩ := Option.isSome_iff_exists.mp ends
  obtain ⟨m, hm, w, hw, ended, -⟩ := run_eq_some_iff.mp hrun
  have hn := first n (Nat.lt_of_le_of_lt (advance_le ended hw hv) hm)
  rwa [hv] at hn

/-- The session of a scenario is over in this state, which its parts have yet to notice. -/
def EndsIn (order : Order) (ask : Source σ) (c : Scenario σ) (v : Session σ) : Prop :=
  v.cancelled = true ∧ ∃ n, Session.advance order ask n (Session.start c) = some v

theorem finishes_iff {order : Order} :
    Finishes order ask c t ↔ ∃ v, EndsIn order ask c v ∧ t = v.close := by
  constructor
  · rintro ⟨fuel, h⟩
    obtain ⟨n, -, v, hv, ended, heq⟩ := run_eq_some_iff.mp h
    exact ⟨v, ⟨ended, n, hv⟩, heq⟩
  · rintro ⟨v, ⟨ended, n, hv⟩, heq⟩
    exact ⟨n + 1, run_eq_some_iff.mpr ⟨n, Nat.lt_succ_self n, v, hv, ended, heq⟩⟩

end ApprovalWatch.Session
