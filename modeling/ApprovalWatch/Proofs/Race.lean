import ApprovalWatch.Proofs.Alone
import Mathlib.Data.ENat.Lattice

/-!
# The race that ends a session

Three things may end a session: a reply that resolves its attempts, its deadline, and its host. Each
of them has its instant, which the others have no part in, and the session ends at the first of the
three.

Main results:

* `Reaches.endsAt`: a session that is over was ended by one of the three.
* `Reaches.exists_run`: a session ends if there is an instant that is to end it.
* `finishes_race`: it ends at the first of the three instants, as whoever comes first has it.
-/

namespace ApprovalWatch

/-- All parts have their turn at every instant. -/
def Order.Complete (order : Order) : Prop :=
  ∀ nowMs p, p ∈ order nowMs

theorem Order.usual_complete : Order.Complete Order.usual := by
  intro _ p
  cases p <;> simp [usual]

namespace Scenario

variable {σ : Type} {c : Scenario σ} {ask : Source σ} {n : Nat}

/-! ## Instants -/

open Classical in
/-- The instant at which the attempts are resolved on their own. -/
noncomputable def pollMs (c : Scenario σ) (ask : Source σ) : ℕ∞ :=
  if h : ∃ atMs r, c.ResolvesAt ask atMs r then (Classical.choose h : ℕ) else ⊤

/-- The instant of the deadline. -/
def deadlineMs (c : Scenario σ) : ℕ∞ :=
  match Deadline.ofSession? c.page c.settings with
  | some d => (d.ms : ℕ)
  | none => ⊤

/-- The instant at which the host cancels, which is the start if it has cancelled before. -/
def hostMs (c : Scenario σ) : ℕ∞ :=
  if c.cancelled then 0
  else
    match c.cancelAtMs with
    | some atMs => (atMs : ℕ)
    | none => ⊤

/-- At this instant something comes that ends a session, and with this conclusion. -/
inductive EndsAt (c : Scenario σ) (ask : Source σ) (atMs : Nat) : Option Conclusion → Prop
  | poll {r : Resolution} (resolves : c.ResolvesAt ask atMs r) :
      EndsAt c ask atMs (some (c.settings.conclusion r))
  | deadline (due : c.deadlineMs = atMs) :
      EndsAt c ask atMs (some (c.settings.failed .deadlineExceeded))
  | host (due : c.hostMs = atMs) : EndsAt c ask atMs none

theorem pollMs_eq_iff : c.pollMs ask = n ↔ ∃ r, c.ResolvesAt ask n r := by
  unfold pollMs
  by_cases hex : ∃ atMs r, c.ResolvesAt ask atMs r
  · obtain ⟨r, hr⟩ := Classical.choose_spec hex
    rw [dif_pos hex, Nat.cast_inj]
    constructor
    · intro heq
      exact ⟨r, heq ▸ hr⟩
    · rintro ⟨r', hr'⟩
      exact (hr.unique hr').1
  · rw [dif_neg hex]
    constructor
    · intro heq
      exact absurd heq (ENat.top_ne_natCast n)
    · intro h
      exact absurd ⟨n, h⟩ hex

theorem deadlineMs_eq_iff :
    c.deadlineMs = n ↔ ∃ d, Deadline.ofSession? c.page c.settings = some d ∧ d.ms = n := by
  unfold deadlineMs
  cases Deadline.ofSession? c.page c.settings <;> simp

theorem hostMs_eq_iff :
    c.hostMs = n ↔
      c.cancelled = true ∧ n = 0 ∨ c.cancelled = false ∧ c.cancelAtMs = some n := by
  unfold hostMs
  cases c.cancelled with
  | true => simp [eq_comm]
  | false => cases c.cancelAtMs <;> simp

/-- The first of the three instants is one of them. -/
theorem exists_endsAt (first : min (c.pollMs ask) (min c.deadlineMs c.hostMs) = n) :
    ∃ k, c.EndsAt ask n k := by
  rcases min_choice (c.pollMs ask) (min c.deadlineMs c.hostMs) with h | h
  · obtain ⟨r, hr⟩ := pollMs_eq_iff.mp (h.symm.trans first)
    exact ⟨_, .poll hr⟩
  · rw [h] at first
    rcases min_choice c.deadlineMs c.hostMs with h' | h'
    · exact ⟨_, .deadline (h'.symm.trans first)⟩
    · exact ⟨_, .host (h'.symm.trans first)⟩

/-- Nothing ends a session before the first of the three instants. -/
theorem EndsAt.le {k : Option Conclusion} (h : c.EndsAt ask n k) :
    min (c.pollMs ask) (min c.deadlineMs c.hostMs) ≤ n := by
  cases h with
  | poll resolves => exact (min_le_left _ _).trans (pollMs_eq_iff.mpr ⟨_, resolves⟩).le
  | deadline due => exact (min_le_right _ _).trans ((min_le_left _ _).trans due.le)
  | host due => exact (min_le_right _ _).trans ((min_le_right _ _).trans due.le)

end Scenario

/-- The numbers that a countdown has still to show. -/
def Countdown.left (k : Countdown) : Nat :=
  match k.shown with
  | none => k.total + 1
  | some left => left

theorem Countdown.left_tick {k : Countdown} {dueMs : Nat} (due : k.due? = some dueMs)
    (names : PageNames) (nowMs : Nat) : (k.tick names nowMs).1.left + 1 = k.left := by
  obtain ⟨left, hnext, -⟩ := Option.map_eq_some_iff.mp due
  unfold tick
  rw [hnext]
  unfold Countdown.next? at hnext
  unfold Countdown.left
  split at hnext
  · rename_i hshown
    cases hnext
    simp [hshown]
  · cases hnext
  · rename_i hshown
    cases hnext
    simp [hshown]

namespace Session

variable {σ : Type} {ask : Source σ} {c : Scenario σ} {t u : Session σ} {n : Nat}
  {k : Option Conclusion}

/-! ## The end -/

/-- As long as a session runs, what is to end it is due. -/
theorem Reaches.due_of_endsAt (quiet : c.Quiet ask n) (ends : c.EndsAt ask n k)
    (h : Reaches ask c t) (runs : t.cancelled = false) (hle : t.nowMs ≤ n) :
    ∃ p dueMs, t.due? p = some dueMs ∧ dueMs ≤ n := by
  cases ends with
  | poll resolves =>
    obtain ⟨m, due, hresolve⟩ := resolves
    obtain ⟨m', hle', heq⟩ := h.alone_le quiet due hresolve runs hle
    obtain ⟨dueMs, hdue, hn⟩ := Scenario.alone_due? hle' due
    exact ⟨.inquiry, dueMs, by rw [due?, heq, hdue], hn⟩
  | deadline due =>
    obtain ⟨d, hd, hn⟩ := Scenario.deadlineMs_eq_iff.mp due
    exact ⟨.deadline, d.ms, by rw [due?, h.deadline_eq runs, hd]; rfl, hn.le⟩
  | host due =>
    rcases Scenario.hostMs_eq_iff.mp due with ⟨hc, -⟩ | ⟨-, hat⟩
    · rw [h.not_cancelled runs] at hc
      cases hc
    · exact ⟨.host, n, by rw [due?, h.cancelAtMs_eq runs, hat], Nat.le_refl n⟩

/-- No session outlives what is to end it. -/
theorem Reaches.nowMs_le (quiet : c.Quiet ask n) (ends : c.EndsAt ask n k) (h : Reaches ask c t) :
    t.nowMs ≤ n := by
  induction h with
  | start => exact Nat.zero_le n
  | step hr runs hs ih =>
    cases hs with
    | clock next =>
      obtain ⟨p, dueMs, due, hle⟩ := hr.due_of_endsAt quiet ends runs ih
      exact Nat.max_le.mpr ⟨ih, (next?_le next due).trans hle⟩
    | attempt | resolve | deadline | countdown | host | page => exact ih

/-- A session that is over was ended by what came at that instant. -/
theorem Reaches.endsAt (quiet : c.Quiet ask n) (h : Reaches ask c t) (ended : t.cancelled = true)
    (hle : t.nowMs ≤ n) : c.EndsAt ask t.nowMs t.latch.get? := by
  cases h with
  | start => exact .host (Scenario.hostMs_eq_iff.mpr (.inl ⟨ended, rfl⟩))
  | @step t _ _ hr runs hs =>
    have hl := hr.latch_eq_none runs
    cases hs with
    | clock | attempt | countdown | page => exact absurd (runs.symm.trans ended) Bool.false_ne_true
    | @resolve _ a r due le eq =>
      obtain ⟨m, heq⟩ := hr.alone quiet runs hle
      have hdue := hr.due_eq due le
      rw [hr.act_eq fun hrest => quiet m t.nowMs (heq ▸ hrest) (heq ▸ hdue) hle, heq] at eq
      have hresolves : c.ResolvesAt ask t.nowMs r := ⟨m, heq ▸ hdue, by rw [eq]⟩
      rw [get?_settle (t.proceed a) hl, hr.settings_eq]
      exact .poll hresolves
    | @deadline d due le =>
      rw [get?_settle { t with deadline := none } hl, hr.settings_eq]
      have hd : Deadline.ofSession? c.page c.settings = some d := by
        rw [← hr.deadline_eq runs, due]
      have hms : d.ms = t.nowMs := Nat.le_antisymm le (hr.le_deadline due)
      exact .deadline (Scenario.deadlineMs_eq_iff.mpr ⟨d, hd, hms⟩)
    | host due le =>
      have hat : c.cancelAtMs = some t.nowMs := by
        rw [← hr.cancelAtMs_eq runs, due, Nat.le_antisymm le (hr.le_cancelAtMs due)]
      rw [hl]
      exact .host (Scenario.hostMs_eq_iff.mpr (.inr ⟨hr.not_cancelled runs, hat⟩))

/-! ## Ending -/

/-- What a session has still to do until an instant: it comes closer by everything that is done. -/
def budget (untilMs : Nat) (t : Session σ) : Nat :=
  (t.attempts.due?.map (untilMs + 1 - ·)).getD 0 + (t.countdown.map Countdown.left).getD 0 +
    t.timeline.length

theorem Step.budget_lt (hdelay : 0 < t.settings.retry.delayMs) (hle : t.nowMs ≤ n) {p : Part}
    (hs : Step ask t (some p) u) : u.cancelled = true ∨ u.budget n < t.budget n := by
  cases hs with
  | resolve | deadline | host => exact Or.inl rfl
  | @attempt dueMs a _ due le eq =>
    right
    simp only [budget, proceed, due, Option.map_some, Option.getD_some]
    cases hdue : a.due? with
    | none =>
      simp only [Option.map_none, Option.getD_none]
      omega
    | some laterMs =>
      have := Attempts.act_due?_ge eq hdue
      simp only [Option.map_some, Option.getD_some]
      omega
  | countdown shows due =>
    right
    have := Countdown.left_tick due t.settings.page t.nowMs
    simp only [budget, write, shows, Option.map_some, Option.getD_some]
    omega
  | page due =>
    right
    simp only [budget, due, List.length_cons]
    omega

/-- A part that has something due does not leave a session as it was. -/
theorem Reaches.act_ne (hdelay : 0 < t.settings.retry.delayMs) (hle : t.nowMs ≤ n)
    (h : Reaches ask c t) (runs : t.cancelled = false) {p : Part} {dueMs : Nat}
    (due : t.due? p = some dueMs) (le : dueMs ≤ t.nowMs) : t.act ask p ≠ t := by
  intro heq
  have hs := h.perform runs due le
  rw [← act_of_due runs due le, heq] at hs
  rcases hs.budget_lt hdelay hle with hover | hlt
  · exact Bool.false_ne_true (runs.symm.trans hover)
  · exact Nat.lt_irrefl _ hlt

theorem due?_nowMs (t : Session σ) (nowMs : Nat) (p : Part) :
    due? { t with nowMs } p = t.due? p := by
  cases p <;> rfl

/-- Turns end a session, or bring it closer to its end, unless no part has anything due. -/
theorem Reaches.turns_budget (hdelay : 0 < c.settings.retry.delayMs)
    (bound : ∀ u, Reaches ask c u → u.nowMs ≤ n) (h : Reaches ask c t) (ps : List Part) :
    (ps.foldl (Session.act ask) t).cancelled = true ∨
    (ps.foldl (Session.act ask) t).budget n < t.budget n ∨
    ps.foldl (Session.act ask) t = t ∧ ∀ p ∈ ps, t.act ask p = t := by
  induction ps generalizing t with
  | nil => exact .inr (.inr ⟨rfl, fun _ hp => absurd hp List.not_mem_nil⟩)
  | cons p ps ih =>
    rw [List.foldl_cons]
    rcases h.act_cases p with heq | ⟨runs, hs⟩
    · rw [heq, List.forall_mem_cons]
      rcases ih h with hover | hlt | ⟨hsame, hall⟩
      · exact .inl hover
      · exact .inr (.inl hlt)
      · exact .inr (.inr ⟨hsame, heq, hall⟩)
    · rcases hs.budget_lt (h.settings_eq ▸ hdelay) (bound t h) with hover | hlt
      · left
        rw [foldl_act_of_cancelled hover]
        exact hover
      · rcases ih (h.step runs hs) with hover | hlt' | ⟨hsame, -⟩
        · exact .inl hover
        · exact .inr (.inl (hlt'.trans hlt))
        · right; left
          rw [hsame]
          exact hlt

/-- A session comes to an end if all parts have their turns and something is to end it. -/
theorem Reaches.exists_run {order : Order} (hdelay : 0 < c.settings.retry.delayMs)
    (complete : order.Complete) (quiet : c.Quiet ask n) (ends : c.EndsAt ask n k)
    (h : Reaches ask c t) : ∃ fuel u, Session.run order ask fuel t = some u := by
  induction hb : t.budget n using Nat.strong_induction_on generalizing t with
  | _ b ih =>
    by_cases ended : t.cancelled = true
    · exact ⟨1, t.close, by rw [Session.run, if_pos ended]⟩
    · have runs : t.cancelled = false := by simpa using ended
      have bound : ∀ u, Reaches ask c u → u.nowMs ≤ n := fun u hu => hu.nowMs_le quiet ends
      obtain ⟨_, _, due, -⟩ := h.due_of_endsAt quiet ends runs (bound t h)
      obtain ⟨nextMs, hnext, -⟩ := exists_next?_le due
      have hr := h.step runs (.clock hnext)
      suffices hpass : ∃ fuel u, Session.run order ask fuel
          (pass order ask { t with nowMs := max t.nowMs nextMs }) = some u by
        obtain ⟨fuel, u, hu⟩ := hpass
        exact ⟨fuel + 1, u, by rw [Session.run, if_neg ended, hnext]; exact hu⟩
      rcases hr.turns_budget hdelay bound (order (max t.nowMs nextMs)) with hover | hlt | ⟨-, hall⟩
      · exact ⟨1, _, by rw [Session.run, pass, if_pos hover]⟩
      · exact ih _ (hb ▸ hlt) (hr.foldl _) rfl
      · -- the clock went on for some part, which does not let its turn pass
        obtain ⟨p, hp⟩ := exists_due?_of_next? hnext
        rw [← due?_nowMs t (max t.nowMs nextMs) p] at hp
        have hne := hr.act_ne (hr.settings_eq ▸ hdelay) (bound _ hr) runs hp (Nat.le_max_right _ _)
        exact absurd (hall p (complete _ p)) hne

/-! ## The race -/

/-- **The race of three instants.** A session ends at the first of the three instants at which its
attempts would be resolved on their own, its deadline comes and its host cancels, if there is one,
and with the conclusion of one that comes then. There is none if its host cancelled it before the
start. It ends in one way only, and whatever the other parts do meanwhile, as long as each attempt
has a delay after it, each part has its turns, and no change of the page comes at the instant of
an attempt. -/
theorem finishes_race {order : Order} (hdelay : 0 < c.settings.retry.delayMs)
    (complete : order.Complete) (first : min (c.pollMs ask) (min c.deadlineMs c.hostMs) = n)
    (quiet : c.Quiet ask n) :
    ∃ t, (∀ u, Finishes order ask c u ↔ u = t) ∧
      (report c t).elapsedMs = n ∧
      c.EndsAt ask n (report c t).conclusion ∧
      (c.cancelled = true → (report c t).conclusion = none) := by
  obtain ⟨k, ends⟩ := Scenario.exists_endsAt first
  obtain ⟨fuel, t, hrun⟩ := Reaches.start.exists_run hdelay complete quiet ends
  have hfinishes : Finishes order ask c t := ⟨fuel, hrun⟩
  obtain ⟨v, hv, ended, heq⟩ := hfinishes.reaches
  have hle := hv.nowMs_le quiet ends
  have hends := hv.endsAt quiet ended hle
  have hnow : v.nowMs = n := by
    have hmin := hends.le
    rw [first, Nat.cast_le] at hmin
    exact Nat.le_antisymm hle hmin
  refine ⟨t, fun u => ⟨?_, ?_⟩, ?_, ?_, ?_⟩
  · rintro ⟨fuel', hrun'⟩
    exact run_unique hrun' hrun
  · rintro rfl
    exact hfinishes
  · rw [report, heq, close_nowMs, hnow]
  · rw [report, heq, close_latch, ← hnow]
    exact hends
  · intro hc
    rw [report, heq, close_latch, hv.eq_start hc]
    rfl

/-- A session that is approved two seconds after its deadline, and whose page changes meanwhile. -/
def belated : Scenario (List Answer) where
  settings := { deadline := { timeoutSecs := 3 } }
  page := { inputs := [("pushAuthPushId", "p-1")] }
  timeline := [⟨1000, "pushAuthPushId", some "p-2"⟩]
  source := [⟨some 5000, .ok "APPROVED"⟩]

theorem finishes_race_belated :
    ∃ t, Finishes Order.usual (Script.ask "PENDING") belated t ∧
      (report belated t).elapsedMs = 3000 := by
  have hpoll : belated.pollMs (Script.ask "PENDING") = (5000 : ℕ) :=
    Scenario.pollMs_eq_iff.mpr ⟨.success (Status.ofName "APPROVED"), 1, by decide +kernel,
      by decide +kernel⟩
  have hdeadline : belated.deadlineMs = (3000 : ℕ) :=
    Scenario.deadlineMs_eq_iff.mpr ⟨⟨3, by decide⟩, rfl, rfl⟩
  have hhost : belated.hostMs = ⊤ := rfl
  have first : min (belated.pollMs (Script.ask "PENDING"))
      (min belated.deadlineMs belated.hostMs) = (3000 : ℕ) := by
    rw [hpoll, hdeadline, hhost, min_top_right]
    exact min_eq_right (Nat.cast_le.mpr (by decide))
  have quiet : belated.Quiet (Script.ask "PENDING") 3000 := by
    intro n dueMs hrest hdue _ e he
    obtain rfl := List.mem_singleton.mp he
    match n with
    | 0 =>
      obtain rfl : 0 = dueMs := Option.some.inj hdue
      decide
    | 1 => exact absurd hrest (by decide +kernel)
    | n + 2 =>
      have hidle : (belated.alone (Script.ask "PENDING") 2).due? = none := by decide +kernel
      rw [Scenario.alone_of_idle hidle (Nat.le_add_left 2 n), hidle] at hdue
      cases hdue
  obtain ⟨t, hfinishes, helapsed, -⟩ :=
    finishes_race (by decide) Order.usual_complete first quiet
  exact ⟨t, (hfinishes t).mpr rfl, helapsed⟩

end Session

end ApprovalWatch
