import ApprovalWatch.Proofs.Clock

/-!
# What a session displays

The seconds that are left are shown as long as a session runs: the total at the start, and at every
full second one less. A tick that is due at the instant at which the session ends may come before
the end or not, but zero is never left out if the time is up.

Main results:

* `Countdown.display_close`: a countdown that is on time shows what is due when it is closed.
* `Reaches.displays`: the countdown of a session is on time.
* `finishes_display`: what was displayed when a session ends.
-/

namespace ApprovalWatch

namespace Countdown

variable {names : PageNames} {total n nowMs : Nat}

/-! ## Countdowns on time -/

/-- The writes for the first so many numbers of a countdown: at every full second the number and
the width of the bar for it. -/
def display (names : PageNames) (total numbers : Nat) : List Write :=
  (List.range numbers).flatMap fun i =>
    [⟨1000 * i, .text, names.countdownNumber, toString (total - i)⟩,
      ⟨1000 * i, .width, names.countdownBar,
        Decimal.shortest (progressPercent (total - i) total) ++ "%"⟩]

/-- The countdown that has shown so many numbers. -/
def after (total : Nat) : Nat → Countdown
  | 0 => ⟨total, none⟩
  | n + 1 => ⟨total, some (total - n)⟩

/-- So many numbers are shown at an instant: one at the start, and one at every full second since,
except that the last one may still be due. -/
def OnTime (total n nowMs : Nat) : Prop :=
  n ≤ total + 1 ∧ 1000 * (n - 1) ≤ nowMs ∧ (n ≤ total → nowMs ≤ 1000 * n)

@[simp] theorem after_total (total n : Nat) : (after total n).total = total := by
  cases n <;> rfl

theorem next?_after (h : n ≤ total) : (after total n).next? = some (total - n) := by
  cases n with
  | zero => rfl
  | succ n =>
    obtain ⟨left, hleft⟩ : ∃ left, total - n = left + 1 := ⟨total - n - 1, by omega⟩
    have hnext : total - (n + 1) = left := by omega
    rw [after, next?, hleft, hnext]

theorem next?_after_last (total : Nat) : (after total (total + 1)).next? = none := by
  rw [after, next?, Nat.sub_self]

theorem due?_after (h : n ≤ total) : (after total n).due? = some (1000 * n) := by
  have hn : total - (total - n) = n := by omega
  rw [due?, next?_after h, Option.map_some, after_total, hn]

theorem tick_after (h : n ≤ total) :
    (after total n).tick names nowMs =
      (after total (n + 1), (after total n).render names nowMs (total - n)) := by
  rw [tick, next?_after h, after_total]
  rfl

theorem display_succ (names : PageNames) (total n : Nat) :
    display names total (n + 1) =
      display names total n ++ (after total n).render names (1000 * n) (total - n) := by
  rw [display, List.range_succ, List.flatMap_append, List.flatMap_singleton, render, after_total]
  rfl

theorem length_display (names : PageNames) (total n : Nat) :
    (display names total n).length = 2 * n := by
  induction n with
  | zero => rfl
  | succ n ih =>
    rw [display_succ, List.length_append, ih]
    rfl

theorem atMs_le_of_mem_display {w : Write} (h : w ∈ display names total (n + 1)) :
    w.atMs ≤ 1000 * n := by
  obtain ⟨i, hi, hw⟩ := List.mem_flatMap.mp h
  have hle : i ≤ n := Nat.lt_succ_iff.mp (List.mem_range.mp hi)
  have hat : w.atMs = 1000 * i := by
    simp only [List.mem_cons, List.not_mem_nil, or_false] at hw
    rcases hw with rfl | rfl <;> rfl
  omega

theorem toString_eq_zero {left : Nat} (h : toString left = "0") : left = 0 := by
  have hdigits : Nat.toDigits 10 left = ['0'] := by
    have := congrArg String.toList h
    simpa [Nat.repr_eq_ofList_toDigits] using this
  rw [← Nat.ofDigitChars_toDigits (b := 10) (n := left) (by decide) (by decide), hdigits]
  rfl

/-- The write shows the number zero. -/
def showsZero (w : Write) : Bool :=
  w.surface = .text ∧ w.value = "0"

theorem countP_showsZero_render (c : Countdown) (left : Nat) :
    (c.render names nowMs left).countP showsZero = if left = 0 then 1 else 0 := by
  by_cases h : left = 0
  · subst h
    rfl
  · have hne : toString left ≠ "0" := fun heq => h (toString_eq_zero heq)
    simp only [render, List.countP_cons, List.countP_nil, showsZero, hne, h]
    rfl

/-- Zero is shown last. -/
theorem countP_showsZero_display (h : n ≤ total + 1) :
    (display names total n).countP showsZero = if n = total + 1 then 1 else 0 := by
  induction n with
  | zero => simp [display]
  | succ n ih =>
    rw [display_succ, List.countP_append, ih (by omega), countP_showsZero_render]
    split_ifs <;> omega

/-! ## The end of a display -/

/-- A countdown that has shown nothing yet still shows the total. -/
theorem close_hidden (names : PageNames) (total : Nat) :
    ((after total 0).close names 0).2 = (after total 0).render names (1000 * 0) total := by
  have hnot : (decide (0 < total) && decide (1000 * total ≤ 0)) = false := by
    simp only [Bool.and_eq_false_iff, decide_eq_false_iff_not]
    omega
  show (if (decide (0 < total) && decide (1000 * total ≤ 0)) = true then _ else _ : _ × _).2 = _
  rw [hnot]
  rfl

/-- Zero is made up for if the time is up, and nothing else. -/
theorem close_shown (names : PageNames) (total n nowMs : Nat) :
    ((after total (n + 1)).close names nowMs).2 =
      if n < total ∧ 1000 * total ≤ nowMs then (after total (n + 1)).render names nowMs 0
      else [] := by
  have hguard : (decide (0 < total - n) && decide (1000 * total ≤ nowMs)) =
      decide (n < total ∧ 1000 * total ≤ nowMs) := by
    rw [Bool.decide_and, decide_eq_decide.mpr Nat.sub_pos_iff_lt]
  show (if (decide (0 < total - n) && decide (1000 * total ≤ nowMs)) = true then _ else _ :
    _ × _).2 = _
  rw [hguard]
  by_cases hlate : n < total ∧ 1000 * total ≤ nowMs
  · rw [if_pos hlate, decide_eq_true hlate]
    rfl
  · rw [if_neg hlate, decide_eq_false hlate]
    rfl

/-- When a countdown that is on time is closed, it has shown all numbers that were due before. -/
theorem display_close (h : OnTime total n nowMs) (hend : nowMs ≤ 1000 * total) :
    ∃ i ≤ total,
      display names total n ++ ((after total n).close names nowMs).2 = display names total (i + 1) ∧
      1000 * i ≤ nowMs ∧ (nowMs < 1000 * (i + 1) ∨ nowMs = 1000 * (i + 1) ∧ i + 1 < total) := by
  obtain ⟨hn, hlow, hhigh⟩ := h
  cases n with
  | zero =>
    obtain rfl : nowMs = 0 := by omega
    refine ⟨0, Nat.zero_le _, ?_, by omega, by omega⟩
    rw [close_hidden, display_succ, Nat.sub_zero]
  | succ n =>
    by_cases hlate : n < total ∧ 1000 * total ≤ nowMs
    · obtain rfl : n + 1 = total := by omega
      obtain rfl : nowMs = 1000 * (n + 1) := by omega
      refine ⟨n + 1, Nat.le_refl _, ?_, Nat.le_refl _, by omega⟩
      rw [close_shown, if_pos hlate, display_succ _ _ (n + 1), Nat.sub_self]
    · refine ⟨n, by omega, ?_, by omega, by omega⟩
      rw [close_shown, if_neg hlate, List.append_nil]

end Countdown

namespace Session

variable {σ : Type} {ask : Source σ} {c : Scenario σ} {t : Session σ} {d : Deadline}

/-! ## The display of a session -/

theorem start_countdown (hd : Deadline.ofSession? c.page c.settings = some d)
    (hc : c.settings.deadline.countdown = true) :
    (Session.start c).countdown = some (Countdown.after d.secs 0) := by
  have hclamp : Countdown.ofSecs d.secs = Countdown.after d.secs 0 := by
    rw [Countdown.ofSecs, Timeout.clamp, Nat.min_eq_left d.secs_le]
    rfl
  simp only [Session.start, hc, if_true, hd, Option.map_some, hclamp]

/-- The countdown of a session is on time, and all that is written is what it shows. -/
theorem Reaches.displays (h : Reaches ask c t)
    (hd : Deadline.ofSession? c.page c.settings = some d)
    (hc : c.settings.deadline.countdown = true) :
    ∃ n, t.countdown = some (Countdown.after d.secs n) ∧
      t.writes = (Countdown.display c.settings.page d.secs n).reverse ∧
      Countdown.OnTime d.secs n t.nowMs := by
  induction h with
  | start => exact ⟨0, start_countdown hd hc, rfl, by simp [Countdown.OnTime, Session.start]⟩
  | @step t u _ hr _ hs ih =>
    obtain ⟨n, hcountdown, hwrites, hn, hlow, hhigh⟩ := ih
    cases hs with
    | @clock nextMs next =>
      refine ⟨n, hcountdown, hwrites, hn, hlow.trans (Nat.le_max_left _ _), fun hle => ?_⟩
      have hdue : t.due? .countdown = some (1000 * n) := by
        rw [due?, hcountdown, Option.bind_some, Countdown.due?_after hle]
      exact Nat.max_le.mpr ⟨hhigh hle, next?_le next hdue⟩
    | @countdown k dueMs shows due le =>
      obtain rfl : k = Countdown.after d.secs n := Option.some.inj (shows.symm.trans hcountdown)
      have hle : n ≤ d.secs := by
        by_contra hlt
        obtain rfl : n = d.secs + 1 := by omega
        rw [Countdown.due?, Countdown.next?_after_last] at due
        cases due
      have hnow : t.nowMs = 1000 * n := by
        rw [Countdown.due?_after hle, Option.some.injEq] at due
        have := hhigh hle
        omega
      refine ⟨n + 1, ?_, ?_, by omega, ?_, fun _ => ?_⟩
      · rw [write, Countdown.tick_after hle]
      · rw [write, Countdown.tick_after hle, Countdown.display_succ, List.reverse_append,
          hwrites, hr.settings_eq, hnow]
      · show 1000 * (n + 1 - 1) ≤ t.nowMs
        omega
      · show t.nowMs ≤ 1000 * (n + 1)
        omega
    | attempt | resolve | deadline | host | page =>
      exact ⟨n, hcountdown, hwrites, hn, hlow, hhigh⟩

/-- Without a countdown nothing is written. -/
theorem Reaches.silent (h : Reaches ask c t) (hc : (Session.start c).countdown = none) :
    t.countdown = none ∧ t.writes = [] := by
  induction h with
  | start => exact ⟨hc, rfl⟩
  | step _ _ hs ih =>
    cases hs with
    | countdown shows =>
      rw [ih.1] at shows
      cases shows
    | clock | attempt | resolve | deadline | host | page => exact ih

/-- A session ends at its deadline at the latest. -/
theorem Reaches.nowMs_le_deadline (h : Reaches ask c t)
    (hd : Deadline.ofSession? c.page c.settings = some d) : t.nowMs ≤ d.ms := by
  cases h with
  | start => exact Nat.zero_le _
  | @step t _ _ hr runs hs =>
    have hle : t.nowMs ≤ d.ms := hr.le_deadline ((hr.deadline_eq runs).trans hd)
    cases hs with
    | clock next => exact (hr.step runs (.clock next)).le_deadline ((hr.deadline_eq runs).trans hd)
    | attempt | resolve | deadline | countdown | host | page => exact hle

theorem close_writes {k : Countdown} (h : t.countdown = some k) :
    t.close.writes = (k.close t.settings.page t.nowMs).2.reverse ++ t.writes := by
  simp only [Session.close, h, write]

theorem close_writes_of_none (h : t.countdown = none) : t.close.writes = t.writes := by
  simp only [Session.close, h]

/-- **What is displayed.** A session with a deadline and a countdown shows the whole time at its
start, and one second less at every full second, each number with the width of the bar for it. The
last number is what is left of the time at its end, or one more if it ends before the deadline, at a
full second. Zero is shown if the time is up, once, and otherwise not at all. Nothing is written
after the end, and nothing at all without a deadline or a countdown. -/
theorem finishes_display {order : Order} (h : Finishes order ask c t) :
    (∀ d, Deadline.ofSession? c.page c.settings = some d → c.settings.deadline.countdown = true →
      ∃ last ≤ d.secs,
        t.writes.reverse = Countdown.display c.settings.page d.secs (d.secs - last + 1) ∧
        (last = d.secs - (report c t).elapsedMs / 1000 ∨
          0 < (report c t).elapsedMs ∧ (report c t).elapsedMs % 1000 = 0 ∧
            (report c t).elapsedMs < 1000 * d.secs ∧
            last = d.secs - (report c t).elapsedMs / 1000 + 1) ∧
        (last = 0 ↔ 1000 * d.secs ≤ (report c t).elapsedMs) ∧
        t.writes.countP Countdown.showsZero = (if last = 0 then 1 else 0) ∧
        ∀ w ∈ t.writes, w.atMs ≤ (report c t).elapsedMs) ∧
    (Deadline.ofSession? c.page c.settings = none ∨ c.settings.deadline.countdown = false →
      t.writes = []) := by
  obtain ⟨v, hv, -, rfl⟩ := h.reaches
  rw [report, close_nowMs]
  dsimp only
  constructor
  · intro d hd hc
    obtain ⟨n, hcountdown, hwrites, htime⟩ := hv.displays hd hc
    have hend : v.nowMs ≤ 1000 * d.secs := hv.nowMs_le_deadline hd
    obtain ⟨i, hi, hdisplay, hlow, hhigh⟩ := Countdown.display_close htime hend
    have hall : v.close.writes.reverse = Countdown.display c.settings.page d.secs (i + 1) := by
      rw [close_writes hcountdown, hwrites, List.reverse_append, List.reverse_reverse,
        List.reverse_reverse, hv.settings_eq, hdisplay]
    have hi' : d.secs - (d.secs - i) + 1 = i + 1 := by omega
    refine ⟨d.secs - i, Nat.sub_le _ _, ?_, by omega, by omega, ?_, fun w hw => ?_⟩
    · rw [hall, hi']
    · rw [← List.countP_reverse, hall, Countdown.countP_showsZero_display (by omega)]
      split_ifs <;> omega
    · rw [← List.mem_reverse, hall] at hw
      exact (Countdown.atMs_le_of_mem_display hw).trans hlow
  · intro hnone
    have hstart : (Session.start c).countdown = none := by
      rcases hnone with hd | hc
      · simp [Session.start, hd]
      · simp [Session.start, hc]
    obtain ⟨hcountdown, hwrites⟩ := hv.silent hstart
    rw [close_writes_of_none hcountdown, hwrites]

/-- A session of five seconds that its host cancels after two, before the tick of that instant. -/
def frozen : Scenario (List Answer) where
  settings := { deadline := { timeoutSecs := 5 } }
  page := {}
  source := []
  cancelAtMs := some 2000

theorem finishes_display_frozen :
    ∃ t, Finishes (fun _ => [.host, .inquiry, .deadline, .countdown, .page])
        (Script.ask "PENDING") frozen t ∧ (report frozen t).elapsedMs = 2000 ∧
      t.writes.reverse = Countdown.display frozen.settings.page 5 2 := by
  have hends : (run (fun _ => [.host, .inquiry, .deadline, .countdown, .page])
      (Script.ask "PENDING") 4 (Session.start frozen)).map
        (fun t => (t.nowMs, t.writes.length)) = some (2000, 4) := by
    decide +kernel
  obtain ⟨t, ht, hends⟩ := Option.map_eq_some_iff.mp hends
  obtain ⟨hnow, hlength⟩ := Prod.mk.inj hends
  have hd : Deadline.ofSession? frozen.page frozen.settings = some (Deadline.ofSecs 5) := rfl
  obtain ⟨last, hle, hdisplay, -⟩ := (finishes_display ⟨4, ht⟩).1 _ hd rfl
  have hsecs : (Deadline.ofSecs 5).secs = 5 := rfl
  rw [hsecs] at hle hdisplay
  have hcount := congrArg List.length hdisplay
  rw [List.length_reverse, hlength, Countdown.length_display] at hcount
  obtain rfl : last = 4 := by omega
  exact ⟨t, ⟨4, ht⟩, hnow, hdisplay⟩

end Session

end ApprovalWatch
