import ApprovalWatch.Proofs.Race

/-!
# Sessions in silence

A countdown adds two things to a session: writes to its page, and instants at which only it acts.
`hush` leaves out the former. What remains is a session of the scenario without a countdown, whose
clock does not stop at the latter; its other parts act in the order that they had.

Main results:

* `hush_act`, `hush_act_countdown`: a turn does the same in silence, where the countdown has none.
* `frame_act`, `due?_act_of_ne`: a turn leaves alone when the other parts are due.
* `Hushed.pass`: what is done at an instant is done in silence, or there is nothing to be done.
* `Hushed.advance`, `Hushed.exists_advance`: each of the two sessions keeps up with the other.
* `finishes_hush_iff`: the ends in silence are the ends with a countdown, hushed.
-/

namespace ApprovalWatch

/-! ## Without a countdown -/

/-- The settings without a countdown. -/
def Settings.hush (s : Settings) : Settings :=
  { s with deadline := { s.deadline with countdown := false } }

/-- The page without what is displayed on it. -/
def Page.hush (p : Page) : Page :=
  { p with texts := [], widths := [] }

theorem Page.hush_foldl_apply (ws : List Write) (p : Page) :
    (ws.foldl Page.apply p).hush = p.hush := by
  induction ws generalizing p with
  | nil => rfl
  | cons w ws ih =>
    rw [List.foldl_cons, ih]
    unfold Page.apply
    cases w.surface <;> rfl

theorem Page.hush_change (p : Page) (e : Change) : (p.change e).hush = p.hush.change e := by
  unfold Page.change
  cases e.value <;> rfl

/-- The scenario without a countdown. -/
def Scenario.hush {σ : Type} (c : Scenario σ) : Scenario σ :=
  { c with settings := c.settings.hush, page := c.page.hush }

/-- The order of the parts without the countdown. -/
def Order.hush (order : Order) : Order :=
  fun nowMs => (order nowMs).filter (· ≠ .countdown)

namespace Session

variable {σ : Type} {ask : Source σ} {order : Order} {c : Scenario σ} {t u v : Session σ}
  {p q : Part} {n : Nat}

/-- The session without its countdown and what that has written. -/
def hush (t : Session σ) : Session σ :=
  { t with settings := t.settings.hush, page := t.page.hush, countdown := none, writes := [] }

theorem hush_start (c : Scenario σ) : (start c).hush = start c.hush :=
  rfl

@[simp] theorem hush_nowMs (t : Session σ) : t.hush.nowMs = t.nowMs :=
  rfl

@[simp] theorem hush_cancelled (t : Session σ) : t.hush.cancelled = t.cancelled :=
  rfl

theorem due?_hush (hp : p ≠ .countdown) (t : Session σ) : t.hush.due? p = t.due? p := by
  cases p with
  | countdown => exact absurd rfl hp
  | inquiry | deadline | host | page => rfl

theorem due?_hush_countdown (t : Session σ) : t.hush.due? .countdown = none :=
  rfl

/-! ## Turns -/

theorem hush_conclude (t : Session σ) (k : Conclusion) :
    (t.conclude k).hush = t.hush.conclude k := by
  unfold conclude
  exact apply_ite hush _ t (t.settle k)

theorem hush_actInquiry (ask : Source σ) (t : Session σ) :
    (t.actInquiry ask).hush = t.hush.actInquiry ask := by
  unfold actInquiry
  -- the attempts go by what is displayed as little as by whether anything is
  have heq : t.hush.attempts.act t.hush.settings ask t.hush.nowMs t.hush.identifier? =
      t.attempts.act t.settings ask t.nowMs t.identifier? := rfl
  rw [heq]
  rcases t.attempts.act t.settings ask t.nowMs t.identifier? with ⟨a, _ | _ | r⟩
  · rfl
  · rfl
  · exact hush_conclude (t.proceed a) (t.settings.conclusion r)

theorem hush_actPage (t : Session σ) : t.actPage.hush = t.hush.actPage := by
  have heq : t.hush.timeline = t.timeline := rfl
  unfold actPage
  rw [heq]
  cases t.timeline with
  | nil => rfl
  | cons e rest => simp only [hush, Page.hush_change]

theorem hush_perform (hp : p ≠ .countdown) (ask : Source σ) (t : Session σ) :
    (t.perform ask p).hush = t.hush.perform ask p := by
  cases p with
  | inquiry => exact hush_actInquiry ask t
  | deadline => exact hush_conclude { t with deadline := none } _
  | countdown => exact absurd rfl hp
  | host => rfl
  | page => exact hush_actPage t

/-- The other parts do the same in silence. -/
theorem hush_act (hp : p ≠ .countdown) (ask : Source σ) (t : Session σ) :
    (t.act ask p).hush = t.hush.act ask p := by
  unfold act
  rw [due?_hush hp, hush_cancelled, hush_nowMs]
  split
  · exact hush_perform hp ask t
  · rfl

theorem hush_write (t : Session σ) (k : Countdown) (ws : List Write) :
    (t.write k ws).hush = t.hush := by
  simp only [hush, write, Page.hush_foldl_apply]

/-- What the countdown does is not heard. -/
theorem hush_act_countdown (ask : Source σ) (t : Session σ) :
    (t.act ask .countdown).hush = t.hush := by
  rcases act_cases ask t .countdown with heq | ⟨heq, -⟩
  · rw [heq]
  · rw [heq, perform, actCountdown]
    cases t.countdown with
    | none => rfl
    | some k => exact hush_write _ _ _

theorem hush_foldl (ask : Source σ) (ps : List Part) (t : Session σ) :
    (ps.foldl (act ask) t).hush = (ps.filter (· ≠ .countdown)).foldl (act ask) t.hush := by
  induction ps generalizing t with
  | nil => rfl
  | cons p ps ih =>
    rw [List.foldl_cons, ih, List.filter_cons]
    by_cases hp : p = .countdown
    · rw [hp, hush_act_countdown]
      rfl
    · rw [if_pos (by simpa using hp), List.foldl_cons, hush_act hp]

theorem hush_pass (order : Order) (ask : Source σ) (t : Session σ) :
    (pass order ask t).hush = pass order.hush ask t.hush :=
  hush_foldl ask (order t.nowMs) t

theorem hush_close (t : Session σ) : t.close.hush = t.hush.close := by
  unfold close
  dsimp only
  cases t.countdown with
  | none => rfl
  | some k => exact hush_write { t with attempts := t.attempts.abandon } _ _

/-! ## What a turn leaves alone -/

/-- What a part makes of a session, other than by concluding it. -/
inductive Alters (t : Session σ) : Part → Session σ → Prop
  | inquiry (a : Attempts σ) : Alters t .inquiry (t.proceed a)
  | deadline : Alters t .deadline { t with deadline := none }
  | countdown (k : Countdown) (ws : List Write) : Alters t .countdown (t.write k ws)
  | host : Alters t .host { t with cancelled := true, cancelAtMs := none }
  | page (page : Page) (timeline : List Change) : Alters t .page { t with page, timeline }

/-- What neither a part nor a conclusion alters is as before after a turn of the part. -/
theorem frame_act {α : Type} (f : Session σ → α) (settles : ∀ u k, f (settle u k) = f u)
    (alters : ∀ u, Alters t p u → f u = f t) (ask : Source σ) : f (t.act ask p) = f t := by
  have concludes : ∀ u k, f (conclude u k) = f u := by
    intro u k
    unfold conclude
    split
    · rfl
    · exact settles u k
  rcases act_cases ask t p with heq | ⟨heq, -⟩
  · rw [heq]
  rw [heq]
  cases p with
  | inquiry =>
    rw [perform, actInquiry]
    rcases t.attempts.act t.settings ask t.nowMs t.identifier? with ⟨a, _ | _ | r⟩
    · exact alters _ (.inquiry a)
    · exact alters _ (.inquiry a)
    · exact (concludes _ _).trans (alters _ (.inquiry a))
  | deadline => exact (concludes _ _).trans (alters _ .deadline)
  | countdown =>
    rw [perform, actCountdown]
    cases t.countdown with
    | none => rfl
    | some k => exact alters _ (.countdown _ _)
  | host => exact alters _ .host
  | page =>
    rw [perform, actPage]
    cases t.timeline with
    | nil => rfl
    | cons e rest => exact alters _ (.page _ _)

theorem countdown_act (hp : p ≠ .countdown) (ask : Source σ) (t : Session σ) :
    (t.act ask p).countdown = t.countdown := by
  refine frame_act Session.countdown (fun _ _ => rfl) ?_ ask
  intro u h
  cases h with
  | countdown => exact absurd rfl hp
  | inquiry | deadline | host | page => rfl

theorem nowMs_act (ask : Source σ) (t : Session σ) (p : Part) :
    (t.act ask p).nowMs = t.nowMs := by
  refine frame_act Session.nowMs (fun _ _ => rfl) ?_ ask
  intro u h
  cases h <;> rfl

/-- A turn leaves alone when the other parts are due. -/
theorem due?_act_of_ne (hne : q ≠ p) (ask : Source σ) (t : Session σ) :
    (t.act ask p).due? q = t.due? q := by
  refine frame_act (due? · q) ?_ ?_ ask
  · intro u k
    cases q <;> rfl
  · intro u h
    cases h <;> cases q <;> first | rfl | exact absurd rfl hne

/-! ## Waiting -/

/-- A part has nothing to do yet. -/
def Waits (t : Session σ) (p : Part) : Prop :=
  ∀ dueMs, t.due? p = some dueMs → t.nowMs < dueMs

theorem act_of_waits (h : t.Waits p) (ask : Source σ) : t.act ask p = t := by
  rcases act_cases ask t p with heq | ⟨-, -, dueMs, due, le⟩
  · exact heq
  · exact absurd (h dueMs due) (Nat.not_lt.mpr le)

theorem foldl_act_of_waits {ps : List Part} (h : ∀ p ∈ ps, t.Waits p) (ask : Source σ) :
    ps.foldl (act ask) t = t := by
  induction ps with
  | nil => rfl
  | cons p ps ih =>
    obtain ⟨hp, hps⟩ := List.forall_mem_cons.mp h
    rw [List.foldl_cons, act_of_waits hp, ih hps]

theorem waits_act_of_ne (hne : q ≠ p) (h : t.Waits q) (ask : Source σ) :
    (t.act ask p).Waits q := by
  rw [Waits, due?_act_of_ne hne, nowMs_act]
  exact h

theorem waits_hush (hp : p ≠ .countdown) : t.hush.Waits p ↔ t.Waits p := by
  rw [Waits, Waits, due?_hush hp, hush_nowMs]

/-- The numbers that the countdown of a session has still to show. -/
def ticksLeft (t : Session σ) : Nat :=
  (t.countdown.map Countdown.left).getD 0

theorem ticksLeft_act_countdown_lt {dueMs : Nat} (runs : t.cancelled = false)
    (due : t.due? .countdown = some dueMs) (le : dueMs ≤ t.nowMs) (ask : Source σ) :
    (t.act ask .countdown).ticksLeft < t.ticksLeft := by
  rw [act_of_due runs due le]
  obtain ⟨k, hk, hdue⟩ := Option.bind_eq_some_iff.mp due
  have hleft := Countdown.left_tick hdue t.settings.page t.nowMs
  simp only [perform, actCountdown, hk, ticksLeft, write, Option.map_some, Option.getD_some]
  omega

theorem ticksLeft_act_le (ask : Source σ) (t : Session σ) (p : Part) :
    (t.act ask p).ticksLeft ≤ t.ticksLeft := by
  rcases act_cases ask t p with heq | ⟨-, runs, dueMs, due, le⟩
  · rw [heq]
  · by_cases hp : p = .countdown
    · subst hp
      exact (ticksLeft_act_countdown_lt runs due le ask).le
    · rw [ticksLeft, countdown_act hp, ticksLeft]

theorem ticksLeft_foldl_le (ask : Source σ) (ps : List Part) (t : Session σ) :
    (ps.foldl (act ask) t).ticksLeft ≤ t.ticksLeft := by
  induction ps generalizing t with
  | nil => exact Nat.le_refl _
  | cons p ps ih => exact (ih _).trans (ticksLeft_act_le ask t p)

/-- An instant at which only the countdown has something to do brings it closer to its end. -/
theorem ticksLeft_pass_lt {dueMs : Nat} (complete : order.Complete) (runs : t.cancelled = false)
    (others : ∀ p, p ≠ .countdown → t.Waits p) (due : t.due? .countdown = some dueMs)
    (le : dueMs ≤ t.nowMs) (ask : Source σ) : (pass order ask t).ticksLeft < t.ticksLeft := by
  obtain ⟨before, after, heq, first⟩ := List.eq_append_cons_of_mem (complete t.nowMs .countdown)
  have hwait : ∀ p ∈ before, t.Waits p := fun p hp => others p (ne_of_mem_of_not_mem hp first)
  rw [pass, heq, List.foldl_append, foldl_act_of_waits hwait, List.foldl_cons]
  exact (ticksLeft_foldl_le ask after _).trans_lt (ticksLeft_act_countdown_lt runs due le ask)

/-! ## Instants -/

/-- The session `u` is at what `t` is at, but for the display. Its clock may be behind, where only
the countdown has acted: nothing of its own is due before. -/
structure Hushed (t u : Session σ) : Prop where
  eq : t.hush = { u with nowMs := t.nowMs }
  le : u.nowMs ≤ t.nowMs
  runs : u.nowMs < t.nowMs → u.cancelled = false
  quiet : u.nowMs < t.nowMs → ∀ p dueMs, u.due? p = some dueMs → t.nowMs ≤ dueMs

theorem hushed_hush (t : Session σ) : Hushed t t.hush where
  eq := rfl
  le := Nat.le_refl _
  runs := fun hlt => absurd hlt (Nat.lt_irrefl _)
  quiet := fun hlt => absurd hlt (Nat.lt_irrefl _)

namespace Hushed

theorem cancelled_eq (h : Hushed t u) : t.cancelled = u.cancelled := by
  rw [← hush_cancelled, h.eq]

theorem due?_eq (h : Hushed t u) (p : Part) : t.hush.due? p = u.due? p := by
  rw [h.eq, due?_nowMs]

/-- A part that is due in silence is not the countdown, and due with a countdown as well. -/
theorem due? {dueMs : Nat} (h : Hushed t u) (due : u.due? p = some dueMs) :
    p ≠ .countdown ∧ t.due? p = some dueMs := by
  rw [← h.due?_eq] at due
  have hp : p ≠ .countdown := by
    rintro rfl
    rw [due?_hush_countdown] at due
    cases due
  exact ⟨hp, due?_hush hp t ▸ due⟩

/-- At an instant that both clocks are set to, the sessions differ in the display only. -/
theorem hush_at (h : Hushed t u) (nowMs : Nat) :
    hush { t with nowMs } = { u with nowMs } := by
  show { t.hush with nowMs } = _
  rw [h.eq]

/-- A session that is over is at the same instant in silence. -/
theorem eq_of_cancelled (h : Hushed t u) (ended : t.cancelled = true) : u = t.hush := by
  have hnow : u.nowMs = t.nowMs := by
    by_contra hne
    have runs := h.runs (Nat.lt_of_le_of_ne h.le hne)
    rw [← h.cancelled_eq, ended] at runs
    cases runs
  rw [h.eq, ← hnow]

/-- The next instant at which both sessions have something to do. -/
theorem next_eq {nextMs laterMs dueMs : Nat} (h : Hushed t u) (next : t.next? = some nextMs)
    (later : u.next? = some laterMs) (due : u.due? p = some dueMs)
    (le : dueMs ≤ max t.nowMs nextMs) : max u.nowMs laterMs = max t.nowMs nextMs := by
  have hle := h.le
  have hlater : laterMs ≤ dueMs := next?_le later due
  obtain ⟨q, hq⟩ := exists_due?_of_next? later
  have hnext : nextMs ≤ laterMs := next?_le next (h.due? hq).2
  by_cases hlt : u.nowMs < t.nowMs
  · have := h.quiet hlt q laterMs hq
    omega
  · omega

/-- The silent session stays behind as long as it has nothing to do. -/
theorem stay (h : Hushed t u) (runs : t.cancelled = false) (le : t.nowMs ≤ v.nowMs)
    (eq : v.hush = { u with nowMs := v.nowMs })
    (idle : ∀ p dueMs, u.due? p = some dueMs → v.nowMs < dueMs) : Hushed v u where
  eq := eq
  le := h.le.trans le
  runs := fun _ => h.cancelled_eq ▸ runs
  quiet := fun _ p dueMs due => (idle p dueMs due).le

/-- **An instant of a session** is one in silence, or nothing is to be done there in silence. -/
theorem pass {nextMs : Nat} (h : Hushed t u) (runs : t.cancelled = false)
    (next : t.next? = some nextMs) (order : Order) (ask : Source σ) :
    (∃ laterMs, u.next? = some laterMs ∧ max u.nowMs laterMs = max t.nowMs nextMs ∧
      Hushed (Session.pass order ask { t with nowMs := max t.nowMs nextMs })
        (Session.pass order.hush ask { u with nowMs := max u.nowMs laterMs })) ∨
    ((∀ p, p ≠ .countdown → Waits { t with nowMs := max t.nowMs nextMs } p) ∧
      Hushed (Session.pass order ask { t with nowMs := max t.nowMs nextMs }) u) := by
  have heq : (Session.pass order ask { t with nowMs := max t.nowMs nextMs }).hush =
      Session.pass order.hush ask { u with nowMs := max t.nowMs nextMs } := by
    rw [hush_pass, h.hush_at]
  by_cases some_due : ∃ p dueMs, u.due? p = some dueMs ∧ dueMs ≤ max t.nowMs nextMs
  · obtain ⟨p, dueMs, due, le⟩ := some_due
    obtain ⟨laterMs, later, -⟩ := exists_next?_le due
    have hnow := h.next_eq next later due le
    refine .inl ⟨laterMs, later, hnow, ?_⟩
    rw [hnow, ← heq]
    exact hushed_hush _
  · have idle : ∀ p dueMs, u.due? p = some dueMs → max t.nowMs nextMs < dueMs :=
      fun p dueMs due => Nat.lt_of_not_le fun le => some_due ⟨p, dueMs, due, le⟩
    have waits : ∀ p, Waits { u with nowMs := max t.nowMs nextMs } p := by
      intro p dueMs due
      rw [due?_nowMs] at due
      exact idle p dueMs due
    -- in silence the instant passes without a trace
    have heq := heq.trans (foldl_act_of_waits (fun p _ => waits p) ask)
    have hnow : (Session.pass order ask { t with nowMs := max t.nowMs nextMs }).nowMs =
        max t.nowMs nextMs := congrArg Session.nowMs heq
    refine .inr ⟨fun p hp => ?_, h.stay runs ?_ ?_ ?_⟩
    · rw [← waits_hush hp, h.hush_at]
      exact waits p
    · rw [hnow]
      exact Nat.le_max_left _ _
    · rw [heq, hnow]
    · rw [hnow]
      exact idle

/-- Whatever a session comes to, it comes to in silence. -/
theorem advance (h : Hushed t u) (hv : Session.advance order ask n t = some v) :
    ∃ m w, Session.advance order.hush ask m u = some w ∧ Hushed v w := by
  induction n generalizing t u with
  | zero =>
    cases hv
    exact ⟨0, u, rfl, h⟩
  | succ n ih =>
    obtain ⟨runs, nextMs, next, hv⟩ := advance_succ_eq_some.mp hv
    rcases h.pass runs next order ask with ⟨laterMs, later, -, hpass⟩ | ⟨-, hpass⟩
    · obtain ⟨m, w, hw, hvw⟩ := ih hpass hv
      exact ⟨m + 1, w, advance_succ_eq_some.mpr ⟨h.cancelled_eq ▸ runs, laterMs, later, hw⟩, hvw⟩
    · exact ih hpass hv

/-- A session comes to the next instant of the silent one, as its countdown does not go on for
ever. -/
theorem exists_next {laterMs : Nat} (complete : order.Complete) (h : Hushed t u)
    (runs : u.cancelled = false) (later : u.next? = some laterMs) (ask : Source σ) :
    ∃ m v nextMs, Session.advance order ask m t = some v ∧ Hushed v u ∧ v.next? = some nextMs ∧
      max v.nowMs nextMs = max u.nowMs laterMs := by
  induction hb : t.ticksLeft using Nat.strong_induction_on generalizing t with
  | _ b ih =>
    have runs' : t.cancelled = false := h.cancelled_eq ▸ runs
    obtain ⟨p, due⟩ := exists_due?_of_next? later
    obtain ⟨nextMs, next, -⟩ := exists_next?_le (h.due? due).2
    rcases h.pass runs' next order ask with ⟨laterMs', later', hnow, -⟩ | ⟨others, hpass⟩
    · rw [later] at later'
      cases later'
      exact ⟨0, t, nextMs, rfl, h, next, hnow.symm⟩
    · -- the clock went on for some part, and all others wait
      obtain ⟨q, hq⟩ := exists_due?_of_next? next
      have hle : nextMs ≤ max t.nowMs nextMs := Nat.le_max_right _ _
      rw [← due?_nowMs t (max t.nowMs nextMs)] at hq
      obtain rfl : q = .countdown := by
        by_contra hne
        exact Nat.not_lt.mpr hle (others q hne nextMs hq)
      have hlt := ticksLeft_pass_lt (t := { t with nowMs := max t.nowMs nextMs }) complete runs'
        others hq hle ask
      obtain ⟨m, v, nextMs', hv, hvu, hnext', hnow'⟩ := ih _ (hb ▸ hlt) hpass rfl
      exact ⟨m + 1, v, nextMs', advance_succ_eq_some.mpr ⟨runs', nextMs, next, hv⟩, hvu, hnext',
        hnow'⟩

/-- Whatever the silent session comes to, it comes to with a countdown. -/
theorem exists_advance (complete : order.Complete) (h : Hushed t u)
    (hv : Session.advance order.hush ask n u = some v) :
    ∃ m w, Session.advance order ask m t = some w ∧ Hushed w v := by
  induction n generalizing t u with
  | zero =>
    cases hv
    exact ⟨0, t, rfl, h⟩
  | succ n ih =>
    obtain ⟨runs, laterMs, later, hv⟩ := advance_succ_eq_some.mp hv
    obtain ⟨m, w, nextMs, hw, hwu, next, hnow⟩ := h.exists_next complete runs later ask
    have runs' : w.cancelled = false := hwu.cancelled_eq ▸ runs
    have hpass : Hushed (Session.pass order ask { w with nowMs := max w.nowMs nextMs })
        (Session.pass order.hush ask { u with nowMs := max u.nowMs laterMs }) := by
      rw [hnow, ← hwu.hush_at, ← hush_pass]
      exact hushed_hush _
    obtain ⟨m', x, hx, hxv⟩ := ih hpass hv
    exact ⟨m + (m' + 1), x,
      advance_add hw (advance_succ_eq_some.mpr ⟨runs', nextMs, next, hx⟩), hxv⟩

end Hushed

/-! ## Ends -/

theorem endsIn_hush_iff (complete : order.Complete) :
    EndsIn order.hush ask c.hush u ↔ ∃ t, EndsIn order ask c t ∧ t.hush = u := by
  have hstart : Hushed (start c) (start c.hush) := hush_start c ▸ hushed_hush (start c)
  constructor
  · rintro ⟨ended, n, hu⟩
    obtain ⟨m, t, ht, htu⟩ := hstart.exists_advance complete hu
    have ended' : t.cancelled = true := htu.cancelled_eq ▸ ended
    exact ⟨t, ⟨ended', m, ht⟩, (htu.eq_of_cancelled ended').symm⟩
  · rintro ⟨t, ⟨ended, n, ht⟩, rfl⟩
    obtain ⟨m, u, hu, htu⟩ := hstart.advance ht
    exact ⟨ended, m, htu.eq_of_cancelled ended ▸ hu⟩

/-- **The ends in silence** are the ends with a countdown, hushed. The other parts act in the same
order at every instant, be it one of the countdown or not. -/
theorem finishes_hush_iff (complete : order.Complete) :
    Finishes order.hush ask c.hush u ↔ ∃ t, Finishes order ask c t ∧ t.hush = u := by
  simp only [finishes_iff, endsIn_hush_iff complete]
  constructor
  · rintro ⟨_, ⟨t, ht, rfl⟩, rfl⟩
    exact ⟨t.close, ⟨t, ht, rfl⟩, hush_close t⟩
  · rintro ⟨_, ⟨t, ht, rfl⟩, rfl⟩
    exact ⟨t.hush, ⟨t, ht, rfl⟩, hush_close t⟩

end Session

end ApprovalWatch
