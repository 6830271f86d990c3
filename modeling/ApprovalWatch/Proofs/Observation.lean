import ApprovalWatch.Proofs.Silence

/-!
# The countdown looks on

Whether a page shows a countdown makes no difference to what becomes of its session. It may make one
to the order in which the parts act at an instant. This matters only to parts that meet: where no
two parts other than the countdown have something to do, any order is as good as any other.

Main results:

* `Lone.pass_hush_eq`: a part that is alone at an instant acts in any order.
* `Apart.advance_hush_eq`: parts that never meet bring a silent session forward in any order.
* `finishes_observed`: with and without a countdown, a session ends alike.
-/

namespace ApprovalWatch

/-- All parts have one turn at every instant. -/
structure Order.Fair (order : Order) : Prop where
  complete : order.Complete
  nodup : ∀ nowMs, (order nowMs).Nodup

theorem Order.usual_fair : Order.Fair Order.usual where
  complete := usual_complete
  nodup := fun _ => show Session.parts.Nodup by decide

/-- The scenario with or without a countdown. -/
def Scenario.watched {σ : Type} (c : Scenario σ) (watched : Bool) : Scenario σ :=
  { c with
    settings := { c.settings with deadline := { c.settings.deadline with countdown := watched } } }

namespace Session

variable {σ : Type} {ask : Source σ} {order order' : Order} {c : Scenario σ} {t u v : Session σ}
  {p q : Part} {n : Nat}

/-! ## Parts that are alone -/

/-- At most one part has something to do, the countdown aside. -/
def Lone (t : Session σ) : Prop :=
  ∀ p q, p ≠ .countdown → q ≠ .countdown → ¬ t.Waits p → ¬ t.Waits q → p = q

instance (t : Session σ) (p : Part) : Decidable (t.Waits p) :=
  inferInstanceAs (Decidable (∀ dueMs ∈ t.due? p, t.nowMs < dueMs))

theorem mem_parts (p : Part) : p ∈ parts := by
  cases p <;> decide

instance (t : Session σ) : Decidable t.Lone :=
  decidable_of_iff
    (∀ p ∈ parts, ∀ q ∈ parts, p ≠ .countdown → q ≠ .countdown → ¬ t.Waits p → ¬ t.Waits q → p = q)
    ⟨fun h p q => h p (mem_parts p) q (mem_parts q), fun h p _ q _ => h p q⟩

/-- A part that is alone acts, wherever in the order its turn is. -/
theorem foldl_act_of_lone {ps : List Part} (nodup : ps.Nodup) (mem : p ∈ ps)
    (others : ∀ q ∈ ps, q ≠ p → t.Waits q) (ask : Source σ) :
    ps.foldl (act ask) t = t.act ask p := by
  obtain ⟨before, after, rfl⟩ := List.append_of_mem mem
  obtain ⟨fresh, -⟩ := List.nodup_cons.mp (List.nodup_middle.mp nodup)
  have hne : ∀ q ∈ before ++ after, q ≠ p := fun q hq => ne_of_mem_of_not_mem hq fresh
  have hbefore : ∀ q ∈ before, t.Waits q := fun q hq =>
    others q (List.mem_append_left _ hq) (hne q (List.mem_append_left _ hq))
  have hafter : ∀ q ∈ after, (t.act ask p).Waits q := by
    intro q hq
    have hqp := hne q (List.mem_append_right _ hq)
    exact waits_act_of_ne hqp (others q (List.mem_append_right _ (List.mem_cons_of_mem _ hq)) hqp)
      ask
  rw [List.foldl_append, foldl_act_of_waits hbefore, List.foldl_cons, foldl_act_of_waits hafter]

theorem Lone.pass_hush (h : t.Lone) (fair : order.Fair) (hp : p ≠ .countdown)
    (acts : ¬ t.Waits p) : pass order.hush ask t = t.act ask p := by
  have mem : p ∈ order.hush t.nowMs :=
    List.mem_filter.mpr ⟨fair.complete t.nowMs p, by simpa using hp⟩
  refine foldl_act_of_lone ((fair.nodup t.nowMs).filter _) mem ?_ ask
  intro q hq hne
  have hq' : q ≠ .countdown := by simpa using (List.mem_filter.mp hq).2
  by_contra hacts
  exact hne (h q p hq' hp hacts acts)

/-- **In silence the order does not matter** to a part that is alone. -/
theorem Lone.pass_hush_eq (h : t.Lone) (fair : order.Fair) (fair' : order'.Fair)
    (ask : Source σ) : pass order.hush ask t = pass order'.hush ask t := by
  by_cases hacts : ∃ p, p ≠ .countdown ∧ ¬ t.Waits p
  · obtain ⟨p, hp, acts⟩ := hacts
    rw [h.pass_hush fair hp acts, h.pass_hush fair' hp acts]
  · have waits : ∀ p, p ≠ .countdown → t.Waits p := by
      intro p hp
      by_contra acts
      exact hacts ⟨p, hp, acts⟩
    have hsame : ∀ ord : Order, pass ord.hush ask t = t := fun ord =>
      foldl_act_of_waits (fun p hp => waits p (by simpa using (List.mem_filter.mp hp).2)) ask
    rw [hsame, hsame]

theorem lone_hush : t.hush.Lone ↔ t.Lone := by
  constructor
  · intro h p q hp hq hpw hqw
    exact h p q hp hq (mt (waits_hush hp).mp hpw) (mt (waits_hush hq).mp hqw)
  · intro h p q hp hq hpw hqw
    exact h p q hp hq (mt (waits_hush hp).mpr hpw) (mt (waits_hush hq).mpr hqw)

/-! ## Parts that never meet -/

/-- At the next instant, unless it is the start, a part is alone. -/
def LoneNext (t : Session σ) : Prop :=
  t.cancelled = false → ∀ nextMs ∈ t.next?, 0 < max t.nowMs nextMs →
    Lone { t with nowMs := max t.nowMs nextMs }

instance (t : Session σ) : Decidable t.LoneNext :=
  inferInstanceAs (Decidable (t.cancelled = false → ∀ nextMs ∈ t.next?, 0 < max t.nowMs nextMs →
    Lone { t with nowMs := max t.nowMs nextMs }))

/-- After the start, no two parts other than the countdown act at the same instant. -/
def Apart (order : Order) (ask : Source σ) (t : Session σ) : Prop :=
  ∀ k v, advance order ask k t = some v → v.LoneNext

/-- Whether parts meet in a session that ends can be told from its instants. -/
theorem apart_of_run (fuel : Nat) (ends : (run order ask fuel t).isSome)
    (lone : ∀ k < fuel, (advance order ask k t).all fun v => v.LoneNext) : Apart order ask t := by
  intro k v hv
  simpa using advance_all ends lone hv

/-- Parts that never meet bring a silent session forward in any order that starts alike. -/
theorem Apart.advance_hush_eq (h : Apart order.hush ask t) (fair : order.Fair)
    (fair' : order'.Fair) (agree : order.hush 0 = order'.hush 0) (n : Nat) :
    advance order.hush ask n t = advance order'.hush ask n t := by
  induction n generalizing t with
  | zero => rfl
  | succ n ih =>
    rw [advance, advance]
    split
    · rfl
    · rename_i hruns
      have runs : t.cancelled = false := by simpa using hruns
      refine Option.bind_congr fun nextMs next => ?_
      have hpass : pass order.hush ask { t with nowMs := max t.nowMs nextMs } =
          pass order'.hush ask { t with nowMs := max t.nowMs nextMs } := by
        rcases Nat.eq_zero_or_pos (max t.nowMs nextMs) with hzero | hpos
        · rw [pass, pass, hzero, agree]
        · exact (h 0 t rfl runs nextMs next hpos).pass_hush_eq fair fair' ask
      have hrest : Apart order.hush ask
          (pass order.hush ask { t with nowMs := max t.nowMs nextMs }) := fun k v hv =>
        h (k + 1) v (advance_succ_eq_some.mpr ⟨runs, nextMs, next, hv⟩)
      rw [← hpass]
      exact ih hrest

/-- Parts that never meet do not do so in silence. -/
theorem Apart.hush (h : Apart order ask t) (complete : order.Complete) :
    Apart order.hush ask t.hush := by
  intro k v hv runs laterMs later hpos
  obtain ⟨m, w, hw, hwv⟩ := (hushed_hush t).exists_advance complete hv
  obtain ⟨m', x, nextMs, hx, hxv, next, hnow⟩ := hwv.exists_next complete runs later ask
  have lone := h (m + m') x (advance_add hw hx) (hxv.cancelled_eq ▸ runs) nextMs next (hnow ▸ hpos)
  rw [← lone_hush, hxv.hush_at, hnow] at lone
  exact lone

theorem Apart.finishes_hush_congr (h : Apart order ask (start c)) (fair : order.Fair)
    (fair' : order'.Fair) (agree : order.hush 0 = order'.hush 0) :
    Finishes order.hush ask c.hush u ↔ Finishes order'.hush ask c.hush u := by
  have hadvance := (h.hush fair.complete).advance_hush_eq fair fair' agree
  rw [hush_start] at hadvance
  simp only [finishes_iff, EndsIn, hadvance]

/-! ## With and without -/

/-- Two sessions are told apart by what is displayed at most. -/
structure SameButShown (c c' : Scenario σ) (t u : Session σ) : Prop where
  report : report c t = report c' u
  actions : t.actions = u.actions
  /-- The looks and the queries, with their instants, and the metrics. -/
  journal : t.attempts.journal = u.attempts.journal
  inputs : t.page.inputs = u.page.inputs
  attributes : t.page.attributes = u.page.attributes

theorem sameButShown_of_hush {b b' : Bool} (h : t.hush = u.hush) :
    SameButShown (c.watched b) (c.watched b') t u where
  report := (congrArg (Session.report c) h :)
  actions := (congrArg Session.actions h :)
  journal := (congrArg (·.attempts.journal) h :)
  inputs := (congrArg (·.page.inputs) h :)
  attributes := (congrArg (·.page.attributes) h :)

/-- **The countdown looks on.** Take two sessions of a scenario, each with or without a countdown.
The other parts have their turns in the same order in both, or they do so at the start, and after it
no two of them have something to do at the same instant. Then one session comes to an end if the
other does, and the two ends are told apart by what is displayed at most. -/
theorem finishes_observed {b : Bool} (fair : order.Fair) (fair' : order'.Fair)
    (turns : order.hush = order'.hush ∨
      order.hush 0 = order'.hush 0 ∧ Apart order ask (start (c.watched b))) (b' : Bool) :
    ((∃ t, Finishes order ask (c.watched b) t) ↔ ∃ u, Finishes order' ask (c.watched b') u) ∧
    ∀ t u, Finishes order ask (c.watched b) t → Finishes order' ask (c.watched b') u →
      SameButShown (c.watched b) (c.watched b') t u := by
  have horder : ∀ s, Finishes order.hush ask (c.watched b).hush s ↔
      Finishes order'.hush ask (c.watched b).hush s := by
    intro s
    rcases turns with same | ⟨agree, apart⟩
    · rw [same]
    · exact apart.finishes_hush_congr fair fair' agree
  -- in silence there is no telling which of the two had a countdown
  have hsilent : ∀ s, (∃ t, Finishes order ask (c.watched b) t ∧ t.hush = s) ↔
      ∃ u, Finishes order' ask (c.watched b') u ∧ u.hush = s := by
    intro s
    rw [← finishes_hush_iff fair.complete, horder, ← finishes_hush_iff fair'.complete]
    exact Iff.rfl
  refine ⟨⟨?_, ?_⟩, ?_⟩
  · rintro ⟨t, ht⟩
    obtain ⟨u, hu, -⟩ := (hsilent t.hush).mp ⟨t, ht, rfl⟩
    exact ⟨u, hu⟩
  · rintro ⟨u, hu⟩
    obtain ⟨t, ht, -⟩ := (hsilent u.hush).mpr ⟨u, hu, rfl⟩
    exact ⟨t, ht⟩
  · rintro t u ht ⟨fuel, hu⟩
    obtain ⟨u', ⟨fuel', hu'⟩, heq⟩ := (hsilent t.hush).mp ⟨t, ht, rfl⟩
    obtain rfl := run_unique hu hu'
    exact sameButShown_of_hush heq.symm

/-- A session that shows its countdown in the very field that it reads, and the bar in the element
that told the deadline. Its page changes and its approval comes while the countdown ticks. -/
def overwritten : Scenario (List Answer) where
  settings :=
    { page := { countdownNumber := "pushAuthPushId", countdownBar := "countdown" }
      retry := { delayMs := 1000 } }
  page :=
    { inputs := [("pushAuthPushId", "p-1")]
      attributes := [(("countdown", "redirect-seconds"), "30")] }
  hiddenReads := 1
  timeline := [⟨2000, "pushAuthPushId", some "p-2"⟩]
  source := [⟨some 500, .ok "PENDING"⟩, ⟨some 500, .ok "APPROVED"⟩]

/-- The usual order at the start, and the reverse of it from then on. -/
def reversedLater : Order :=
  fun nowMs => if nowMs = 0 then Order.usual 0 else (Order.usual nowMs).reverse

theorem reversedLater_fair : reversedLater.Fair where
  complete := by
    intro nowMs p
    unfold reversedLater
    split
    · exact Order.usual_complete 0 p
    · exact List.mem_reverse.mpr (Order.usual_complete nowMs p)
  nodup := by
    intro nowMs
    unfold reversedLater
    split
    · exact Order.usual_fair.nodup 0
    · exact List.nodup_reverse.mpr (Order.usual_fair.nodup nowMs)

theorem finishes_observed_overwritten :
    ∃ t u, Finishes Order.usual (Script.ask "PENDING") (overwritten.watched true) t ∧
      Finishes reversedLater (Script.ask "PENDING") (overwritten.watched false) u ∧
      SameButShown (overwritten.watched true) (overwritten.watched false) t u ∧
      t.attempts.journal.queries = [(2500, "p-2"), (1000, "p-1")] ∧
      t.writes.length = 6 ∧ t.page.text? "pushAuthPushId" = some "28" ∧
      (report (overwritten.watched false) u).elapsedMs = 3000 := by
  have hends : (run Order.usual (Script.ask "PENDING") 8 (start (overwritten.watched true))).map
      (fun t => (t.attempts.journal.queries, t.writes.length, t.page.text? "pushAuthPushId",
        t.nowMs)) = some ([(2500, "p-2"), (1000, "p-1")], 6, some "28", 3000) := by
    decide +kernel
  obtain ⟨t, ht, hends⟩ := Option.map_eq_some_iff.mp hends
  obtain ⟨hqueries, hlength, htext, helapsed⟩ := by simpa only [Prod.mk.injEq] using hends
  have apart : Apart Order.usual (Script.ask "PENDING") (start (overwritten.watched true)) :=
    apart_of_run 8 (by decide +kernel) (by decide +kernel)
  obtain ⟨hfinishes, hsame⟩ :=
    finishes_observed Order.usual_fair reversedLater_fair (.inr ⟨rfl, apart⟩) false
  obtain ⟨u, hu⟩ := hfinishes.mp ⟨t, 8, ht⟩
  have hseen := hsame t u ⟨8, ht⟩ hu
  refine ⟨t, u, ⟨8, ht⟩, hu, hseen, hqueries, hlength, htext, ?_⟩
  rw [← hseen.report]
  exact helapsed

end Session

end ApprovalWatch
