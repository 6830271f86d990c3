import ApprovalWatch.Proofs.Display

/-!
# Countdowns on their own

A countdown that is begun late makes up for the ticks that it missed, goes on at every full second,
and stops where zero is shown or where it is cancelled. A tick and a cancellation may come at the
same instant, in either order; whichever it is, no number is left out or shown twice, and zero is
shown last if the time is up.

Main results:

* `elapses_run`: what a countdown does is one of the ways in which its time may elapse.
* `Elapses.countsDown`: what is the same in all of them.
* `run_countsDown`: what a countdown shows, and when it ends.
-/

namespace ApprovalWatch

theorem Page.text?_setText_self (p : Page) (element text : String) :
    (p.setText element text).text? element = some text :=
  Assoc.get?_set_self element text p.texts

theorem Page.width?_setWidth_self (p : Page) (element width : String) :
    (p.setWidth element width).width? element = some width :=
  Assoc.get?_set_self element width p.widths

namespace Countdown

variable {names : PageNames} {total lateMs nowMs n : Nat} {stopMs : Option Nat} {c : Countdown}
  {r : Run}

/-! ## What is shown -/

/-- The writes for one number: the number itself, and the width of the bar for it. -/
def numberAt (names : PageNames) (total atMs left : Nat) : List Write :=
  [⟨atMs, .text, names.countdownNumber, toString left⟩,
    ⟨atMs, .width, names.countdownBar, Decimal.shortest (progressPercent left total) ++ "%"⟩]

/-- The writes for the first so many numbers of a countdown that is begun at `lateMs`: one number
at every full second, or at once where that is past. -/
def lateDisplay (names : PageNames) (total lateMs numbers : Nat) : List Write :=
  (List.range numbers).flatMap fun i => numberAt names total (max lateMs (1000 * i)) (total - i)

/-- The page as it is at an instant, once all is written that is due. -/
def pageAt (p : Page) (r : Run) (atMs : Nat) : Page :=
  (r.writes.filter (·.atMs ≤ atMs)).foldl Page.apply p

theorem lateDisplay_succ (names : PageNames) (total lateMs n : Nat) :
    lateDisplay names total lateMs (n + 1) =
      lateDisplay names total lateMs n ++
        numberAt names total (max lateMs (1000 * n)) (total - n) := by
  rw [lateDisplay, List.range_succ, List.flatMap_append, List.flatMap_singleton]
  rfl

theorem render_after (names : PageNames) (total n nowMs left : Nat) :
    (after total n).render names nowMs left = numberAt names total nowMs left := by
  rw [render, after_total, numberAt]

theorem atMs_of_mem_numberAt {w : Write} {left : Nat}
    (h : w ∈ numberAt names total nowMs left) : w.atMs = nowMs := by
  simp only [numberAt, List.mem_cons, List.not_mem_nil, or_false] at h
  rcases h with rfl | rfl <;> rfl

/-- The writes up to an instant are those of the full seconds up to then. -/
theorem filter_lateDisplay {atMs : Nat} (hlate : lateMs ≤ atMs) (numbers : Nat) :
    (lateDisplay names total lateMs numbers).filter (·.atMs ≤ atMs) =
      lateDisplay names total lateMs (min numbers (atMs / 1000 + 1)) := by
  induction numbers with
  | zero =>
    rw [Nat.zero_min]
    rfl
  | succ n ih =>
    rw [lateDisplay_succ, List.filter_append, ih]
    by_cases hn : n ≤ atMs / 1000
    · have hall : ∀ w ∈ numberAt names total (max lateMs (1000 * n)) (total - n),
          decide (w.atMs ≤ atMs) = true := by
        intro w hw
        rw [atMs_of_mem_numberAt hw, decide_eq_true_iff]
        omega
      rw [List.filter_eq_self.mpr hall, Nat.min_eq_left (by omega), Nat.min_eq_left (by omega),
        lateDisplay_succ]
    · have hnone : ∀ w ∈ numberAt names total (max lateMs (1000 * n)) (total - n),
          ¬ decide (w.atMs ≤ atMs) = true := by
        intro w hw
        rw [atMs_of_mem_numberAt hw, decide_eq_true_iff]
        omega
      rw [List.filter_eq_nil_iff.mpr hnone, List.append_nil, Nat.min_eq_right (by omega),
        Nat.min_eq_right (by omega)]

/-! ## How time elapses -/

/-- The instant at which a countdown notices its cancellation, if there is one. -/
def stopMs? (lateMs : Nat) (cancelled : Bool) (cancelAtMs : Option Nat) : Option Nat :=
  if cancelled then some lateMs else cancelAtMs.map (max lateMs)

/-- What a countdown may do from an instant on: its ticks come when they are due, or at once where
that is past, until zero is shown or it is stopped. Where a tick and the stop come at the same
instant, either may be first. -/
inductive Elapses (names : PageNames) (stopMs : Option Nat) : Countdown → Nat → Run → Prop
  | done {c : Countdown} {nowMs : Nat} (due : c.due? = none) :
      Elapses names stopMs c nowMs ⟨[], nowMs⟩
  | tick {c : Countdown} {nowMs dueMs : Nat} {r : Run} (due : c.due? = some dueMs)
      (le : ∀ s ∈ stopMs, max nowMs dueMs ≤ s)
      (rest : Elapses names stopMs (c.tick names (max nowMs dueMs)).1 (max nowMs dueMs) r) :
      Elapses names stopMs c nowMs ⟨(c.tick names (max nowMs dueMs)).2 ++ r.writes, r.endMs⟩
  | stop {c : Countdown} {nowMs dueMs s : Nat} (due : c.due? = some dueMs) (stop : stopMs = some s)
      (now_le : nowMs ≤ s) (le : s ≤ max nowMs dueMs) :
      Elapses names stopMs c nowMs ⟨(c.close names s).2, s⟩

theorem due?_after_last (total : Nat) : (after total (total + 1)).due? = none := by
  rw [due?, next?_after_last, Option.map_none]

theorem of_due?_after {dueMs : Nat} (hn : n ≤ total + 1)
    (h : (after total n).due? = some dueMs) : n ≤ total ∧ dueMs = 1000 * n := by
  by_cases hle : n ≤ total
  · rw [due?_after hle, Option.some.injEq] at h
    exact ⟨hle, h.symm⟩
  · obtain rfl : n = total + 1 := by omega
    rw [due?_after_last] at h
    cases h

/-- A tick that is overdue comes at once. -/
theorem Elapses.overdue (h : Elapses names stopMs (after total (n + 1)) nowMs r) (hn : n ≤ total)
    (hdue : 1000 * n ≤ nowMs) (hstop : ∀ s ∈ stopMs, nowMs ≤ s) :
    Elapses names stopMs (after total n) nowMs
      ⟨(after total n).render names nowMs (total - n) ++ r.writes, r.endMs⟩ := by
  have hnow : max nowMs (1000 * n) = nowMs := Nat.max_eq_left hdue
  have htick : Elapses names stopMs (after total n) nowMs
      ⟨((after total n).tick names (max nowMs (1000 * n))).2 ++ r.writes, r.endMs⟩ := by
    refine .tick (due?_after hn) ?_ ?_
    · rw [hnow]
      exact hstop
    · rw [hnow, tick_after hn]
      exact h
  rw [hnow, tick_after hn] at htick
  exact htick

/-- Ticks that are made up at an instant may be followed by whatever may happen from then on. -/
theorem exists_catchUp (names : PageNames) (hn : n ≤ total + 1)
    (hstop : ∀ s ∈ stopMs, nowMs ≤ s) (fuel : Nat) :
    ∃ m ws, (after total n).catchUp names nowMs fuel = (after total m, ws) ∧
      n ≤ m ∧ m ≤ total + 1 ∧ (m ≤ total → m = n + fuel ∨ nowMs < 1000 * m) ∧
      ∀ r, Elapses names stopMs (after total m) nowMs r →
        Elapses names stopMs (after total n) nowMs ⟨ws ++ r.writes, r.endMs⟩ := by
  induction fuel generalizing n with
  | zero => exact ⟨n, [], rfl, Nat.le_refl n, hn, fun _ => .inl rfl, fun r hr => hr⟩
  | succ fuel ih =>
    by_cases hdue : n ≤ total ∧ 1000 * n ≤ nowMs
    · obtain ⟨m, ws, heq, hle, hm, hrest, helapses⟩ := ih (n := n + 1) (by omega)
      have hany : (after total n).due?.any (· ≤ nowMs) = true := by
        rw [due?_after hdue.1]
        exact decide_eq_true hdue.2
      refine ⟨m, (after total n).render names nowMs (total - n) ++ ws, ?_, by omega, hm, ?_, ?_⟩
      · rw [catchUp, if_pos hany, tick_after hdue.1]
        dsimp only
        rw [heq]
      · intro hm
        have := hrest hm
        omega
      · intro r hr
        rw [List.append_assoc]
        exact (helapses r hr).overdue hdue.1 hdue.2 hstop
    · have hany : (after total n).due?.any (· ≤ nowMs) = false := by
        by_cases hle : n ≤ total
        · rw [due?_after hle]
          exact decide_eq_false fun hnow => hdue ⟨hle, hnow⟩
        · obtain rfl : n = total + 1 := by omega
          rw [due?_after_last]
          rfl
      refine ⟨n, [], ?_, Nat.le_refl n, hn, by omega, fun r hr => hr⟩
      rw [catchUp, if_neg (Bool.eq_false_iff.mp hany)]

/-- Nothing happens before the next tick is due. -/
theorem Elapses.wait {dueMs : Nat} (h : Elapses names stopMs c dueMs r)
    (hdue : c.due? = some dueMs) (hle : nowMs ≤ dueMs) : Elapses names stopMs c nowMs r := by
  have hmax : max dueMs dueMs = max nowMs dueMs := by omega
  cases h with
  | done due =>
    rw [hdue] at due
    cases due
  | tick due le rest =>
    obtain rfl := Option.some.inj (hdue.symm.trans due)
    rw [hmax] at le rest ⊢
    exact .tick hdue le rest
  | stop due stop now_le le =>
    obtain rfl := Option.some.inj (hdue.symm.trans due)
    rw [hmax] at le
    exact .stop hdue stop (Nat.le_trans hle now_le) le

/-- What a countdown does from an instant on at which it looks at the clock. -/
theorem elapses_runFrom {cancelMs : Option Nat} (fuel : Nat) (hn : n ≤ total)
    (hdue : 1000 * n ≤ nowMs) (hfuel : total + 2 ≤ fuel + n) (hlate : lateMs ≤ nowMs)
    (hstop : ∀ s ∈ cancelMs.map (max lateMs), nowMs ≤ s) :
    Elapses names (cancelMs.map (max lateMs)) (after total n) nowMs
      (runFrom names cancelMs fuel (after total n) nowMs) := by
  induction fuel generalizing n nowMs with
  | zero => omega
  | succ fuel ih =>
    obtain ⟨m, ws, heq, -, hm, hrest, helapses⟩ :=
      exists_catchUp names (Nat.le_succ_of_le hn) hstop (total + 1)
    rw [runFrom, after_total, heq]
    dsimp only
    by_cases hlast : m ≤ total
    · have hnext : nowMs < 1000 * m := by
        have := hrest hlast
        omega
      have hgo : (∀ s ∈ cancelMs.map (max lateMs), 1000 * m ≤ s) →
          Elapses names (cancelMs.map (max lateMs)) (after total m) nowMs
            (runFrom names cancelMs fuel (after total m) (1000 * m)) := fun hstop =>
        (ih hlast (Nat.le_refl _) (by omega) (by omega) hstop).wait (due?_after hlast) hnext.le
      rw [due?_after hlast]
      dsimp only
      cases cancelMs with
      | none => exact helapses _ (hgo nofun)
      | some e =>
        have hnow : nowMs ≤ max lateMs e := hstop _ rfl
        dsimp only
        by_cases hfirst : max nowMs e < 1000 * m
        · have hend : max lateMs e = max nowMs e := by omega
          rw [if_pos hfirst, ← hend]
          exact helapses ⟨_, _⟩ (.stop (due?_after hlast) rfl hnow (by omega))
        · rw [if_neg hfirst]
          refine helapses _ (hgo ?_)
          rintro s ⟨⟩
          omega
    · obtain rfl : m = total + 1 := by omega
      rw [due?_after_last]
      have hdone := helapses _ (.done (due?_after_last total))
      rw [List.append_nil] at hdone
      exact hdone

theorem ofSecs_eq (secs : Nat) : ofSecs secs = after (min secs 2147483) 0 :=
  rfl

/-- What a countdown does is one of the ways in which its time may elapse. -/
theorem elapses_run (names : PageNames) (secs lateMs : Nat) (cancelled : Bool)
    (cancelAtMs : Option Nat) :
    Elapses names (stopMs? lateMs cancelled cancelAtMs) (ofSecs secs) lateMs
      ((ofSecs secs).run names lateMs cancelled cancelAtMs) := by
  rw [ofSecs_eq, run, stopMs?]
  have hdue : (after (min secs 2147483) 0).due? = some (1000 * 0) := due?_after (Nat.zero_le _)
  cases cancelled with
  | true => exact .stop hdue rfl (Nat.le_refl _) (Nat.le_max_left _ _)
  | false =>
    refine elapses_runFrom _ (Nat.zero_le _) (Nat.zero_le _) (Nat.le_refl _) (Nat.le_refl _) ?_
    rintro s hs
    obtain ⟨e, -, rfl⟩ := Option.map_eq_some_iff.mp hs
    exact Nat.le_max_left _ _

/-! ## What is the same whichever is first -/

/-- What a countdown of `total` seconds does that is begun at `lateMs` and, if at all, stopped at
`stopMs`. -/
structure CountsDown (names : PageNames) (total lateMs : Nat) (stopMs : Option Nat) (r : Run) :
    Prop where
  /-- The numbers go down from the total one by one; zero is added if the countdown is stopped
  above zero and the time is up. Nothing that was due before the stop is left out. -/
  writes : ∃ last ≤ total,
    r.writes = lateDisplay names total lateMs (total - last + 1) ++
      (if 0 < last ∧ stopMs.any (1000 * total ≤ ·) then numberAt names total r.endMs 0 else []) ∧
    max lateMs (1000 * (total - last)) ≤ r.endMs ∧
    (0 < last → stopMs = some r.endMs ∧ r.endMs ≤ max lateMs (1000 * (total - last + 1)))
  /-- It ends when it is stopped or when zero is due, whichever comes first. -/
  endMs : r.endMs = stopMs.elim (max lateMs (1000 * total)) (min · (max lateMs (1000 * total)))
  /-- If it is not stopped, all numbers are shown, each from its instant on. -/
  unstopped : stopMs = none →
    r.writes = lateDisplay names total lateMs (total + 1) ∧
    ∀ p atMs, lateMs ≤ atMs →
      (pageAt p r atMs).text? names.countdownNumber = some (toString (total - atMs / 1000)) ∧
      (pageAt p r atMs).width? names.countdownBar =
        some (Decimal.shortest (progressPercent (total - atMs / 1000) total) ++ "%")

/-- A countdown that is closed before it showed anything still shows the total. -/
theorem close_unshown (names : PageNames) (total nowMs : Nat) :
    ((after total 0).close names nowMs).2 =
      numberAt names total nowMs total ++ ((after total 1).close names nowMs).2 := by
  show (if (decide (0 < total) && decide (1000 * total ≤ nowMs)) = true then _ else _ : _ × _).2 =
    _ ++ (if (decide (0 < total - 0) && decide (1000 * total ≤ nowMs)) = true then _ else _ :
      _ × _).2
  rw [Nat.sub_zero]
  split_ifs
  · rfl
  · exact (List.append_nil _).symm

/-- What is shown when a countdown is closed at an instant. -/
theorem lateDisplay_close {s : Nat} (hlate : n = 0 → s = lateMs) :
    lateDisplay names total lateMs n ++ ((after total n).close names s).2 =
      lateDisplay names total lateMs (max n 1) ++
        if max n 1 ≤ total ∧ 1000 * total ≤ s then numberAt names total s 0 else [] := by
  cases n with
  | zero =>
    have hs : max lateMs (1000 * 0) = s := by
      have := hlate rfl
      omega
    rw [close_unshown, close_shown, render_after, Nat.max_eq_right Nat.zero_lt_one.le,
      lateDisplay_succ, hs, Nat.sub_zero, List.append_assoc]
    simp only [Nat.succ_le_iff]
  | succ n =>
    rw [close_shown, render_after, Nat.max_eq_left (Nat.succ_le_succ (Nat.zero_le n))]
    simp only [Nat.succ_le_iff]

/-- How a countdown that has shown so many numbers goes on. -/
theorem Elapses.shows (h : Elapses names stopMs c nowMs r) :
    ∀ n ≤ total + 1, c = after total n → nowMs = max lateMs (1000 * (n - 1)) →
      (∀ s ∈ stopMs, nowMs ≤ s) →
      ∃ m, 1 ≤ m ∧ m ≤ total + 1 ∧ lateDisplay names total lateMs n ++ r.writes =
          lateDisplay names total lateMs m ++
            (if m ≤ total ∧ stopMs.any (1000 * total ≤ ·) then numberAt names total r.endMs 0
              else []) ∧
        max lateMs (1000 * (m - 1)) ≤ r.endMs ∧
        (m ≤ total → stopMs = some r.endMs ∧ r.endMs ≤ max lateMs (1000 * m)) ∧
        (m = total + 1 → r.endMs = max lateMs (1000 * total) ∧ ∀ s ∈ stopMs, r.endMs ≤ s) := by
  induction h with
  | done due =>
    rintro n hn rfl rfl hstop
    obtain rfl : n = total + 1 := by
      by_contra hne
      rw [due?_after (by omega)] at due
      cases due
    refine ⟨total + 1, by omega, Nat.le_refl _, ?_, Nat.le_refl _, by omega, fun _ => ⟨rfl, hstop⟩⟩
    rw [if_neg (by omega)]
  | tick due le rest ih =>
    rintro n hn rfl rfl hstop
    obtain ⟨hle, rfl⟩ := of_due?_after hn due
    have hnow : max (max lateMs (1000 * (n - 1))) (1000 * n) = max lateMs (1000 * n) := by omega
    rw [hnow] at le ih ⊢
    rw [tick_after hle] at ih ⊢
    obtain ⟨m, hm, hlast, heq, hend⟩ := ih (n + 1) (by omega) rfl rfl le
    refine ⟨m, hm, hlast, ?_, hend⟩
    rw [← heq, lateDisplay_succ, render_after, List.append_assoc]
  | @stop _ _ dueMs s due stop now_le le =>
    rintro n hn rfl rfl hstop
    obtain ⟨hle, rfl⟩ := of_due?_after hn due
    have hlate : n = 0 → s = lateMs := by omega
    refine ⟨max n 1, by omega, by omega, ?_, ?_, fun _ => ⟨stop, ?_⟩, fun hm => ⟨?_, ?_⟩⟩
    · rw [lateDisplay_close hlate, stop, Option.any_some]
      simp only [decide_eq_true_eq]
    · dsimp only
      omega
    · dsimp only
      omega
    · dsimp only
      omega
    · intro s' hs'
      rw [stop] at hs'
      cases hs'
      exact Nat.le_refl s

/-- What is the same in all ways in which the time of a countdown may elapse. -/
theorem Elapses.countsDown (h : Elapses names stopMs (after total 0) lateMs r)
    (hstop : ∀ s ∈ stopMs, lateMs ≤ s) : CountsDown names total lateMs stopMs r := by
  obtain ⟨m, hm, hlast, heq, hlow, hstopped, hdone⟩ :=
    h.shows 0 (Nat.zero_le _) rfl (Nat.max_eq_left (Nat.zero_le lateMs)).symm hstop
  have hend : r.endMs =
      stopMs.elim (max lateMs (1000 * total)) (min · (max lateMs (1000 * total))) := by
    by_cases hle : m ≤ total
    · obtain ⟨hs, hhigh⟩ := hstopped hle
      rw [hs]
      dsimp only [Option.elim_some]
      omega
    · obtain ⟨hzero, hfirst⟩ := hdone (by omega)
      cases stopMs with
      | none => exact hzero
      | some s =>
        have hle := hfirst s rfl
        dsimp only [Option.elim_some]
        omega
  refine ⟨⟨total + 1 - m, by omega, ?_, ?_, fun hpos => ?_⟩, hend, fun hnone => ?_⟩
  · have hnumbers : total - (total + 1 - m) + 1 = m := by omega
    simp only [hnumbers, Nat.sub_pos_iff_lt, Nat.lt_succ_iff]
    exact heq
  · have hshown : total - (total + 1 - m) = m - 1 := by omega
    rw [hshown]
    exact hlow
  · have hnumbers : total - (total + 1 - m) + 1 = m := by omega
    rw [hnumbers]
    exact hstopped (by omega)
  · obtain rfl : m = total + 1 := by
      by_contra hne
      obtain ⟨hs, -⟩ := hstopped (by omega)
      rw [hnone] at hs
      cases hs
    rw [if_neg (by omega), List.append_nil] at heq
    have hwrites : r.writes = lateDisplay names total lateMs (total + 1) := heq
    refine ⟨hwrites, fun p atMs hat => ?_⟩
    have hleft : total - min total (atMs / 1000) = total - atMs / 1000 := by omega
    rw [pageAt, hwrites, filter_lateDisplay hat, Nat.add_min_add_right, lateDisplay_succ,
      List.foldl_append, hleft]
    exact ⟨Page.text?_setText_self _ _ _, Page.width?_setWidth_self _ _ _⟩

theorem le_stopMs? {cancelled : Bool} {cancelAtMs : Option Nat} :
    ∀ s ∈ stopMs? lateMs cancelled cancelAtMs, lateMs ≤ s := by
  intro s hs
  cases cancelled with
  | true =>
    cases hs
    exact Nat.le_refl _
  | false =>
    obtain ⟨e, -, rfl⟩ := Option.map_eq_some_iff.mp hs
    exact Nat.le_max_left _ _

/-- **What a countdown shows.** A countdown of any number of seconds, which is cut down to the
longest timeout, begun at any instant and cancelled at any or never, shows the total and then one
less each time, every number with the width of the bar for it, and makes up at once for what it
missed before it was begun. It ends when zero is shown or when it is cancelled; if it is cancelled
above zero, but not before the time is up, it still shows zero. This holds of every way in which
ticks and the cancellation may come at the same instant. If it is never cancelled, the page shows
the seconds that are left at every instant. -/
theorem run_countsDown (names : PageNames) (secs lateMs : Nat) (cancelled : Bool)
    (cancelAtMs : Option Nat) :
    let stopMs := stopMs? lateMs cancelled cancelAtMs
    let total := min secs 2147483
    CountsDown names total lateMs stopMs
        ((ofSecs secs).run names lateMs cancelled cancelAtMs) ∧
      ∀ r, Elapses names stopMs (ofSecs secs) lateMs r → CountsDown names total lateMs stopMs r :=
  ⟨(elapses_run names secs lateMs cancelled cancelAtMs).countsDown le_stopMs?,
    fun _ h => h.countsDown le_stopMs?⟩

/-- A countdown that is begun late, and one that is cancelled between two ticks. -/
theorem run_countsDown_late :
    ((ofSecs 4).run {} 2500 false none).endMs = 4000 ∧
      (pageAt {} ((ofSecs 4).run {} 2500 false none) 2999).text? "countdown-number" = some "2" ∧
      ((ofSecs 10).run {} 0 false (some 2500)).writes = lateDisplay {} 10 0 3 := by
  obtain ⟨hlate, -⟩ := run_countsDown {} 4 2500 false none
  obtain ⟨⟨last, hlast, hwrites, hlow, hhigh⟩, hend, -⟩ :=
    (run_countsDown {} 10 0 false (some 2500)).1
  refine ⟨hlate.endMs, ((hlate.unstopped rfl).2 {} 2999 (by decide)).1, ?_⟩
  have htotal : min 10 2147483 = 10 := rfl
  have hend : ((ofSecs 10).run {} 0 false (some 2500)).endMs = 2500 := hend
  have hstop : (stopMs? 0 false (some 2500)).any (decide <| 1000 * 10 ≤ ·) = false := rfl
  rw [hend, htotal] at hlow hhigh
  rw [htotal] at hlast hwrites
  obtain rfl : last = 8 := by
    have hpos : 0 < last := by omega
    have := (hhigh hpos).2
    omega
  rw [hwrites, hstop, if_neg (by decide), List.append_nil]

end Countdown

end ApprovalWatch
