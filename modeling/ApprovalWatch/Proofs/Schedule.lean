import ApprovalWatch.Proofs.Clock
import ApprovalWatch.Proofs.History

/-!
# The schedule of the attempts

When the attempts of a session are made and what each of them reads and asks, whatever else goes on
in the session. All lists have the latest entry first.

Main results:

* `Reaches.history`: the attempts of a session are what their looks made of them.
* `Reaches.attempted`: every look is made at its instant, and finds what the page holds.
* `attempts_onSchedule`: sessions are on schedule, under way and at their end.
-/

namespace ApprovalWatch

/-! ## Legal histories -/

/-- Such looks may have been made: the first at the start, each further one when it is due after
those before, and each finds what is on the page, for which a change at the very instant may be
over or not. -/
inductive Scenario.Attempted {σ : Type} (c : Scenario σ) (ask : Source σ) : List Look → Prop
  | start : Attempted c ask []
  | look {looks : List Look} {l : Look} {done : List Change} (earlier : Attempted c ask looks)
      (due : c.settings.nextLook? ask c.source looks = some l.atMs)
      (page : c.Changed l.atMs done) (found : l.found = c.seen? looks.length done) :
      Attempted c ask (l :: looks)

/-- At the start, the attempts have their turn before the deadline and the host. -/
def Order.AsksFirst (order : Order) : Prop :=
  ∃ before after, order 0 = before ++ .inquiry :: after ∧ .deadline ∉ before ∧ .host ∉ before

theorem Order.usual_asksFirst : Order.AsksFirst Order.usual :=
  ⟨[], _, rfl, List.not_mem_nil, List.not_mem_nil⟩

namespace Scenario.Attempted

variable {σ : Type} {c : Scenario σ} {ask : Source σ} {looks : List Look}

theorem of_append {later : List Look} (h : c.Attempted ask (later ++ looks)) :
    c.Attempted ask looks := by
  induction later with
  | nil => exact h
  | cons l later ih =>
    cases h with
    | look earlier => exact ih earlier

/-- The first look is made at the start. -/
theorem getLast?_atMs (h : c.Attempted ask looks) {l : Look} (hl : looks.getLast? = some l) :
    l.atMs = 0 := by
  obtain ⟨later, rfl⟩ := List.getLast?_eq_some_iff.mp hl
  cases h.of_append with
  | look _ due => exact (Option.some.inj due).symm

/-- As long as no identifier is found, looks are made one delay after the other. -/
theorem nextLook?_of_absent (h : c.Attempted ask looks) (absent : ∀ l ∈ looks, l.found = none) :
    c.settings.nextLook? ask c.source looks = some (looks.length * c.settings.retry.delayMs) := by
  induction h with
  | start => simp [Settings.nextLook?]
  | @look looks l _ _ due _ _ ih =>
    obtain ⟨hl, hlooks⟩ := List.forall_mem_cons.mp absent
    rw [ih hlooks, Option.some.injEq] at due
    obtain ⟨atMs, found⟩ := l
    cases hl
    dsimp only at due
    simp only [Settings.nextLook?, List.length_cons]
    rw [Nat.succ_mul, due]

end Scenario.Attempted

namespace Session

variable {σ : Type} {ask : Source σ} {c : Scenario σ} {t u : Session σ}

/-! ## The attempts of a session -/

/-- An attempt is made when it is due, and not later. -/
theorem Reaches.due_eq {dueMs : Nat} (h : Reaches ask c t) (due : t.attempts.due? = some dueMs)
    (le : dueMs ≤ t.nowMs) : t.attempts.due? = some t.nowMs := by
  rw [due, Nat.le_antisymm le (h.le_due due)]

theorem Reaches.history (h : Reaches ask c t) :
    Attempts.History c.settings ask c.source t.attempts := by
  induction h with
  | start => exact Attempts.history_start _ _ _
  | step hr _ hs ih =>
    cases hs with
    | clock | countdown | host | page => exact ih
    | attempt due le eq =>
      rw [hr.settings_eq] at eq
      exact (ih.act (hr.due_eq due le) eq).1
    | resolve due le eq =>
      rw [hr.settings_eq] at eq
      exact (ih.act (hr.due_eq due le) eq).1.measure _
    | deadline => exact ih.measure _

/-- A step makes a look that is due, or none. -/
theorem Reaches.looks_cases (h : Reaches ask c t) {p : Option Part} (hs : Step ask t p u) :
    u.attempts.journal.looks = t.attempts.journal.looks ∨
    u.attempts.journal.looks = ⟨t.nowMs, t.identifier?⟩ :: t.attempts.journal.looks ∧
      u.nowMs = t.nowMs ∧
      c.settings.nextLook? ask c.source t.attempts.journal.looks = some t.nowMs := by
  cases hs with
  | clock | deadline | countdown | host | page => exact Or.inl rfl
  | attempt due le eq | resolve due le eq =>
    simp only [proceed, settle, Journal.measure]
    rw [Attempts.act_looks eq]
    split
    · rename_i hr
      have hdue := h.due_eq due le
      exact Or.inr ⟨rfl, trivial, h.history.nextLook?_of_resting hr hdue⟩
    · exact Or.inl rfl

/-- The looks of a session are legal. -/
theorem Reaches.attempted (h : Reaches ask c t) : c.Attempted ask t.attempts.journal.looks := by
  induction h with
  | start => exact .start
  | step hr _ hs ih =>
    rcases hr.looks_cases hs with heq | ⟨heq, -, due⟩
    · rw [heq]
      exact ih
    · obtain ⟨done, hdone, hfound⟩ := hr.identifier?_eq
      rw [heq]
      exact .look ih due hdone hfound

theorem Reaches.look_le (h : Reaches ask c t) :
    ∀ l ∈ t.attempts.journal.looks, l.atMs ≤ t.nowMs := by
  induction h with
  | start => exact fun _ hl => absurd hl List.not_mem_nil
  | @step t u _ hr _ hs ih =>
    rcases hr.looks_cases hs with heq | ⟨heq, hnow, -⟩
    · rw [heq]
      exact fun l hl => (ih l hl).trans hs.nowMs_le
    · rw [heq, hnow]
      exact List.forall_mem_cons.mpr ⟨Nat.le_refl _, fun l hl => ih l hl⟩

/-- No look is overdue. -/
theorem Reaches.le_nextLook (h : Reaches ask c t) {dueMs : Nat}
    (next : c.settings.nextLook? ask c.source t.attempts.journal.looks = some dueMs) :
    t.nowMs ≤ dueMs := by
  cases h.history.stage with
  | resting activity next' =>
    rw [next] at next'
    cases next'
    exact h.le_due (by simp [Attempts.due?, activity])
  | @asking sinceMs id earlier looks activity =>
    rw [looks, Settings.nextLook?] at next
    split at next
    · cases next
    · obtain ⟨l, hl, rfl⟩ := Option.map_eq_some_iff.mp next
      have hdue : t.attempts.due? = some (sinceMs + l) := by simp [Attempts.due?, activity, hl]
      exact (h.le_due hdue).trans (Nat.le_add_right _ _)
  | ended _ next' =>
    rw [next] at next'
    cases next'

/-! ## What resolves a session -/

/-- A session is concluded by its deadline, or as the latest reply tells. -/
theorem Reaches.concluded (h : Reaches ask c t) {k : Conclusion} (hk : t.latch.get? = some k) :
    k = c.settings.failed .deadlineExceeded ∨
    ∃ r, k = c.settings.conclusion r ∧ t.attempts.activity = .ended ∧
      c.settings.resolution?
        (ask.replies c.source (Look.identifiers t.attempts.journal.looks)) = some r := by
  cases h with
  | start => cases hk
  | @step t _ _ hr runs hs =>
    have hl := hr.latch_eq_none runs
    cases hs with
    | clock | attempt | countdown | host | page => exact absurd (hl.symm.trans hk) nofun
    | @resolve _ a r due le eq =>
      rw [get?_settle (t.proceed a) hl] at hk
      cases hk
      rw [hr.settings_eq] at eq ⊢
      obtain ⟨-, hresolve⟩ := hr.history.act (hr.due_eq due le) eq
      exact .inr ⟨r, rfl, (hresolve r).mp rfl⟩
    | deadline =>
      rw [get?_settle { t with deadline := none } hl] at hk
      cases hk
      exact .inl (by rw [hr.settings_eq])

/-! ## The first attempt -/

theorem Reaches.eq_start (h : Reaches ask c t) (hc : c.cancelled = true) :
    t = Session.start c := by
  induction h with
  | start => rfl
  | step _ runs _ ih =>
    rw [ih] at runs
    exact absurd hc (by simpa [Session.start] using runs)

theorem Reaches.not_cancelled (h : Reaches ask c t) (runs : t.cancelled = false) :
    c.cancelled = false := by
  cases hc : c.cancelled with
  | false => rfl
  | true =>
    rw [h.eq_start hc] at runs
    exact absurd (runs.symm.trans hc) Bool.false_ne_true

/-- Looks stay recorded. -/
theorem Reaches.looks_ne_nil (h : Reaches ask c t) {p : Option Part} (hs : Step ask t p u)
    (hne : t.attempts.journal.looks ≠ []) : u.attempts.journal.looks ≠ [] := by
  rcases h.looks_cases hs with heq | ⟨heq, -⟩
  · rw [heq]
    exact hne
  · simp [heq]

theorem conclude_looks (t : Session σ) (k : Conclusion) :
    (t.conclude k).attempts.journal.looks = t.attempts.journal.looks := by
  unfold conclude
  split <;> rfl

theorem actInquiry_looks (hr : t.attempts.isResting = true) :
    (t.actInquiry ask).attempts.journal.looks =
      ⟨t.nowMs, t.identifier?⟩ :: t.attempts.journal.looks := by
  unfold actInquiry
  rcases hact : t.attempts.act t.settings ask t.nowMs t.identifier? with ⟨a, r⟩
  have hlooks := Attempts.act_looks hact
  rw [if_pos hr] at hlooks
  dsimp only
  split
  · rw [conclude_looks]
    exact hlooks
  · exact hlooks

/-- A session at its first instant is about to look, unless it has looked already. -/
def Poised (t : Session σ) : Prop :=
  t.attempts.journal.looks ≠ [] ∨
    t.cancelled = false ∧ t.nowMs = 0 ∧ t.attempts.activity = .resting 0

theorem Poised.act_inquiry (hp : Poised t) (hr : Reaches ask c t) :
    (t.act ask .inquiry).attempts.journal.looks ≠ [] := by
  rcases hp with hne | ⟨runs, hnow, hrest⟩
  · rcases hr.act_cases .inquiry with heq | ⟨-, hs⟩
    · rw [heq]
      exact hne
    · exact hr.looks_ne_nil hs hne
  · have hact : t.act ask .inquiry = t.actInquiry ask := by
      simp [Session.act, runs, due?, Attempts.due?, hrest, perform]
    rw [hact, actInquiry_looks (by simp [Attempts.isResting, hrest])]
    exact List.cons_ne_nil _ _

theorem Poised.actCountdown (hp : Poised t) : Poised t.actCountdown := by
  unfold Session.actCountdown
  split <;> exact hp

theorem Poised.actPage (hp : Poised t) : Poised t.actPage := by
  unfold Session.actPage
  split <;> exact hp

/-- Neither the countdown nor a change of the page keeps a session from looking. -/
theorem Poised.act (hp : Poised t) (hr : Reaches ask c t) {p : Part} (hd : p ≠ .deadline)
    (hh : p ≠ .host) : Poised (t.act ask p) := by
  rcases Session.act_cases ask t p with heq | ⟨heq, -⟩
  · rw [heq]
    exact hp
  · cases p with
    | inquiry => exact Or.inl (hp.act_inquiry hr)
    | deadline => exact absurd rfl hd
    | countdown => exact heq ▸ hp.actCountdown
    | host => exact absurd rfl hh
    | page => exact heq ▸ hp.actPage

theorem Poised.foldl (hp : Poised t) (hr : Reaches ask c t) {ps : List Part}
    (hd : .deadline ∉ ps) (hh : .host ∉ ps) : Poised (ps.foldl (Session.act ask) t) := by
  induction ps generalizing t with
  | nil => exact hp
  | cons p ps ih =>
    rw [List.mem_cons, not_or] at hd hh
    have hp' := hp.act hr (fun h => hd.1 h.symm) (fun h => hh.1 h.symm)
    exact ih hp' (hr.act p) hd.2 hh.2

/-- A session that was not cancelled before its start looks at its first instant, if the attempts
have their turn before whatever could end it there. -/
theorem Finishes.looks_ne_nil {order : Order} (h : Finishes order ask c t)
    (asksFirst : order.AsksFirst) (hc : c.cancelled = false) :
    t.attempts.journal.looks ≠ [] := by
  obtain ⟨fuel, hrun⟩ := h
  cases fuel with
  | zero => cases hrun
  | succ fuel =>
    obtain ⟨nextMs, hnext, hle⟩ := exists_next?_le (t := Session.start c) (p := .inquiry)
      (show (Session.start c).due? .inquiry = some 0 from rfl)
    obtain rfl := Nat.le_zero.mp hle
    rw [run, if_neg (by simp [Session.start, hc]), hnext] at hrun
    obtain ⟨before, after, horder, hd, hh⟩ := asksFirst
    have hr : Reaches ask c { Session.start c with nowMs := max (Session.start c).nowMs 0 } :=
      Reaches.start.step hc (.clock hnext)
    -- what comes before the attempts leaves them poised, and what comes after keeps their look
    have hr' := hr.foldl before
    have hp' := Poised.foldl (.inr ⟨hc, rfl, rfl⟩) hr hd hh
    have hne := Reaches.turns (fun hr => hr.looks_ne_nil) (hr'.act .inquiry)
      (hp'.act_inquiry hr') after
    obtain ⟨v, -, hv, -, rfl⟩ := ((hr'.act .inquiry).foldl after).run (fun hr => hr.looks_ne_nil)
      hne (by simpa [pass, Session.start, horder] using hrun)
    rw [close_attempts, Attempts.abandon_looks]
    exact hv

/-! ## The schedule -/

/-- The first query is the one that the first identifier led to. -/
theorem getLast?_query? {later earlier : List Look} (atMs : Nat) (id : String)
    (absent : ∀ l ∈ earlier, l.found = none) :
    ((later ++ ⟨atMs, some id⟩ :: earlier).filterMap Look.query?).getLast? = some (atMs, id) := by
  have hnone : earlier.filterMap Look.query? = [] :=
    List.filterMap_eq_nil_iff.mpr fun l hl => Look.query?_eq_none.mpr (absent l hl)
  rw [List.filterMap_append, List.filterMap_cons_some (Look.query?_some atMs id),
    hnone, List.getLast?_concat]

/-- The misses are those before the first identifier, if none came after. -/
theorem countP_isNone {later earlier : List Look} (atMs : Nat) (id : String)
    (absent : ∀ l ∈ earlier, l.found = none) (present : ∀ l ∈ later, l.found ≠ none) :
    (later ++ ⟨atMs, some id⟩ :: earlier).countP (·.found.isNone) = earlier.length := by
  have hlater : later.countP (·.found.isNone) = 0 :=
    List.countP_eq_zero.mpr fun l hl => by simp [present l hl]
  have hearlier : earlier.countP (·.found.isNone) = earlier.length :=
    List.countP_eq_length.mpr fun l hl => by simp [absent l hl]
  rw [List.countP_append, List.countP_cons, hlater, hearlier]
  simp

/-- What a session has done so far, and what it would report, is on schedule. -/
structure OnSchedule (ask : Source σ) (c : Scenario σ) (t : Session σ) : Prop where
  attempted : c.Attempted ask t.attempts.journal.looks
  first : ∀ l, t.attempts.journal.looks.getLast? = some l → l.atMs = 0
  past : ∀ l ∈ t.attempts.journal.looks, l.atMs ≤ (report c t).elapsedMs
  /-- No attempt that was due is left out. -/
  complete : ∀ dueMs, c.settings.nextLook? ask c.source t.attempts.journal.looks = some dueMs →
    (report c t).elapsedMs ≤ dueMs
  cancelled : c.cancelled = true → t.attempts.journal.looks = []
  /-- Every attempt reads the identifier field once. -/
  reads : t.hiddenReads = c.hiddenReads - t.attempts.journal.looks.length
  /-- An identifier is asked for at once, and nothing else is asked. -/
  queries : t.attempts.journal.queries = t.attempts.journal.looks.filterMap Look.query?
  counted : (report c t).tally.queries = t.attempts.journal.queries.length
  missed : (report c t).tally.identifierRetries =
    t.attempts.journal.looks.countP (·.found.isNone)
  /-- There was never more than one query in flight. -/
  peak : Journal.peak t.attempts.journal.flights ≤ 1
  /-- Without an identifier, an attempt is made after every delay. -/
  absent : (∀ l ∈ t.attempts.journal.looks, l.found = none) →
    (report c t).elapsedMs ≤ t.attempts.journal.looks.length * c.settings.retry.delayMs
  /-- The first query is made after as many delays as there were attempts without an identifier. -/
  late : ∀ later atMs id earlier,
    t.attempts.journal.looks = later ++ ⟨atMs, some id⟩ :: earlier →
    (∀ l ∈ earlier, l.found = none) →
      atMs = earlier.length * c.settings.retry.delayMs ∧
      t.attempts.journal.queries.getLast? = some (atMs, id) ∧
      ((∀ l ∈ later, l.found ≠ none) → (report c t).tally.identifierRetries = earlier.length)

theorem Reaches.onSchedule (h : Reaches ask c t) : OnSchedule ask c t := by
  have hhistory := h.history
  constructor
  case attempted => exact h.attempted
  case first => exact fun _ => h.attempted.getLast?_atMs
  case past => exact h.look_le
  case complete => exact fun _ => h.le_nextLook
  case cancelled =>
    intro hc
    rw [h.eq_start hc]
    rfl
  case reads => exact h.hiddenReads_eq
  case queries => exact hhistory.queries
  case counted => exact hhistory.queries_eq
  case missed => exact hhistory.identifierRetries_eq
  case peak => exact hhistory.peak
  case absent => exact fun habsent => h.le_nextLook (h.attempted.nextLook?_of_absent habsent)
  case late =>
    intro later atMs id earlier heq habsent
    have hattempted := h.attempted
    rw [heq] at hattempted
    rw [hhistory.queries, heq]
    refine ⟨?_, getLast?_query? atMs id habsent, fun hpresent => ?_⟩
    · cases hattempted.of_append with
      | look earlier' due =>
        rw [earlier'.nextLook?_of_absent habsent] at due
        exact (Option.some.inj due).symm
    · rw [← countP_isNone atMs id habsent hpresent, ← heq]
      exact hhistory.identifierRetries_eq

theorem Reaches.onSchedule_close (h : Reaches ask c t) : OnSchedule ask c t.close := by
  have hopen := h.onSchedule
  constructor <;>
    simp only [report, close_attempts, close_hiddenReads, close_nowMs, Attempts.abandon_looks,
      Attempts.abandon_queries, Attempts.abandon_inquiry]
  case peak => exact h.history.abandon_aloft.peak
  exacts [hopen.attempted, hopen.first, hopen.past, hopen.complete, hopen.cancelled, hopen.reads,
    hopen.queries, hopen.counted, hopen.missed, hopen.absent, hopen.late]

/-- **The schedule of the attempts.** A session that was cancelled before its start makes none,
and any other makes its first at once. Every attempt looks at the identifier field once, and asks
once if it finds an identifier. It is completed with the answer, or else at once, and a delay
later the next one is made, until a reply resolves the inquiry or the session is over. All of it
holds at every instant, also of a session that never ends. No query is left in flight at the
end. -/
theorem attempts_onSchedule (ask : Source σ) (c : Scenario σ) :
    (∀ t, Reaches ask c t → OnSchedule ask c t) ∧
    ∀ order t, Finishes order ask c t →
      OnSchedule ask c t ∧
      Journal.inFlight t.attempts.journal.flights = 0 ∧
      (c.cancelled = false → order.AsksFirst → t.attempts.journal.looks ≠ []) := by
  refine ⟨fun t h => h.onSchedule, ?_⟩
  intro order t h
  obtain ⟨v, hv, -, heq⟩ := h.reaches
  refine ⟨heq ▸ hv.onSchedule_close, ?_, fun hc asksFirst => h.looks_ne_nil asksFirst hc⟩
  rw [heq, close_attempts]
  exact hv.history.abandon_aloft.inFlight_eq

/-- A session whose third look is the first to find an identifier. -/
def patient : Scenario (List Answer) where
  settings := { retry := { delayMs := 500 }, deadline := { enabled := false } }
  page := { inputs := [("pushAuthPushId", "p-1")] }
  hiddenReads := 2
  source := [⟨some 300, .ok "PENDING"⟩, ⟨some 0, .error .transport⟩, ⟨some 200, .ok "APPROVED"⟩]

theorem attempts_onSchedule_patient :
    ∃ t, Finishes Order.usual (Script.ask "PENDING") patient t ∧
      t.attempts.journal.looks = [⟨2300, some "p-1"⟩, ⟨1800, some "p-1"⟩, ⟨1000, some "p-1"⟩,
        ⟨500, none⟩, ⟨0, none⟩] ∧
      t.attempts.journal.queries.getLast? = some (1000, "p-1") ∧
      (report patient t).tally.identifierRetries = 2 ∧
      Journal.inFlight t.attempts.journal.flights = 0 ∧
      t.attempts.journal.looks ≠ [] := by
  have hlooks : (run Order.usual (Script.ask "PENDING") 8 (Session.start patient)).map
      (·.attempts.journal.looks) = some [⟨2300, some "p-1"⟩, ⟨1800, some "p-1"⟩,
        ⟨1000, some "p-1"⟩, ⟨500, none⟩, ⟨0, none⟩] := by
    decide +kernel
  obtain ⟨t, ht, hlooks⟩ := Option.map_eq_some_iff.mp hlooks
  obtain ⟨hschedule, hlanded, hne⟩ := (attempts_onSchedule _ patient).2 Order.usual t ⟨8, ht⟩
  have hlate := hschedule.late [⟨2300, some "p-1"⟩, ⟨1800, some "p-1"⟩] 1000 "p-1"
    [⟨500, none⟩, ⟨0, none⟩] hlooks (by decide)
  exact ⟨t, ⟨8, ht⟩, hlooks, hlate.2.1, hlate.2.2 (by decide), hlanded,
    hne rfl Order.usual_asksFirst⟩

end Session

end ApprovalWatch
