import ApprovalWatch.Proofs.Bounds
import ApprovalWatch.Proofs.Effect
import ApprovalWatch.Proofs.Race
import ApprovalWatch.Proofs.Silence

/-!
# What a reason tells

A session that fails says why by a code: in its report, in the label under which its end is counted,
and by the flag that goes with its destination. Deadlines and exhausted budgets have codes of their
own, and a status is its own code. So a code tells what happened, unless settings count a status as
a failure that is spelled like one of the other two.

Main results:

* `FailureReason.code_eq_iff`: which reasons have a code in common.
* `Session.Reaches.happened`: what a reason tells has happened.
* `Settings.fails_iff`: the reasons for which sessions of given settings can fail.
* `Settings.failures_distinguished`: how far a code tells what happened.
* `Settings.not_failures_distinguished`: valid settings may have one code for two reasons.
-/

namespace ApprovalWatch

/-! ## Codes -/

namespace FailureReason

/-- A status that is spelled like the code of another reason. -/
inductive Masks : FailureReason → FailureReason → Prop
  | exhausted : Masks (.terminalStatus "UNAVAILABLE") .transportExhausted
  | deadline : Masks (.terminalStatus "DEADLINE") .deadlineExceeded

/-- Different reasons have one code only if a status masks another reason. -/
theorem code_eq_iff {r r' : FailureReason} :
    r.code = r'.code ↔ r = r' ∨ r.Masks r' ∨ r'.Masks r := by
  constructor
  · intro h
    cases r with
    | terminalStatus status =>
      cases r' with
      | terminalStatus status' => exact .inl (congrArg _ h)
      | transportExhausted =>
        obtain rfl : status = "UNAVAILABLE" := h
        exact .inr (.inl .exhausted)
      | deadlineExceeded =>
        obtain rfl : status = "DEADLINE" := h
        exact .inr (.inl .deadline)
    | transportExhausted =>
      cases r' with
      | terminalStatus status =>
        obtain rfl : "UNAVAILABLE" = status := h
        exact .inr (.inr .exhausted)
      | transportExhausted => exact .inl rfl
      | deadlineExceeded => exact absurd h (by decide)
    | deadlineExceeded =>
      cases r' with
      | terminalStatus status =>
        obtain rfl : "DEADLINE" = status := h
        exact .inr (.inr .deadline)
      | transportExhausted => exact absurd h (by decide)
      | deadlineExceeded => exact .inl rfl
  · rintro (rfl | h | h)
    · rfl
    · cases h <;> rfl
    · cases h <;> rfl

end FailureReason

/-! ## What happened -/

theorem Reply.streak_le_length (replies : List Reply) : streak replies ≤ replies.length :=
  (List.takeWhile_prefix isFailure).length_le

theorem Source.length_replies {σ : Type} (ask : Source σ) (src : σ) (ids : List String) :
    (ask.replies src ids).length = ids.length := by
  induction ids with
  | nil => rfl
  | cons id ids ih => rw [replies, List.length_cons, ih, List.length_cons]

namespace Session

variable {σ : Type} {ask : Source σ} {c : Scenario σ} {t : Session σ}

/-- What a reason tells has happened in a session: the last query was answered with the status,
which means failure; or the last queries failed, as many as are allowed to; or there was a
deadline, which is now, and was waited for until it came. -/
def Happened (ask : Source σ) (c : Scenario σ) (t : Session σ) : FailureReason → Prop
  | .terminalStatus status =>
    (ask.replies c.source (t.attempts.journal.queries.map (·.2))).head? = some (.ok status) ∧
      status ∈ c.settings.statuses.terminalFailures ∧ status ≠ c.settings.statuses.success
  | .transportExhausted =>
    ∃ m, c.settings.retry.maxConsecutiveFailures = some m ∧
      m ≤ Reply.streak (ask.replies c.source (t.attempts.journal.queries.map (·.2)))
  | .deadlineExceeded =>
    ∃ d, Deadline.ofSession? c.page c.settings = some d ∧ t.nowMs = d.ms ∧ t.deadline = none

/-- A session that is concluded with a failure leads where its reason says, and what that reason
tells has happened. -/
theorem Reaches.happened {reason : FailureReason} {location : String} (h : Reaches ask c t)
    (hk : t.latch.get? = some (.failed reason location)) :
    location = c.settings.failure.destinationFor reason.code ∧ Happened ask c t reason := by
  cases h with
  | start => cases hk
  | @step t _ _ hr runs hs =>
    have hl := hr.latch_eq_none runs
    cases hs with
    | clock | attempt | countdown | host | page => exact absurd (hl.symm.trans hk) nofun
    | @resolve _ a r due le eq =>
      rw [get?_settle (t.proceed a) hl, hr.settings_eq, Option.some.injEq] at hk
      rw [hr.settings_eq] at eq
      obtain ⟨hhistory, hresolve⟩ := hr.history.act (hr.due_eq due le) eq
      have hresolution := ((hresolve r).mp rfl).2
      rw [← hhistory.identifiers_eq] at hresolution
      cases r with
      | success => cases hk
      | failure reason =>
        cases hk
        refine ⟨rfl, ?_⟩
        cases reason with
        | terminalStatus status =>
          obtain ⟨earlier, hreplies, hterminal, hne⟩ :=
            Settings.resolution?_terminalStatus hresolution
          exact ⟨congrArg List.head? hreplies, hterminal, hne⟩
        | transportExhausted => exact Settings.resolution?_transportExhausted hresolution
        | deadlineExceeded =>
          exact absurd hresolution (Settings.resolution?_ne_deadlineExceeded _ _)
    | @deadline d due le =>
      rw [get?_settle { t with deadline := none } hl, hr.settings_eq] at hk
      cases hk
      refine ⟨rfl, d, ?_, Nat.le_antisymm (hr.le_deadline due) le, rfl⟩
      rw [← hr.deadline_eq runs, due]

/-- Every one of failed queries in a row was asked for, and all but the first after a delay. -/
theorem Reaches.streak_le (h : Reaches ask c t) :
    (Reply.streak (ask.replies c.source (t.attempts.journal.queries.map (·.2))) - 1) *
      c.settings.retry.delayMs ≤ t.nowMs := by
  have hattempted := h.attempted
  have hpast := h.look_le
  have hstreak : Reply.streak (ask.replies c.source (t.attempts.journal.queries.map (·.2))) ≤
      t.attempts.journal.looks.length :=
    calc Reply.streak (ask.replies c.source (t.attempts.journal.queries.map (·.2)))
      _ ≤ (ask.replies c.source (t.attempts.journal.queries.map (·.2))).length :=
        Reply.streak_le_length _
      _ = (Look.identifiers t.attempts.journal.looks).length := by
        rw [Source.length_replies, h.history.identifiers_eq]
      _ ≤ t.attempts.journal.looks.length := List.length_filterMap_le _ _
  cases hlooks : t.attempts.journal.looks with
  | nil =>
    rw [hlooks, List.length_nil, Nat.le_zero] at hstreak
    simp [hstreak]
  | cons l looks =>
    rw [hlooks] at hattempted hpast hstreak
    calc _ ≤ looks.length * c.settings.retry.delayMs :=
          Nat.mul_le_mul_right _ (Nat.sub_le_of_le_add hstreak)
      _ ≤ l.atMs := hattempted.delays_le
      _ ≤ t.nowMs := hpast l List.mem_cons_self

end Session

/-! ## Sessions that fail -/

theorem Deadline.ofPage_of_attribute {p : Page} {s : Settings} {raw : String} {secs : Nat}
    (holds : p.attribute? s.page.countdownContainer s.page.redirectSecondsAttribute = some raw)
    (spells : Timeout.parse? raw = some secs) : ofPage p s = ofSecs secs := by
  simp [ofPage, holds, spells]

namespace Scenario

section Deadline

variable {σ : Type} {c : Scenario σ} {raw : String} {secs : Nat}

/-- The instant of the deadline that a page spells. -/
theorem deadlineMs_of_attribute
    (holds : c.page.attribute? c.settings.page.countdownContainer
      c.settings.page.redirectSecondsAttribute = some raw)
    (spells : Timeout.parse? raw = some secs) :
    c.deadlineMs = if c.settings.deadline.enabled then ((Deadline.ofSecs secs).ms : ℕ∞) else ⊤ := by
  rw [deadlineMs, Deadline.ofSession?, Deadline.ofPage_of_attribute holds spells]
  cases c.settings.deadline.enabled <;> rfl

end Deadline

/-- A session whose page has an identifier and the longest timeout there is. -/
def steady (s : Settings) : Scenario Unit where
  settings := s
  page :=
    { inputs := [(s.page.identifierField, "p-1")]
      attributes := [((s.page.countdownContainer, s.page.redirectSecondsAttribute), "2147483")] }
  source := ()

/-- A session whose page has no identifier, and no time left. -/
def hasty (s : Settings) : Scenario Unit where
  settings := s
  page :=
    { attributes := [((s.page.countdownContainer, s.page.redirectSecondsAttribute), "0")] }
  source := ()

/-- Whoever answers every query at once, and with the same reply. -/
def always (reply : Reply) : Source Unit :=
  fun _ _ => (⟨some 0, reply⟩, ())

section Steady

variable {s : Settings} {reply : Reply} {k : Nat}

theorem deadlineMs_steady (s : Settings) :
    (steady s).deadlineMs = if s.deadline.enabled then (2147483000 : ℕ∞) else ⊤ := by
  have spells : Timeout.parse? "2147483" = some 2147483 := by decide +kernel
  exact deadlineMs_of_attribute (by simp [steady, Page.attribute?, Assoc.get?]) spells

theorem actAt_steady {a : Attempts Unit} (rests : a.isResting = true) (nowMs : Nat) :
    (steady s).actAt (always reply) a nowMs =
      let done := (a.launch nowMs "p-1" ⟨some 0, reply⟩ ()).complete s nowMs nowMs reply
      (done.1, some done.2) := by
  have hseen : (steady s).seen? a.journal.looks.length
      ((steady s).timeline.takeWhile (·.atMs < nowMs)) = some "p-1" := by
    simp [seen?, steady, Page.identifier?, Page.input?, Assoc.get?]
  rw [actAt, hseen]
  cases hact : a.activity with
  | resting untilMs => simp [Attempts.act, hact, Attempts.begin_some, always, steady]
  | asking | ended => simp [Attempts.isResting, hact] at rests

/-- Failures that are allowed follow one another, a delay apart. -/
theorem alone_steady {e : QueryFailure} (spared : ∀ j < k, Inquiry.exhausts s (j + 1) = false) :
    ((steady s).alone (always (.error e)) k).activity = .resting (k * s.retry.delayMs) ∧
      ((steady s).alone (always (.error e)) k).inquiry.tally.consecutiveFailures = k := by
  induction k with
  | zero => exact ⟨by rw [Nat.zero_mul]; rfl, rfl⟩
  | succ k ih =>
    obtain ⟨hactivity, hstreak⟩ := ih fun j hj => spared j (Nat.lt_succ_of_lt hj)
    have hdue : ((steady s).alone (always (.error e)) k).due? = some (k * s.retry.delayMs) := by
      rw [Attempts.due?, hactivity]
    have hspared := spared k (Nat.lt_succ_self k)
    rw [alone_succ_of_due hdue, actAt_steady (by rw [Attempts.isResting, hactivity])]
    simp [Attempts.complete, Attempts.launch, Inquiry.interpret, Inquiry.ask, hstreak, hspared,
      Nat.succ_mul]

/-- A status that means failure resolves the attempts at the start. -/
theorem resolvesAt_steady_status {status : String} (other : status ≠ s.statuses.success)
    (ends : status ∈ s.statuses.terminalFailures) :
    (steady s).ResolvesAt (always (.ok status)) 0 (.failure (.terminalStatus status)) := by
  refine ⟨0, rfl, ?_⟩
  rw [actAt_steady rfl]
  simp [Attempts.complete, Inquiry.interpret, other, ends]

/-- Failures use up what is allowed of them. -/
theorem resolvesAt_steady_exhausted {m : Nat}
    (allowed : s.retry.maxConsecutiveFailures = some m) :
    (steady s).ResolvesAt (always (.error .transport)) ((m - 1) * s.retry.delayMs)
      (.failure .transportExhausted) := by
  obtain ⟨hactivity, hstreak⟩ := alone_steady (s := s) (k := m - 1) (e := .transport)
    fun j hj => by simp [Inquiry.exhausts, allowed]; omega
  refine ⟨m - 1, by rw [Attempts.due?, hactivity], ?_⟩
  have hexhausted : Inquiry.exhausts s (m - 1 + 1) = true := by
    simp [Inquiry.exhausts, allowed]
    omega
  rw [actAt_steady (by rw [Attempts.isResting, hactivity])]
  simp [Attempts.complete, Attempts.launch, Inquiry.interpret, Inquiry.ask, hstreak, hexhausted]

end Steady

section Hasty

variable {s : Settings} {reply : Reply} {r : Resolution}

theorem deadlineMs_hasty (enabled : s.deadline.enabled = true) : (hasty s).deadlineMs = 0 := by
  have spells : Timeout.parse? "0" = some 0 := by decide +kernel
  rw [deadlineMs_of_attribute (by simp [hasty, Page.attribute?, Assoc.get?]) spells]
  exact if_pos enabled

/-- Without an identifier nothing is resolved at the start. -/
theorem not_resolvesAt_hasty (delayed : 0 < s.retry.delayMs) :
    ¬ (hasty s).ResolvesAt (always reply) 0 r := by
  have hfirst : (hasty s).actAt (always reply) { source := () } 0 =
      (({ source := () } : Attempts Unit).miss s 0, some (.retry .identifierAbsent)) := by
    simp [actAt, seen?, hasty, Page.identifier?, Page.input?, Assoc.get?, Attempts.act,
      Attempts.begin_none]
  rintro ⟨n, due, resolves⟩
  cases n with
  | zero =>
    have hnext := congrArg Prod.snd hfirst
    rw [alone] at resolves
    rw [resolves] at hnext
    cases hnext
  | succ n =>
    obtain ⟨earlierMs, hdue, hle⟩ := alone_due? (Nat.succ_le_succ (Nat.zero_le n)) due
    rw [alone_succ_of_due rfl, alone, hfirst] at hdue
    simp only [Attempts.miss, Attempts.due?, Option.some.injEq] at hdue
    omega

end Hasty

end Scenario

namespace Session

variable {σ : Type} {ask : Source σ} {c : Scenario σ} {t v : Session σ} {n : Nat} {r : Resolution}

/-- At the instant at which the attempts are resolved, they are all that it takes. -/
theorem Reaches.act_of_resolvesAt (delayed : 0 < c.settings.retry.delayMs)
    (quiet : c.Quiet ask n) (resolves : c.ResolvesAt ask n r) (h : Reaches ask c t)
    (runs : t.cancelled = false) (hnow : t.nowMs = n) :
    (t.act ask .inquiry).cancelled = true ∧
      (t.act ask .inquiry).latch.get? = some (c.settings.conclusion r) := by
  subst hnow
  obtain ⟨m, due, hresolve⟩ := resolves
  obtain ⟨j, hle, heq⟩ := h.alone_le quiet due hresolve runs (Nat.le_refl _)
  obtain ⟨dueMs, hdue, hdueMs⟩ := Scenario.alone_due? hle due
  rw [← heq] at hdue
  have hnow := h.due_eq hdue hdueMs
  obtain rfl : j = m := by
    by_contra hne
    obtain ⟨laterMs, hlater, hlaterMs⟩ :=
      Scenario.alone_due? (Nat.lt_of_le_of_ne hle hne) due
    rw [Scenario.alone_succ_of_due (heq ▸ hnow)] at hlater
    have := Attempts.act_due?_ge (Prod.eta _).symm hlater
    omega
  rw [act_of_due (p := .inquiry) runs hdue hdueMs, Session.perform, Session.actInquiry,
    h.act_eq fun hrest => quiet j t.nowMs (heq ▸ hrest) (heq ▸ hnow) (Nat.le_refl _), heq]
  dsimp only
  rw [hresolve]
  dsimp only
  rw [conclude_of_running (t := t.proceed _) runs (h.latch_eq_none runs), h.settings_eq]
  exact ⟨rfl, get?_settle (t.proceed _) (h.latch_eq_none runs) _⟩

theorem nowMs_foldl_act (ask : Source σ) (t : Session σ) (ps : List Part) :
    (ps.foldl (act ask) t).nowMs = t.nowMs := by
  induction ps generalizing t with
  | nil => rfl
  | cons p ps ih => rw [List.foldl_cons, ih, nowMs_act]

/-- A session that is over at that instant was concluded by its attempts, if they have their turn
before the other parts. -/
theorem Reaches.latch_of_resolvesAt (delayed : 0 < c.settings.retry.delayMs)
    (quiet : c.Quiet ask n) (resolves : c.ResolvesAt ask n r) {k : Nat} (h : Reaches ask c t)
    (runs : t.cancelled = false) (hv : Session.advance Order.usual ask k t = some v)
    (ended : v.cancelled = true) (hnow : v.nowMs = n) :
    v.latch.get? = some (c.settings.conclusion r) := by
  induction k generalizing t with
  | zero =>
    cases hv
    exact absurd (runs.symm.trans ended) Bool.false_ne_true
  | succ k ih =>
    obtain ⟨-, nextMs, hnext, hv⟩ := advance_succ_eq_some.mp hv
    have hr := h.step runs (.clock hnext)
    generalize hw : { t with nowMs := max t.nowMs nextMs } = w at hr hv
    have hruns : w.cancelled = false := by rw [← hw, runs]
    have hpass : Reaches ask c (pass Order.usual ask w) := hr.foldl _
    cases hover : (pass Order.usual ask w).cancelled with
    | false => exact ih hpass hover hv
    | true =>
      have heq : pass Order.usual ask w = v := by
        cases k with
        | zero => exact Option.some.inj hv
        | succ k =>
          obtain ⟨hgoes, -⟩ := advance_succ_eq_some.mp hv
          exact absurd (hgoes.symm.trans hover) Bool.false_ne_true
      rw [← heq, pass, nowMs_foldl_act] at hnow
      obtain ⟨hcancelled, hlatch⟩ := hr.act_of_resolvesAt delayed quiet resolves hruns hnow
      rw [← heq, pass, Order.usual, List.foldl_cons, foldl_act_of_cancelled hcancelled]
      exact hlatch

/-- In the usual order, a session whose attempts are resolved by the time of its deadline is
concluded by them. -/
theorem exists_finishes_of_resolvesAt (delayed : 0 < c.settings.retry.delayMs)
    (quiet : c.Quiet ask n) (resolves : c.ResolvesAt ask n r) (unhurried : n ≤ c.deadlineMs)
    (unhosted : c.hostMs = ⊤) :
    ∃ t, Finishes Order.usual ask c t ∧
      (report c t).conclusion = some (c.settings.conclusion r) := by
  have first : min (c.pollMs ask) (min c.deadlineMs c.hostMs) = n := by
    rw [Scenario.pollMs_eq_iff.mpr ⟨r, resolves⟩, unhosted, min_top_right, min_eq_left unhurried]
  obtain ⟨fuel, t, hrun⟩ := Reaches.start.exists_run delayed Order.usual_complete quiet
    (.poll resolves)
  obtain ⟨v, ⟨ended, k, hv⟩, rfl⟩ := finishes_iff.mp ⟨fuel, hrun⟩
  have hr := Reaches.start.advance hv
  have hle := hr.nowMs_le quiet (.poll resolves)
  have hnow : v.nowMs = n := by
    have hmin := (hr.endsAt quiet ended hle).le
    rw [first, Nat.cast_le] at hmin
    exact Nat.le_antisymm hle hmin
  have runs : (start c).cancelled = false := by
    cases hc : c.cancelled with
    | false => exact hc
    | true => simp [Scenario.hostMs, hc] at unhosted
  refine ⟨v.close, ⟨fuel, hrun⟩, ?_⟩
  have hlatch := Reaches.start.latch_of_resolvesAt delayed quiet resolves runs hv ended hnow
  rwa [← close_latch] at hlatch

/-- A session without an identifier and with no time left fails at its deadline. -/
theorem exists_finishes_hasty {s : Settings} (reply : Reply) (delayed : 0 < s.retry.delayMs)
    (enabled : s.deadline.enabled = true) :
    ∃ t, Finishes Order.usual (Scenario.always reply) (Scenario.hasty s) t ∧
      (report (Scenario.hasty s) t).conclusion = some (s.failed .deadlineExceeded) := by
  have quiet : (Scenario.hasty s).Quiet (Scenario.always reply) 0 :=
    fun _ _ _ _ _ _ he => absurd he List.not_mem_nil
  have hdeadline : (Scenario.hasty s).deadlineMs = (0 : ℕ) := Scenario.deadlineMs_hasty enabled
  obtain ⟨fuel, t, hrun⟩ := Reaches.start.exists_run delayed Order.usual_complete quiet
    (.deadline hdeadline)
  obtain ⟨v, hv, ended, rfl⟩ := Finishes.reaches ⟨fuel, hrun⟩
  have hle := hv.nowMs_le quiet (.deadline hdeadline)
  have hends := hv.endsAt quiet ended hle
  rw [Nat.le_zero.mp hle] at hends
  refine ⟨v.close, ⟨fuel, hrun⟩, ?_⟩
  rw [report, close_latch]
  generalize v.latch.get? = k at hends
  cases hends with
  | poll resolves => exact absurd resolves (Scenario.not_resolvesAt_hasty delayed)
  | deadline => rfl
  | host due => exact absurd due (ENat.top_ne_natCast 0)

/-- The session failed for this reason. -/
def FailedFor (c : Scenario σ) (t : Session σ) (reason : FailureReason) : Prop :=
  ∃ location, (report c t).conclusion = some (.failed reason location)

end Session

/-! ## Reasons within reach -/

namespace Settings

variable {s : Settings} {r : FailureReason}

/-- A session with these settings can fail for this reason, on some page, with some answers, some
host and some order of its parts. -/
def Fails (s : Settings) (r : FailureReason) : Prop :=
  ∃ (σ : Type) (ask : Source σ) (c : Scenario σ) (order : Order) (t : Session σ),
    c.settings = s ∧ order.Complete ∧ Session.Finishes order ask c t ∧ Session.FailedFor c t r

/-- So many failures are allowed in a row that their number can be reached before the longest
deadline. -/
def Exhaustible (s : Settings) : Prop :=
  ∃ m, s.retry.maxConsecutiveFailures = some m ∧
    (s.deadline.enabled = true → (m - 1) * s.retry.delayMs ≤ 2147483000)

/-- What has to be so for a reason to be within reach. -/
def Allows (s : Settings) : FailureReason → Prop
  | .terminalStatus status => status ∈ s.statuses.terminalFailures
  | .transportExhausted => s.Exhaustible
  | .deadlineExceeded => s.deadline.enabled = true

/-- The failures that sessions of valid settings can reach. -/
theorem fails_iff (valid : s.validate = .ok ()) : s.Fails r ↔ s.Allows r := by
  have delayed := delay_pos_of_valid valid
  constructor
  · rintro ⟨σ, ask, c, order, t, rfl, -, hfinishes, location, hconclusion⟩
    obtain ⟨v, hv, -, rfl⟩ := hfinishes.reaches
    rw [Session.report, Session.close_latch] at hconclusion
    obtain ⟨-, happened⟩ := hv.happened hconclusion
    cases r with
    | terminalStatus status => exact happened.2.1
    | transportExhausted =>
      obtain ⟨m, hm, hstreak⟩ := happened
      refine ⟨m, hm, fun enabled => ?_⟩
      have hd : Deadline.ofSession? c.page c.settings = some (Deadline.ofPage c.page c.settings) :=
        if_pos enabled
      calc (m - 1) * c.settings.retry.delayMs
        _ ≤ _ := Nat.mul_le_mul_right _ (Nat.sub_le_sub_right hstreak 1)
        _ ≤ v.nowMs := hv.streak_le
        _ ≤ (Deadline.ofPage c.page c.settings).ms := hv.nowMs_le_deadline hd
        _ ≤ 2147483000 := Deadline.ms_le _
    | deadlineExceeded =>
      obtain ⟨d, hd, -⟩ := happened
      unfold Deadline.ofSession? at hd
      split at hd
      · assumption
      · cases hd
  · intro allowed
    cases r with
    | terminalStatus status =>
      have other : status ≠ s.statuses.success := by
        rintro rfl
        exact holds_of_valid valid .terminalFailures allowed
      obtain ⟨t, hfinishes, hconclusion⟩ := Session.exists_finishes_of_resolvesAt delayed
        (fun _ _ _ _ _ _ he => absurd he List.not_mem_nil)
        (Scenario.resolvesAt_steady_status other allowed) (Nat.cast_zero.trans_le bot_le) rfl
      exact ⟨Unit, _, _, _, t, rfl, Order.usual_complete, hfinishes, _, hconclusion⟩
    | transportExhausted =>
      obtain ⟨m, hm, hle⟩ := allowed
      have unhurried : (((m - 1) * s.retry.delayMs : ℕ) : ℕ∞) ≤ (Scenario.steady s).deadlineMs := by
        rw [Scenario.deadlineMs_steady]
        split
        · rename_i enabled
          exact Nat.cast_le.mpr (hle enabled)
        · exact le_top
      obtain ⟨t, hfinishes, hconclusion⟩ := Session.exists_finishes_of_resolvesAt delayed
        (fun _ _ _ _ _ _ he => absurd he List.not_mem_nil)
        (Scenario.resolvesAt_steady_exhausted hm) unhurried rfl
      exact ⟨Unit, _, _, _, t, rfl, Order.usual_complete, hfinishes, _, hconclusion⟩
    | deadlineExceeded =>
      obtain ⟨t, hfinishes, hconclusion⟩ :=
        Session.exists_finishes_hasty (.ok "") delayed allowed
      exact ⟨Unit, _, _, _, t, rfl, Order.usual_complete, hfinishes, _, hconclusion⟩

/-- Some status that means failure is spelled like the code of another failure within reach. -/
def Ambiguous (s : Settings) : Prop :=
  "DEADLINE" ∈ s.statuses.terminalFailures ∧ s.deadline.enabled = true ∨
    "UNAVAILABLE" ∈ s.statuses.terminalFailures ∧ s.Exhaustible

theorem exists_masks_iff (valid : s.validate = .ok ()) :
    (∃ r r', s.Fails r ∧ s.Fails r' ∧ r.Masks r') ↔ s.Ambiguous := by
  constructor
  · rintro ⟨r, r', hr, hr', masks⟩
    rw [fails_iff valid] at hr hr'
    cases masks with
    | exhausted => exact .inr ⟨hr, hr'⟩
    | deadline => exact .inl ⟨hr, hr'⟩
  · rintro (⟨listed, enabled⟩ | ⟨listed, exhaustible⟩)
    · exact ⟨.terminalStatus "DEADLINE", .deadlineExceeded, (fails_iff valid).mpr listed,
        (fails_iff valid).mpr enabled, .deadline⟩
    · exact ⟨.terminalStatus "UNAVAILABLE", .transportExhausted, (fails_iff valid).mpr listed,
        (fails_iff valid).mpr exhaustible, .exhausted⟩

end Settings

/-! ## What is told -/

namespace Session

variable {σ : Type} {ask : Source σ} {c : Scenario σ} {t : Session σ} {reason : FailureReason}
  {code : String}

/-- The report, as it is printed, gives this code as the reason of a failure. -/
def Reports (c : Scenario σ) (t : Session σ) (code : String) : Prop :=
  ∃ elapsed location members, (report c t).toJson elapsed = .object members ∧
    ("conclusion", .object
      [("outcome", .string "failed"), ("reason", .string code),
        ("destination", .string location)]) ∈ members

/-- The end of a session is counted as a failure under this code. -/
def Counts (t : Session σ) (code : String) : Prop :=
  ∃ m ∈ t.attempts.journal.metrics, m.name = "poller_sessions_total" ∧
    m.labels = [("conclusion", "failed"), ("reason", code)]

/-- What is told about the failure of a finished session: report and count give the code of its
reason and no other, the page leads where that code does, and what the reason tells has happened. -/
structure TellsWhy (ask : Source σ) (c : Scenario σ) (t : Session σ) : Prop where
  reports_iff : ∀ code, Reports c t code ↔ ∃ reason, FailedFor c t reason ∧ reason.code = code
  counts_iff : ∀ code, Counts t code ↔ ∃ reason, FailedFor c t reason ∧ reason.code = code
  leads : ∀ reason, FailedFor c t reason →
    t.actions = [.navigate (c.settings.failure.destinationFor reason.code)]
  happened : ∀ reason, FailedFor c t reason → Happened ask c t reason
  deadline : Reports c t "DEADLINE" ↔
    FailedFor c t .deadlineExceeded ∨ FailedFor c t (.terminalStatus "DEADLINE")
  unavailable : Reports c t "UNAVAILABLE" ↔
    FailedFor c t .transportExhausted ∨ FailedFor c t (.terminalStatus "UNAVAILABLE")

/-- A report gives a reason only where it gives the conclusion. -/
theorem reports_iff : Reports c t code ↔ ∃ reason, FailedFor c t reason ∧ reason.code = code := by
  constructor
  · rintro ⟨elapsed, location, members, hobject, hmem⟩
    cases hk : (report c t).conclusion with
    | none =>
      rw [Report.toJson, hk] at hobject
      cases hobject
      cases elapsed <;> simp at hmem
    | some k =>
      rw [Report.toJson, hk] at hobject
      cases hobject
      cases k with
      | succeeded => cases elapsed <;> simp [Conclusion.toJson] at hmem
      | failed reason location' =>
        obtain ⟨hcode, -⟩ : code = reason.code ∧ location = location' := by
          cases elapsed <;> simpa [Conclusion.toJson] using hmem
        exact ⟨reason, ⟨location', hk⟩, hcode.symm⟩
  · rintro ⟨reason, ⟨location, hk⟩, rfl⟩
    refine ⟨true, location, _, rfl, ?_⟩
    simp [hk, Conclusion.toJson]

/-- The one end of a session that is counted is its conclusion. -/
theorem Reaches.counts_iff (h : Reaches ask c t) :
    Counts t.close code ↔ ∃ reason, FailedFor c t.close reason ∧ reason.code = code := by
  have hsessions : t.close.attempts.journal.sessions =
      (t.latch.get?.map fun k => Metric.session k.kind k.code).toList := by
    rw [close_attempts, Attempts.abandon_sessions, h.agrees.sessions]
  have hcounted : ∀ m : Metric, m ∈ t.close.attempts.journal.metrics ∧
      m.name = "poller_sessions_total" ↔
        ∃ k, t.latch.get? = some k ∧ m = .session k.kind k.code := by
    intro m
    have hmem : m ∈ t.close.attempts.journal.sessions ↔
        m ∈ t.close.attempts.journal.metrics ∧ m.name = "poller_sessions_total" := by
      simp [Journal.sessions]
    rw [← hmem, hsessions]
    cases t.latch.get? <;> simp
  unfold FailedFor report
  rw [close_latch]
  constructor
  · rintro ⟨m, hm, hname, hlabels⟩
    obtain ⟨k, hk, rfl⟩ := (hcounted m).mp ⟨hm, hname⟩
    cases k with
    | succeeded => simp [Metric.labels, Conclusion.kind] at hlabels
    | failed reason location =>
      refine ⟨reason, ⟨location, hk⟩, ?_⟩
      simpa [Metric.labels, Conclusion.kind, Conclusion.code] using hlabels
  · rintro ⟨reason, ⟨location, hk⟩, rfl⟩
    obtain ⟨hm, hname⟩ := (hcounted _).mpr ⟨_, hk, rfl⟩
    exact ⟨_, hm, hname, rfl⟩

theorem happened_close : Happened ask c t.close reason ↔ Happened ask c t reason := by
  have hdeadline : t.close.deadline = t.deadline := by
    unfold close
    dsimp only
    split <;> rfl
  cases reason with
  | terminalStatus | transportExhausted =>
    simp only [Happened, close_attempts, Attempts.abandon_queries]
  | deadlineExceeded => simp only [Happened, close_nowMs, hdeadline]

theorem Finishes.tellsWhy {order : Order} (h : Finishes order ask c t) : TellsWhy ask c t := by
  obtain ⟨v, hv, -, rfl⟩ := h.reaches
  have concluded : ∀ {reason}, FailedFor c v.close reason →
      v.latch.get? = some (c.settings.failed reason) := by
    rintro reason ⟨location, hk⟩
    rw [report, close_latch] at hk
    obtain ⟨rfl, -⟩ := hv.happened hk
    exact hk
  have only : ∀ {masked : FailureReason} {status : String},
      (∀ r : FailureReason, r.code = status ↔ r = masked ∨ r = .terminalStatus status) →
        (Reports c v.close status ↔
          FailedFor c v.close masked ∨ FailedFor c v.close (.terminalStatus status)) := by
    intro masked status hcode
    rw [reports_iff]
    simp only [hcode, and_or_left, exists_or, exists_eq_right]
  exact
    { reports_iff := fun _ => reports_iff
      counts_iff := fun _ => hv.counts_iff
      leads := fun reason hreason => by
        rw [close_actions, hv.agrees.actions, concluded hreason]
        rfl
      happened := fun reason hreason => happened_close.mpr (hv.happened (concluded hreason)).2
      deadline := only fun r => by cases r <;> simp [FailureReason.code]
      unavailable := only fun r => by cases r <;> simp [FailureReason.code] }

end Session

/-- **How far a code tells what happened.** Failures that sessions of valid settings can reach for
different reasons have different codes, but for a status that masks another reason, and all of them
have exactly if no such pair is within reach. At the end of every session report, count and
destination agree on the code of its failure. -/
theorem Settings.failures_distinguished {s : Settings} (valid : s.validate = .ok ()) :
    (∀ r r', s.Fails r → s.Fails r' → r ≠ r' → r.code = r'.code → r.Masks r' ∨ r'.Masks r) ∧
    ((∀ r r', s.Fails r → s.Fails r' → r ≠ r' → r.code ≠ r'.code) ↔ ¬ s.Ambiguous) ∧
    ∀ {σ : Type} {ask : Source σ} {c : Scenario σ} {order : Order} {t : Session σ},
      c.settings = s → Session.Finishes order ask c t → Session.TellsWhy ask c t := by
  have masks_of_eq : ∀ {r r' : FailureReason}, r ≠ r' → r.code = r'.code →
      r.Masks r' ∨ r'.Masks r :=
    fun hne heq => (FailureReason.code_eq_iff.mp heq).resolve_left hne
  refine ⟨fun r r' _ _ => masks_of_eq, ?_, fun _ h => h.tellsWhy⟩
  rw [← exists_masks_iff valid]
  constructor
  · rintro distinct ⟨r, r', hr, hr', masks⟩
    have hne : r ≠ r' := by
      rintro rfl
      cases masks
    exact distinct r r' hr hr' hne (FailureReason.code_eq_iff.mpr (.inr (.inl masks)))
  · intro unmasked r r' hr hr' hne heq
    rcases masks_of_eq hne heq with masks | masks
    · exact unmasked ⟨r, r', hr, hr', masks⟩
    · exact unmasked ⟨r', r, hr', hr, masks⟩

/-- With the preset of a flow, every code tells what happened. -/
theorem Settings.failures_distinguished_preset :
    (preset .pushLogin).validate = .ok () ∧
      ∀ r r', (preset .pushLogin).Fails r → (preset .pushLogin).Fails r' → r ≠ r' →
        r.code ≠ r'.code := by
  have valid : (preset .pushLogin).validate = .ok () := by decide +kernel
  refine ⟨valid, (failures_distinguished valid).2.1.mpr ?_⟩
  rintro (⟨listed, -⟩ | ⟨listed, -⟩) <;> revert listed <;> decide +kernel

/-- A status may be spelled like the code of a deadline that has come. -/
theorem Settings.not_failures_distinguished :
    ¬ ∀ s : Settings, s.validate = .ok () →
      ∀ r r', s.Fails r → s.Fails r' → r ≠ r' → r.code ≠ r'.code := by
  intro distinct
  let s : Settings := { statuses := { terminalFailures := NameSet.ofList ["DEADLINE"] } }
  have valid : s.validate = .ok () := by decide +kernel
  have listed : s.Fails (.terminalStatus "DEADLINE") :=
    (fails_iff valid).mpr (show "DEADLINE" ∈ s.statuses.terminalFailures by decide +kernel)
  have expires : s.Fails .deadlineExceeded := (fails_iff valid).mpr rfl
  exact distinct s valid _ _ listed expires nofun rfl

end ApprovalWatch
