import ApprovalWatch.Proofs.Activity
import ApprovalWatch.Proofs.Reach

/-!
# The effect of a session

Whoever ends a session, and in whatever order its parts act: the page is left at most once, and the
conclusion that is reported, the way in which the page is left and what is counted agree.

Main results:

* `Reaches.agrees`: they agree in every state.
* `finishes_effect`: they agree at the end, and the session is over then.
-/

namespace ApprovalWatch

/-- A session with these settings may conclude so: with the status that means success, or with a
failure that leads where its reason says. -/
def Settings.Concludes (s : Settings) (k : Conclusion) : Prop :=
  k = .succeeded s.statuses.success s.page.successForm ∨ ∃ reason, k = s.failed reason

/-- A reply resolves an inquiry in a way that may conclude a session. -/
theorem Inquiry.interpret_concludes {s : Settings} {q : Inquiry} {reply : Reply} {r : Resolution}
    (h : (interpret s q reply).2 = .resolve r) : s.Concludes (s.conclusion r) := by
  cases reply with
  | ok status =>
    simp only [interpret] at h
    split at h
    · rename_i hs
      cases h
      left
      rw [Settings.conclusion, Status.name_ofName, hs]
    · split at h
      · cases h
        exact Or.inr ⟨_, rfl⟩
      · cases h
  | error e =>
    simp only [interpret] at h
    split at h
    · cases h
      exact Or.inr ⟨_, rfl⟩
    · cases h

/-! ## Measurements of sessions -/

/-- The ends of sessions that are counted. -/
def Journal.sessions (j : Journal) : List Metric :=
  j.metrics.filter (·.name = "poller_sessions_total")

theorem Journal.sessions_measure_session (j : Journal) (kind code : String) :
    (j.measure (.session kind code)).sessions = .session kind code :: j.sessions :=
  rfl

namespace Attempts

variable {σ : Type} {s : Settings} {ask : Source σ} {a b : Attempts σ} {nowMs : Nat}
  {identifier : Option String}

theorem complete_sessions (s : Settings) (a : Attempts σ) (nowMs sinceMs : Nat) (reply : Reply) :
    (complete s a nowMs sinceMs reply).1.journal.sessions = a.journal.sessions :=
  rfl

/-- Attempts count no session. -/
theorem act_sessions {r : Option Transition} (eq : act s ask a nowMs identifier = (b, r)) :
    b.journal.sessions = a.journal.sessions := by
  cases act_acts eq with
  | miss | launch | ended => rfl
  | answer _ _ launched => rw [complete_sessions, launched]; rfl
  | complete => exact complete_sessions s a nowMs _ _

/-- Attempts are resolved by a reply. -/
theorem act_concludes {x : Resolution}
    (eq : act s ask a nowMs identifier = (b, some (.resolve x))) :
    s.Concludes (s.conclusion x) := by
  generalize hr : some (Transition.resolve x) = r at eq
  cases act_acts eq with
  | miss | launch | ended => cases hr
  | answer | complete => exact Inquiry.interpret_concludes (Option.some.inj hr).symm

@[simp] theorem abandon_sessions (a : Attempts σ) :
    a.abandon.journal.sessions = a.journal.sessions := by
  unfold abandon; split <;> rfl

end Attempts

namespace Session

variable {σ : Type} {ask : Source σ} {c : Scenario σ} {t : Session σ}

/-! ## Agreement -/

/-- The page was left as the settled conclusion says, once, and that end was counted, once; nothing
of it happened if none is settled. -/
structure Agrees (c : Scenario σ) (t : Session σ) : Prop where
  actions : t.actions = (t.latch.get?.map Conclusion.action).toList
  sessions : t.attempts.journal.sessions =
    (t.latch.get?.map fun k => Metric.session k.kind k.code).toList
  concludes : ∀ k, t.latch.get? = some k → c.settings.Concludes k

theorem agrees_start (c : Scenario σ) : Agrees c (start c) :=
  ⟨rfl, rfl, fun _ h => by cases h⟩

/-- The first conclusion to be settled is the one that everything agrees with. -/
theorem Agrees.settle {k : Conclusion} (h : Agrees c t) (hl : t.latch.get? = none)
    (hk : c.settings.Concludes k) : Agrees c (t.settle k) := by
  have hget := get?_settle t hl k
  refine ⟨?_, ?_, ?_⟩
  · have := h.actions
    rw [hl] at this
    rw [hget]
    simp [Session.settle, this]
  · have := h.sessions
    rw [hl] at this
    rw [hget]
    simp [Session.settle, Journal.sessions_measure_session, this]
  · intro k' hk'
    rw [hget] at hk'
    cases hk'
    exact hk

theorem Agrees.proceed {nowMs : Nat} {identifier : Option String} {a : Attempts σ}
    {r : Option Transition} (h : Agrees c t)
    (eq : t.attempts.act t.settings ask nowMs identifier = (a, r)) : Agrees c (t.proceed a) := by
  refine ⟨h.actions, ?_, h.concludes⟩
  exact (Attempts.act_sessions eq).trans h.sessions

theorem Reaches.agrees (h : Reaches ask c t) : Agrees c t := by
  induction h with
  | start => exact agrees_start c
  | step hr runs hs ih =>
    have hl := hr.latch_eq_none runs
    cases hs with
    | clock | countdown | host | page => exact ⟨ih.actions, ih.sessions, ih.concludes⟩
    | attempt _ _ eq _ => exact ih.proceed eq
    | resolve _ _ eq =>
      have hk := Attempts.act_concludes eq
      rw [hr.settings_eq] at hk ⊢
      exact (ih.proceed eq).settle hl hk
    | deadline =>
      have h' : Agrees c { (_ : Session σ) with deadline := none } :=
        ⟨ih.actions, ih.sessions, ih.concludes⟩
      exact h'.settle hl (Or.inr ⟨_, by rw [hr.settings_eq]⟩)

/-! ## The end -/

/-- **Exactly one effect.** At the end of a session the page was left at most once. It was not
left where there is no conclusion, the form was submitted where the session succeeded, with the
status that means success, and otherwise the page was navigated to the destination of the reason.
A conclusion is counted once, with its kind and its code, and the session is over for all its
parts. -/
theorem finishes_effect {order : Order} (h : Finishes order ask c t) :
    t.actions.length ≤ 1 ∧
    (t.actions = [] ↔ (report c t).conclusion = none) ∧
    (∀ form, t.actions = [.submit form] ↔
      form = c.settings.page.successForm ∧
        (report c t).conclusion = some (.succeeded c.settings.statuses.success form)) ∧
    (∀ location, t.actions = [.navigate location] ↔
      ∃ reason, location = c.settings.failure.destinationFor reason.code ∧
        (report c t).conclusion = some (.failed reason location)) ∧
    t.attempts.journal.metrics.filter (·.name = "poller_sessions_total") =
      ((report c t).conclusion.map fun k => Metric.session k.kind k.code).toList ∧
    t.cancelled = true := by
  obtain ⟨v, hv, hover, rfl⟩ := h.reaches
  obtain ⟨hactions, hsessions, hconcludes⟩ := hv.agrees
  have hmetrics : v.close.attempts.journal.sessions = v.attempts.journal.sessions := by
    rw [close_attempts, Attempts.abandon_sessions]
  have hreport : (report c v.close).conclusion = v.latch.get? := by
    rw [report, close_latch]
  rw [hreport, close_actions, close_cancelled, hactions]
  refine ⟨?_, ?_, ?_, ?_, hmetrics.trans hsessions, hover⟩
  · cases v.latch.get? <;> simp
  · cases v.latch.get? <;> simp
  · intro form
    cases hk : v.latch.get? with
    | none => simp
    | some k =>
      rcases hconcludes k hk with rfl | ⟨reason, rfl⟩
      · simp [Conclusion.action, eq_comm]
      · simp [Conclusion.action, Settings.failed]
  · intro location
    cases hk : v.latch.get? with
    | none => simp
    | some k =>
      rcases hconcludes k hk with rfl | ⟨reason, rfl⟩
      · simp [Conclusion.action]
      · simp only [Option.map_some, Option.toList_some, Settings.failed, Conclusion.action]
        constructor
        · intro heq
          cases heq
          exact ⟨reason, rfl, rfl⟩
        · rintro ⟨reason', rfl, heq⟩
          cases heq
          rfl

/-- A session that is approved at the instant of its deadline, at which its host cancels, too. -/
def rush : Scenario (List Answer) where
  settings := { retry := { delayMs := 3000 }, deadline := { timeoutSecs := 3 } }
  page := { inputs := [("pushAuthPushId", "p-1")] }
  source := [⟨some 0, .ok "PENDING"⟩, ⟨some 0, .ok "APPROVED"⟩]
  cancelAtMs := some 3000

theorem finishes_effect_rush :
    ∃ t, Finishes Order.usual (Script.ask "PENDING") rush t ∧
      t.actions = [.submit "push-approve-form"] := by
  have hconclusion : (run Order.usual (Script.ask "PENDING") 6 (start rush)).map
      (·.latch.get?) = some (some (.succeeded "APPROVED" "push-approve-form")) := by
    decide +kernel
  obtain ⟨t, ht, hconclusion⟩ := Option.map_eq_some_iff.mp hconclusion
  exact ⟨t, ⟨6, ht⟩, ((finishes_effect ⟨6, ht⟩).2.2.1 _).mpr ⟨rfl, hconclusion⟩⟩

end Session

end ApprovalWatch
