import ApprovalWatch.Attempts

/-!
# What attempts do

Attempts that do what they have due begin an attempt or complete one. An attempt that is begun may
be completed at once. A reply completes it, with one of five decisions.

Main results:

* `Inquiry.interpret_decides`: what a reply counts as, and what follows.
* `act_acts`: what is due now is one of five things.
* `act_looks`: a look is made where one was due.
* `act_due?_ge`: what is due next is later, if there is a delay between the attempts.
-/

namespace ApprovalWatch

/-! ## Decisions -/

/-- What a reply does to the counts, and what follows. -/
inductive Inquiry.Decides (s : Settings) (tally : Tally) : Reply → Tally → Transition → Prop
  | success :
      Decides s tally (.ok s.statuses.success) { tally with consecutiveFailures := 0 }
        (.resolve (.success (Status.ofName s.statuses.success)))
  | terminal {status : String} (other : status ≠ s.statuses.success)
      (ends : status ∈ s.statuses.terminalFailures) :
      Decides s tally (.ok status) { tally with consecutiveFailures := 0 }
        (.resolve (.failure (.terminalStatus status)))
  | pending {status : String} (other : status ≠ s.statuses.success)
      (goes : status ∉ s.statuses.terminalFailures) :
      Decides s tally (.ok status)
        { tally with
          consecutiveFailures := 0
          pendingResponses := tally.pendingResponses + 1 }
        (.retry (.nonTerminal (Status.ofName status)))
  | exhausted {e : QueryFailure} (enough : exhausts s (tally.consecutiveFailures + 1) = true) :
      Decides s tally (.error e)
        { tally with
          transientFailures := tally.transientFailures + 1
          consecutiveFailures := tally.consecutiveFailures + 1 }
        (.resolve (.failure .transportExhausted))
  | transient {e : QueryFailure} (spared : exhausts s (tally.consecutiveFailures + 1) = false) :
      Decides s tally (.error e)
        { tally with
          transientFailures := tally.transientFailures + 1
          consecutiveFailures := tally.consecutiveFailures + 1 }
        (.retry .transient)

theorem Inquiry.interpret_decides (s : Settings) (q : Inquiry) (reply : Reply) :
    Decides s q.tally reply (q.interpret s reply).1.tally (q.interpret s reply).2 := by
  cases reply with
  | ok status =>
    simp only [interpret]
    split
    · rename_i hs
      subst hs
      exact .success
    · rename_i hs
      split
      · rename_i ht
        exact .terminal hs ht
      · rename_i ht
        exact .pending hs ht
  | error e =>
    simp only [interpret]
    split
    · rename_i enough
      exact .exhausted enough
    · rename_i spared
      exact .transient (by simpa using spared)

/-- The end of a session after a decision, if it resolves. -/
def Settings.concluded? (s : Settings) : Transition → Option Conclusion
  | .retry _ => none
  | .resolve r => some (s.conclusion r)

end ApprovalWatch

namespace ApprovalWatch.Attempts

variable {σ : Type} {s : Settings} {ask : Source σ} {a b : Attempts σ} {nowMs dueMs : Nat}
  {identifier : Option String} {r : Option Transition}

/-- What attempts do at an instant, where a look finds the given identifier. -/
inductive Acts (s : Settings) (ask : Source σ) (a : Attempts σ) (nowMs : Nat) :
    Option String → Attempts σ → Option Transition → Prop
  | miss (rests : a.isResting = true) :
      Acts s ask a nowMs none (a.miss s nowMs) (some (.retry .identifierAbsent))
  | launch {id : String} (rests : a.isResting = true)
      (later : (ask a.source id).1.latencyMs ≠ some 0) :
      Acts s ask a nowMs (some id) (a.launch nowMs id (ask a.source id).1 (ask a.source id).2) none
  | answer {id : String} {asking : Attempts σ} {reply : Reply} (rests : a.isResting = true)
      (atOnce : (ask a.source id).1.latencyMs = some 0)
      (launched : asking = a.launch nowMs id (ask a.source id).1 (ask a.source id).2)
      (replied : reply = (ask a.source id).1.reply) :
      Acts s ask a nowMs (some id) (Attempts.complete s asking nowMs nowMs reply).1
        (some (Attempts.complete s asking nowMs nowMs reply).2)
  | complete {identifier : Option String} {sinceMs : Nat} {answer : Answer}
      (asks : a.activity = .asking sinceMs answer) :
      Acts s ask a nowMs identifier (Attempts.complete s a nowMs sinceMs answer.reply).1
        (some (Attempts.complete s a nowMs sinceMs answer.reply).2)
  | ended {identifier : Option String} (ended : a.activity = .ended) :
      Acts s ask a nowMs identifier a none

theorem act_acts (eq : act s ask a nowMs identifier = (b, r)) :
    Acts s ask a nowMs identifier b r := by
  unfold act at eq
  cases hact : a.activity with
  | resting =>
    have rests : a.isResting = true := by simp [isResting, hact]
    simp only [hact] at eq
    cases identifier with
    | none =>
      cases eq
      exact .miss rests
    | some id =>
      rw [begin_some] at eq
      dsimp only at eq
      split at eq
      · rename_i atOnce
        cases eq
        exact .answer rests atOnce rfl rfl
      · rename_i later
        cases eq
        exact .launch rests later
  | asking =>
    simp only [hact] at eq
    cases eq
    exact .complete hact
  | ended =>
    simp only [hact] at eq
    cases eq
    exact .ended hact

/-! ## Looks -/

@[simp] theorem complete_looks (s : Settings) (a : Attempts σ) (nowMs sinceMs : Nat)
    (reply : Reply) : (complete s a nowMs sinceMs reply).1.journal.looks = a.journal.looks :=
  rfl

/-- A look is recorded where one was due. -/
theorem act_looks (eq : act s ask a nowMs identifier = (b, r)) :
    b.journal.looks =
      if a.isResting then ⟨nowMs, identifier⟩ :: a.journal.looks else a.journal.looks := by
  cases act_acts eq with
  | miss rests | launch rests => rw [if_pos rests]; rfl
  | answer rests _ launched => rw [if_pos rests, complete_looks, launched]; rfl
  | complete asks => simp [isResting, asks]
  | ended ended => simp [isResting, ended]

/-- What the page holds does not matter to attempts that do not look. -/
theorem act_congr (h : a.isResting = false) (found found' : Option String) :
    act s ask a nowMs found = act s ask a nowMs found' := by
  unfold act
  cases hact : a.activity with
  | resting => simp [isResting, hact] at h
  | asking | ended => rfl

/-! ## Due times -/

theorem complete_due?_ge {sinceMs : Nat} {reply : Reply}
    (h : (complete s a nowMs sinceMs reply).1.due? = some dueMs) :
    nowMs + min 1 s.retry.delayMs ≤ dueMs := by
  unfold complete due? at h
  dsimp only at h
  cases htr : (a.inquiry.interpret s reply).2 with
  | retry =>
    simp only [htr, Option.some.injEq] at h
    omega
  | resolve => simp [htr] at h

/-- What attempts have to do next is not in the past, and in the future if there is a delay. -/
theorem act_due?_ge (eq : act s ask a nowMs identifier = (b, r)) (due : b.due? = some dueMs) :
    nowMs + min 1 s.retry.delayMs ≤ dueMs := by
  cases act_acts eq with
  | miss =>
    simp only [miss, due?, Option.some.injEq] at due
    omega
  | launch _ later =>
    simp only [launch, due?, Option.map_eq_some_iff] at due
    obtain ⟨l, hl, rfl⟩ := due
    have hne : l ≠ 0 := fun h0 => later (by rw [hl, h0])
    omega
  | answer | complete => exact complete_due?_ge due
  | ended ended => simp [ended, due?] at due

/-! ## Resolution -/

theorem complete_resolve {sinceMs : Nat} {reply : Reply} {x : Resolution}
    (h : (complete s a nowMs sinceMs reply).2 = .resolve x) :
    (complete s a nowMs sinceMs reply).1.activity = .ended := by
  unfold complete at h ⊢
  dsimp only at h ⊢
  rw [h]

/-- Attempts that are resolved are over. -/
theorem act_resolve {x : Resolution} (eq : act s ask a nowMs identifier = (b, some (.resolve x))) :
    b.activity = .ended := by
  generalize hr : some (Transition.resolve x) = r at eq
  cases act_acts eq with
  | miss | launch | ended => cases hr
  | answer | complete => exact complete_resolve (Option.some.inj hr).symm

end ApprovalWatch.Attempts
